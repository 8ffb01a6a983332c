import Mathlib.Data.List.Chain
import LosslessScanner.Proofs.Bytes
import LosslessScanner.Proofs.Munch

/-!
# Spans tile the source

A scanner that loses nothing gives back the text when its tokens are put
together. Its spans have to say the same thing in bytes: cut the UTF-8 form of
the source where they begin and end, and the pieces are the contents of the
tokens, without a gap, without an overlap, and without half a character.

A token knows nothing of its place. Its span is the sum of the sizes in front
of it, so the whole argument is one decomposition (`exists_of_mem_locate`): a
located token has some tokens before it and some behind it, and it begins at the
size of the text of those before. What the spans cut out then follows from how
the encoding of a text is put together.
-/

namespace LosslessScanner

namespace Token

theorem text_append (ts us : List Token) : text (ts ++ us) = text ts ++ text us := by
  simp [text]

theorem locate_append (start : Nat) (ts us : List Token) :
    locate start (ts ++ us) =
      locate start ts ++ locate (start + (text ts).byteSize) us := by
  induction ts generalizing start with
  | nil => rfl
  | cons t ts ih => simp [locate, ih, size, Nat.add_assoc]

theorem token_mem_of_mem_locate {start : Nat} {ts : List Token} {u : LocatedToken}
    (h : u ∈ locate start ts) : u.token ∈ ts := by
  rw [← map_token_locate start ts]
  exact List.mem_map_of_mem h

/-- A located token begins where the text of the tokens before it ends. -/
theorem exists_of_mem_locate {start : Nat} {ts : List Token} {u : LocatedToken}
    (h : u ∈ locate start ts) :
    ∃ before behind, ts = before ++ u.token :: behind ∧
      u.span.start = start + (text before).byteSize ∧
      u.span.stop = u.span.start + u.token.size := by
  induction ts generalizing start with
  | nil => exact absurd h List.not_mem_nil
  | cons t ts ih =>
      rcases List.mem_cons.1 h with rfl | hmem
      · exact ⟨[], ts, rfl, rfl, rfl⟩
      · obtain ⟨before, behind, rfl, hstart, hstop⟩ := ih hmem
        refine ⟨t :: before, behind, rfl, ?_, hstop⟩
        rw [hstart, text_cons, Text.byteSize_append, size, Nat.add_assoc]

theorem isChain_locate (start : Nat) (ts : List Token) :
    (locate start ts).IsChain fun u v => v.span.start = u.span.stop := by
  induction ts generalizing start with
  | nil => exact .nil
  | cons t ts ih =>
      cases ts with
      | nil => exact .singleton _
      | cons u us => exact .cons_cons rfl (ih _)

end Token

/-- The spans of the tokens tile the bytes: together they cover them from the
first to the last, each cuts out the contents of its token and does not begin
inside a character, and the mark stands behind all of them and nowhere else. -/
structure Tiles (bytes : ByteArray) (ts : List LocatedToken) : Prop where
  first : ts.head?.map (·.span.start) = some 0
  adjacent : ts.IsChain fun t u => u.span.start = t.span.stop
  nonempty : ∀ t ∈ ts, t.token.kind ≠ .endOfFile → t.span.start < t.span.stop
  le : ∀ t ∈ ts, t.span.start ≤ t.span.stop ∧ t.span.stop ≤ bytes.size
  slice : ∀ t ∈ ts,
    bytes.extract t.span.start t.span.stop = t.token.contents.utf8Encode
  boundary : ∀ t ∈ ts, ∃ before : Text,
    bytes.extract 0 t.span.start = before.utf8Encode
  whole : (Token.text (ts.map (·.token))).utf8Encode = bytes
  mark : ∃ front, ts = front ++ [⟨Token.endOfFile, ⟨bytes.size, bytes.size⟩⟩] ∧
    ∀ t ∈ front, t.token.kind ≠ .endOfFile

theorem scanFile_eq_append (source : Text) :
    scanFile source = Token.locate 0 (scan source) ++
      [⟨Token.endOfFile, ⟨source.byteSize, source.byteSize⟩⟩] := by
  rw [scanFile, scanAt, Token.locate_append, text_scan, Nat.zero_add]
  rfl

theorem text_scan_append_mark (source : Text) :
    Token.text (scan source ++ [Token.endOfFile]) = source := by
  rw [Token.text_append, text_scan]
  exact List.append_nil source

/-- The span of a token says how much of the source is in front of the token. -/
theorem exists_of_mem_scanFile {source : Text} {t : LocatedToken}
    (h : t ∈ scanFile source) :
    ∃ before behind : Text, source = before ++ t.token.contents ++ behind ∧
      t.span.start = before.byteSize ∧
      t.span.stop = before.byteSize + t.token.contents.byteSize := by
  obtain ⟨before, behind, hts, hstart, hstop⟩ := Token.exists_of_mem_locate h
  rw [Nat.zero_add] at hstart
  refine ⟨Token.text before, Token.text behind, ?_, hstart, ?_⟩
  · rw [← text_scan_append_mark source, hts, Token.text_append, Token.text_cons,
      List.append_assoc]
  · rw [hstop, hstart, Token.size]

theorem contents_ne_nil_of_mem_scanFile {source : Text} {t : LocatedToken}
    (h : t ∈ scanFile source) (hkind : t.token.kind ≠ .endOfFile) :
    t.token.contents ≠ [] := by
  rw [scanFile_eq_append] at h
  rcases List.mem_append.1 h with hmem | hmem
  · exact (wellFormed_of_mem_scan (Token.token_mem_of_mem_locate hmem)).ne_nil
  · obtain rfl := List.mem_singleton.1 hmem
    exact absurd rfl hkind

/-- The spans of a scan tile the bytes of what was scanned. -/
theorem tiles_scanFile (source : Text) : Tiles source.utf8Encode (scanFile source) where
  first := by
    rw [scanFile, scanAt]
    cases scan source with
    | nil => rfl
    | cons t ts => rfl
  adjacent := Token.isChain_locate 0 _
  nonempty := fun t ht hkind => by
    obtain ⟨before, behind, -, hstart, hstop⟩ := exists_of_mem_scanFile ht
    have hsize := mt Text.byteSize_eq_zero_iff.1 (contents_ne_nil_of_mem_scanFile ht hkind)
    omega
  le := fun t ht => by
    obtain ⟨before, behind, hsource, hstart, hstop⟩ := exists_of_mem_scanFile ht
    have hsize := congrArg Text.byteSize hsource
    rw [Text.byteSize_append, Text.byteSize_append] at hsize
    rw [Text.size_utf8Encode]
    omega
  slice := fun t ht => by
    obtain ⟨before, behind, hsource, hstart, hstop⟩ := exists_of_mem_scanFile ht
    rw [hstart, hstop, hsource]
    exact Text.extract_utf8Encode before t.token.contents behind
  boundary := fun t ht => by
    obtain ⟨before, behind, hsource, hstart, -⟩ := exists_of_mem_scanFile ht
    refine ⟨before, ?_⟩
    rw [hstart, hsource, List.append_assoc]
    have h := Text.extract_utf8Encode [] before (t.token.contents ++ behind)
    rwa [List.nil_append, Text.byteSize_nil, Nat.zero_add] at h
  whole := by rw [scanFile, scanAt, Token.map_token_locate, text_scan_append_mark]
  mark := by
    refine ⟨Token.locate 0 (scan source), ?_, fun t ht => ?_⟩
    · rw [scanFile_eq_append, Text.size_utf8Encode]
    · exact (wellFormed_of_mem_scan (Token.token_mem_of_mem_locate ht)).kind_ne

end LosslessScanner
