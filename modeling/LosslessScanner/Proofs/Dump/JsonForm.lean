import LosslessScanner.Proofs.Dump.TextForm
import LosslessScanner.Proofs.Json

/-!
# The JSON dump read back

The JSON dump is laid out for people, over lines that are set in, and is meant
for programs. So it is read here by a reader that knows nothing of the layout:
the line feeds and the blanks in front of the lines are gone with the first step
of reading, and what is left of an element are the same twenty-five atoms for
every token, of which only four differ.

The second step then goes through an element at once, by computation, because
what it does next never depends on the four values. The induction is on the
elements alone, and the array that is open holds those that were read.
-/

namespace LosslessScanner

def LocatedToken.toJson (t : LocatedToken) : Json :=
  .object
    [("token".toList, .object
      [("kind".toList, .string t.token.kind.name), ("contents".toList, .string t.token.contents)]),
     ("span".toList, .object
      [("start".toList, .number t.span.start), ("end".toList, .number t.span.stop)])]

theorem LocatedToken.toJson_injective : Function.Injective toJson := by
  intro t u h
  simp only [toJson, Json.object.injEq, List.cons.injEq, Prod.mk.injEq, Json.string.injEq,
    Json.number.injEq, Nat.cast_inj, true_and, and_true] at h
  obtain ⟨⟨hkind, hcontents⟩, hstart, hstop⟩ := h
  obtain ⟨⟨kind, contents⟩, ⟨start, stop⟩⟩ := t
  obtain rfl := Kind.name_injective hkind
  obtain rfl := hcontents
  obtain rfl := hstart
  obtain rfl := hstop
  rfl

namespace Dump

open Json (Atom Frame atoms?)

def elementAtoms (t : LocatedToken) : List Atom :=
  [.openObject,
   .scalar (.string "token".toList), .colon, .openObject,
   .scalar (.string "kind".toList), .colon, .scalar (.string t.token.kind.name), .comma,
   .scalar (.string "contents".toList), .colon, .scalar (.string t.token.contents),
   .closeObject, .comma,
   .scalar (.string "span".toList), .colon, .openObject,
   .scalar (.string "start".toList), .colon, .scalar (.number t.span.start), .comma,
   .scalar (.string "end".toList), .colon, .scalar (.number t.span.stop),
   .closeObject, .closeObject]

/-- The atoms of the elements of an array, and of the bracket behind them. -/
def arrayAtoms (ts : List LocatedToken) : List Atom :=
  [.comma].intercalate (ts.map elementAtoms) ++ [.closeArray]

theorem arrayAtoms_singleton (t : LocatedToken) :
    arrayAtoms [t] = elementAtoms t ++ [.closeArray] := by
  rw [arrayAtoms, List.map_singleton, List.intercalate_singleton]

theorem arrayAtoms_cons_cons (t u : LocatedToken) (ts : List LocatedToken) :
    arrayAtoms (t :: u :: ts) = elementAtoms t ++ .comma :: arrayAtoms (u :: ts) := by
  simp only [arrayAtoms, List.map_cons, List.intercalate_cons_cons, List.append_assoc,
    List.cons_append, List.nil_append]

/-! ## From text to atoms -/

section Text

variable (r : Text)

theorem atoms?_feed : atoms? ('\n' :: r) = atoms? r := Json.atoms?_blank r rfl

theorem atoms?_jsonElement (t : LocatedToken) :
    atoms? (jsonElement t ++ r) = (atoms? r).map (elementAtoms t ++ ·) := by
  have hopen (r : Text) := Json.atoms?_mark r (c := '\x7b') rfl
  have hclose (r : Text) := Json.atoms?_mark r (c := '\x7d') rfl
  have hcolon (r : Text) := Json.atoms?_mark r (c := ':') rfl
  have hcomma (r : Text) := Json.atoms?_mark r (c := ',') rfl
  have hblank (r : Text) : atoms? (' ' :: r) = atoms? r := Json.atoms?_blank r rfl
  -- behind the two numbers stand a comma and a line feed, which no numeral goes on with
  have hstart (r : Text) := Json.atoms?_ofNat (r := ',' :: r) t.span.start rfl
  have hstop (r : Text) := Json.atoms?_ofNat (r := '\n' :: r) t.span.stop rfl
  simp only [jsonElement, Text.joinLines, List.intercalate_cons_cons, List.intercalate_singleton,
    indented, field, List.append_assoc, List.cons_append, List.nil_append, hopen, hclose, hcolon,
    hcomma, hblank, hstart, hstop, atoms?_feed, Json.atoms?_jsonString, Json.atoms?_blanks]
  cases atoms? r
  · rfl
  · rfl

theorem atoms?_elements (t : LocatedToken) (ts : List LocatedToken) :
    atoms? ([',', '\n'].intercalate ((t :: ts).map jsonElement) ++ ['\n', ']']) =
      some (arrayAtoms (t :: ts)) := by
  induction ts generalizing t with
  | nil =>
      have hclose : atoms? ['\n', ']'] = some [.closeArray] := by
        rw [atoms?_feed, Json.atoms?_mark [] (c := ']') rfl, atoms?]
        rfl
      rw [List.map_singleton, List.intercalate_singleton, atoms?_jsonElement, hclose,
        arrayAtoms_singleton]
      rfl
  | cons u ts ih =>
      rw [List.map_cons, List.map_cons, List.intercalate_cons_cons, ← List.map_cons,
        List.append_assoc, List.append_assoc, atoms?_jsonElement, List.cons_append,
        Json.atoms?_mark _ (c := ',') rfl, List.singleton_append, atoms?_feed, ih,
        arrayAtoms_cons_cons]
      rfl

end Text

/-! ## From atoms to the array -/

/-- The reader goes through an element as a whole, whatever is open around it. -/
theorem value?_elementAtoms (frames : List Frame) (t : LocatedToken) (as : List Atom) :
    Json.value? frames (elementAtoms t ++ as) = Json.after? frames t.toJson as := rfl

theorem value?_arrayAtoms (before : List Json) (t : LocatedToken) (ts : List LocatedToken) :
    Json.value? [.array before] (arrayAtoms (t :: ts)) =
      some (.array (before ++ (t :: ts).map LocatedToken.toJson)) := by
  induction ts generalizing before t with
  | nil =>
      rw [arrayAtoms_singleton, value?_elementAtoms]
      rfl
  | cons u ts ih =>
      rw [arrayAtoms_cons_cons, value?_elementAtoms]
      show Json.value? [.array (before ++ [t.toJson])] (arrayAtoms (u :: ts)) = _
      rw [ih, List.append_assoc]
      rfl

/-- An array begins, and it is not empty. -/
theorem value?_openArray (t : LocatedToken) (ts : List LocatedToken) :
    Json.value? [] (.openArray :: arrayAtoms (t :: ts)) =
      Json.value? [.array []] (arrayAtoms (t :: ts)) := by
  match ts with
  | [] =>
      rw [arrayAtoms_singleton]
      rfl
  | u :: ts =>
      rw [arrayAtoms_cons_cons]
      rfl

theorem ofText?_jsonForm (ts : List LocatedToken) :
    Json.ofText? (jsonForm ts) = some (.array (ts.map LocatedToken.toJson)) := by
  rw [Json.ofText?]
  match ts with
  | [] =>
      rw [jsonForm, Json.atoms?_mark _ (c := '[') rfl, Json.atoms?_mark _ (c := ']') rfl, atoms?]
      rfl
  | t :: ts =>
      have hform : jsonForm (t :: ts) =
          '[' :: '\n' :: ([',', '\n'].intercalate ((t :: ts).map jsonElement) ++ ['\n', ']']) := by
        simp only [jsonForm, List.cons_append, List.nil_append]
      rw [hform, Json.atoms?_mark _ (c := '[') rfl, atoms?_feed, atoms?_elements]
      show Json.value? [] (.openArray :: arrayAtoms (t :: ts)) = _
      rw [value?_openArray, value?_arrayAtoms, List.nil_append]

theorem ofText?_render_json (trivia : Bool) (ts : List LocatedToken) :
    Json.ofText? (render ⟨.json, trivia⟩ ts) =
      some (.array ((kept trivia ts).map LocatedToken.toJson)) := by
  rw [render, select_eq_kept]
  exact ofText?_jsonForm (kept trivia ts)

/-! ## The source in a dump -/

/-- The contents of a token in a decoded dump. -/
def contents? (element : Json) : Option Text := do
  let token ← element.member? "token".toList
  (← token.member? "contents".toList).string?

/-- The contents of all tokens in a decoded dump, put together. -/
def source? (dump : Json) : Option Text := do
  let contents ← (← dump.elements?).mapM contents?
  some contents.flatten

theorem mapM_contents? (ts : List LocatedToken) :
    (ts.map LocatedToken.toJson).mapM contents? = some (ts.map fun t => t.token.contents) := by
  induction ts with
  | nil => rfl
  | cons t ts ih =>
      have hcontents : contents? t.toJson = some t.token.contents := rfl
      rw [List.map_cons, List.mapM_cons, hcontents, ih]
      rfl

theorem source?_array (ts : List LocatedToken) :
    source? (.array (ts.map LocatedToken.toJson)) =
      some (Token.text (ts.map LocatedToken.token)) := by
  show (do some (← (ts.map LocatedToken.toJson).mapM contents?).flatten) = _
  rw [mapM_contents?, Token.text, List.flatMap_def, List.map_map]
  rfl

/-- A JSON dump is a document. Its value is the array of the tokens that are kept, which are
those that the text dump shows as well, and the contents of all tokens of a source are the source. -/
theorem render_json_readable (trivia : Bool) (ts : List LocatedToken) :
    Json.ofText? (render ⟨.json, trivia⟩ ts) =
      some (.array ((kept trivia ts).map LocatedToken.toJson)) ∧
    ofText? (render ⟨.text, trivia⟩ ts) = some (kept trivia ts) ∧
    (∀ trivia' us, render ⟨.json, trivia'⟩ us = render ⟨.json, trivia⟩ ts ↔
      kept trivia' us = kept trivia ts) ∧
    ∀ s : Text, (Json.ofText? (render ⟨.json, true⟩ (scanFile s))).bind source? = some s := by
  refine ⟨ofText?_render_json trivia ts, ofText?_render trivia ts,
    fun trivia' us => ⟨fun h => ?_, fun h => ?_⟩, fun s => ?_⟩
  · have hread := ofText?_render_json trivia' us
    rw [h, ofText?_render_json, Option.some.injEq, Json.array.injEq] at hread
    exact (LocatedToken.toJson_injective.list_map hread).symm
  · rw [render, render, select_eq_kept, select_eq_kept, h]
  · rw [ofText?_render_json, Option.bind_some, source?_array, kept, if_pos rfl, scanFile, scanAt,
      Token.map_token_locate, text_scan_append_mark]

end Dump

end LosslessScanner
