import LosslessScanner.Proofs.Emission
import LosslessScanner.Proofs.LosslessFile
import LosslessScanner.Proofs.Outcome

/-!
# The two commands on a file

Dumping a file and checking it go different ways. A dump shows tokens, with
trivia or without; a check collects what is wrong, shows it against the source,
and passes or fails. They agree on every file.

They read it in the same way, so they refuse the same files. And a check fails
because of as many errors as the dump has undefined tokens: an error is made of
each of these, leaving out trivia leaves out none of them, and nothing else can
make a check fail, neither a warning nor the showing of the diagnostics
(`Session.emit_check`).
-/

namespace LosslessScanner

/-- How many of the tokens have no place in the language. -/
def undefinedCount (ts : List LocatedToken) : Nat := ts.countP (·.token.kind = .undefined)

namespace Session

theorem isSome_errorOf? (t : LocatedToken) :
    (errorOf? t).isSome = decide (t.token.kind = .undefined) := by
  unfold errorOf?
  split
  · next h => rw [h]; rfl
  · next h => rw [decide_eq_false h]; rfl

/-- A dump shows as many undefined tokens as a check finds errors. -/
theorem length_errors_inspect (d : Dump) (source : Text) :
    (inspect source).errors.length = undefinedCount (d.select (scanFile source)) := by
  have hmark : undefinedCount
      [⟨Token.endOfFile, ⟨source.byteSize, source.byteSize⟩⟩] = 0 := rfl
  have hselect (ts : List LocatedToken) : undefinedCount (d.select ts) = undefinedCount ts := by
    rw [undefinedCount, Dump.select, List.countP_filter]
    refine List.countP_congr ?_
    intro t _
    rw [Bool.and_eq_true, decide_eq_true_eq]
    constructor
    · intro h
      exact h.1
    · intro h
      simp [h, Kind.isTrivia]
  rw [hselect, scanFile_eq_append, undefinedCount, List.countP_append, ← undefinedCount,
    ← undefinedCount, hmark, Nat.add_zero, inspect, List.length_map,
    List.length_filterMap_eq_countP]
  simp only [isSome_errorOf?]
  rfl

end Session

namespace Program

section Commands

variable (console : Console)

theorem tokens_of_eq_none {bytes : ByteArray} (h : Text.ofUtf8? bytes = none) (path : Text)
    (d : Dump) :
    tokens console path d (.ok bytes) =
      Run.after [note .info ("Scanning ".toList ++ Text.quoted path)]
        (Run.failed console (Session.notText path).message) := by
  rw [tokens, Session.ofFile_of_eq_none h]

theorem check_of_eq_none {bytes : ByteArray} (h : Text.ofUtf8? bytes = none) (path : Text)
    (color : Bool) :
    check console path color (.ok bytes) =
      Run.after [note .info ("Checking ".toList ++ Text.quoted path)]
        (Run.failed console (Session.notText path).message) := by
  rw [check, Session.ofFile_of_eq_none h]

/-- What a check comes to, given the number of errors. -/
def verdict (path : Text) : Nat → Run
  | 0 => Run.done [.output (console.success ++ ": No errors found\n".toList)]
  | n + 1 => Run.failed console (Text.ofNat (n + 1) ++ " lexical error(s) in ".toList ++ path)

theorem tokens_of_eq_some {bytes : ByteArray} {source : Text}
    (h : Text.ofUtf8? bytes = some source) (path : Text) (d : Dump) :
    (tokens console path d (.ok bytes)).code = 0 ∧
      (tokens console path d (.ok bytes)).output = d.render (scanFile source) ++ ['\n'] := by
  rw [tokens, Session.ofFile_of_eq_some h]
  refine ⟨rfl, ?_⟩
  rw [Run.output_after]
  simp [Run.output, Run.done, note, Session.tokens, Session.ofText]

/-- What a check records. -/
def checkRecords (path source : Text) : List Log.Record :=
  let s := Session.ofText path source
  ⟨.info, .program, "Checking ".toList ++ Text.quoted path⟩ :: s.loaded :: s.checkLog

/-- The log, then all that was found, then the verdict. -/
theorem check_of_eq_some {bytes : ByteArray} {source : Text}
    (h : Text.ofUtf8? bytes = some source) (path : Text) (color : Bool) :
    check console path color (.ok bytes) =
      Run.after ((checkRecords path source).map .log ++
          [.complaint ((Session.inspect source).diagnostics.flatMap
            ((Session.ofText path source).shown color))])
        (verdict console path (Session.inspect source).errors.length) := by
  have hreport : (Session.ofText path source).check.report = Session.inspect source := rfl
  rw [check, Session.ofFile_of_eq_some h]
  simp only [Session.emit_check]
  rw [hreport]
  cases (Session.inspect source).errors.length with
  | zero => rfl
  | succ n => rfl

end Commands

/-- A check that passes. The first word of its one line is styled if words are. -/
structure Passes (console : Console) (o : Outcome) : Prop where
  code : o.code = 0
  output : o.output = (if console.styles then "\x1b[1;32msuccess\x1b[0m: No errors found\n"
    else "success: No errors found\n").toList

/-- A check that fails because of `n` errors, on what it found in a listing. Behind the log, the
error output has the diagnostics one by one, and then a complaint, its first word styled if words
are, that says how many errors there are. -/
structure Fails (console : Console) (l : Listing) (color : Bool) (ds : List Diagnostic) (n : Nat)
    (log : Text) (o : Outcome) : Prop where
  code : o.code = 1
  output : o.output = []
  errors : ds.countP (·.severity = .error) = n
  headed : ∀ d ∈ ds, Listing.headline d <+: l.alone d
  complaints : o.complaints = log ++ (ds.flatMap (fun d => Piece.write color (l.alone d)) ++
    ((if console.styles then "\x1b[1;31merror\x1b[0m: " else "error: ").toList ++ Text.ofNat n
      ++ " lexical error(s) in ".toList ++ l.name ++ ['\n']))

theorem countP_error_diagnostics (r : Report) :
    r.diagnostics.countP (·.severity = .error) = r.errors.length := by
  have herrors : (fun d : Diagnostic => decide (d.severity = .error)) ∘
      (Finding.diagnose .error) = fun _ => true := rfl
  have hwarnings : (fun d : Diagnostic => decide (d.severity = .error)) ∘
      (Finding.diagnose .warning) = fun _ => false := rfl
  rw [Report.diagnostics, List.countP_append, List.countP_map, List.countP_map, herrors,
    hwarnings, List.countP_true, List.countP_false]
  rfl

section Check

variable {env : Environment} {path source : Text} {bytes : ByteArray} {args : List Text}
  {w : Bool} {e : ColorMode} {console : Console} (time : Text)

theorem run_check (hread : env.read path = .ok bytes)
    (hparse : CommandLine.parse args = .run ⟨.check path, w, e⟩) :
    run console env (CommandLine.parse args) =
      check console path (colors env e) (.ok bytes) := by
  rw [hparse, ← hread]
  rfl

theorem passes_of_errors_eq_zero
    (hrun : run console env (CommandLine.parse args) =
      check console path (colors env e) (.ok bytes))
    (hsource : Text.ofUtf8? bytes = some source)
    (hzero : (Session.inspect source).errors.length = 0) :
    Passes console (outcome time env args console) := by
  rw [check_of_eq_some console hsource, hzero] at hrun
  constructor
  · rw [outcome_code, hrun]
    rfl
  · rw [← console.success_eq, outcome_output, hrun, Run.output_after]
    simp [verdict, Run.output, Run.done]

theorem fails_of_errors_ne_zero
    (hrun : run console env (CommandLine.parse args) =
      check console path (colors env e) (.ok bytes))
    (hsource : Text.ofUtf8? bytes = some source)
    (hn : (Session.inspect source).errors.length ≠ 0) :
    Fails console ⟨path, source⟩ (colors env e) (Session.inspect source).diagnostics
      (Session.inspect source).errors.length
      (logText time env (CommandLine.parse args) (checkRecords path source))
      (outcome time env args console) := by
  rw [check_of_eq_some console hsource] at hrun
  obtain ⟨n, hlength⟩ := Nat.exists_eq_succ_of_ne_zero hn
  rw [hlength] at hrun ⊢
  constructor
  · rw [outcome_code, hrun]
    rfl
  · rw [outcome_output, hrun, Run.output_after]
    simp [verdict, Run.output, Run.failed]
  · rw [countP_error_diagnostics, hlength]
  · intro d hd
    exact (Listing.render?_of_placed (Session.isPlaced_of_mem_inspect hd)).2
  · have hevents : (run console env (CommandLine.parse args)).events =
        (checkRecords path source).map .log ++
          (.complaint ((Session.inspect source).diagnostics.flatMap
            ((Session.ofText path source).shown (colors env e))) ::
              (verdict console path (n + 1)).events) := by
      rw [hrun]
      simp [Run.after]
    rw [outcome_complaints time hevents, List.flatMap_cons, verdict, Run.complaints_failed]
    simp only [List.append_assoc]
    rfl

end Check

/-- A file whose bytes are no text is refused by both commands. Otherwise the one dumps its tokens,
and the other passes if there are no undefined tokens among those that are dumped, and fails because
of each of them if there are. -/
theorem outcome_file {env : Environment} {path : Text} {bytes : ByteArray}
    {dumping checking : List Text} {d : Dump} {v w : Bool} {c e : ColorMode} (time : Text)
    (console : Console)
    (hread : env.read path = .ok bytes)
    (hdumping : CommandLine.parse dumping = .run ⟨.tokens path d, v, c⟩)
    (hchecking : CommandLine.parse checking = .run ⟨.check path, w, e⟩) :
    let dumped := outcome time env dumping console
    let checked := outcome time env checking console
    (¬ Utf8.WellFormed bytes.data.toList →
      dumped.code = 1 ∧ dumped.output = [] ∧ checked.code = 1 ∧ checked.output = []) ∧
    (Utf8.WellFormed bytes.data.toList → ∃ source : Text, bytes = source.utf8Encode ∧
      dumped.code = 0 ∧ dumped.output = d.render (scanFile source) ++ ['\n'] ∧
      let n := undefinedCount (d.select (scanFile source))
      (n = 0 → Passes console checked) ∧
      (n ≠ 0 → Fails console ⟨path, source⟩ (colors env e) (Session.inspect source).diagnostics n
        (logText time env (CommandLine.parse checking) (checkRecords path source)) checked)) := by
  intro dumped checked
  have hdumped : run console env (CommandLine.parse dumping) =
      tokens console path d (.ok bytes) := by
    rw [hdumping, ← hread]
    rfl
  have hchecked : run console env (CommandLine.parse checking) =
      check console path (colors env e) (.ok bytes) := run_check hread hchecking
  rw [← Utf8.isSome_ofUtf8?_iff]
  constructor
  · intro hnone
    rw [Option.isSome_iff_ne_none, not_not] at hnone
    rw [tokens_of_eq_none console hnone] at hdumped
    rw [check_of_eq_none console hnone] at hchecked
    simp only [dumped, checked, outcome_code, outcome_output, hdumped, hchecked]
    exact ⟨rfl, rfl, rfl, rfl⟩
  · intro hsome
    obtain ⟨source, hsource⟩ := Option.isSome_iff_exists.1 hsome
    obtain ⟨hcode, houtput⟩ := tokens_of_eq_some console hsource path d
    rw [← hdumped, ← outcome_code time] at hcode
    rw [← hdumped, ← outcome_output time] at houtput
    refine ⟨source, Text.ofUtf8?_eq_some_iff.1 hsource, hcode, houtput, ?_⟩
    rw [← Session.length_errors_inspect d source]
    exact ⟨passes_of_errors_eq_zero time hchecked hsource,
      fails_of_errors_ne_zero time hchecked hsource⟩

/-- A file with one control character in it is dumped, and fails a check because of that one. -/
theorem outcome_file_control :
    let source : Text := ['2', '.', '\x01']
    let env : Environment := ⟨some "off".toList, false, fun _ => .ok source.utf8Encode, []⟩
    let checking := ["check".toList, "--color".toList, "always".toList, ['f']]
    (outcome [] env ["tokens".toList, ['f']]).code = 0 ∧
      Fails {} ⟨['f'], source⟩ true (Session.inspect source).diagnostics 1
        (logText [] env (CommandLine.parse checking) (checkRecords ['f'] source))
        (outcome [] env checking) := by
  intro source env checking
  have hread : env.read ['f'] = .ok source.utf8Encode := rfl
  have hdumping : CommandLine.parse ["tokens".toList, ['f']] =
      .run ⟨.tokens ['f'] ⟨.text, true⟩, false, .auto⟩ := rfl
  have hchecking : CommandLine.parse checking = .run ⟨.check ['f'], false, .always⟩ := rfl
  have hsource : Text.ofUtf8? source.utf8Encode = some source := Text.ofUtf8?_eq_some_iff.2 rfl
  obtain ⟨text, htext, hcode, -, -, hfails⟩ := (outcome_file [] {} hread hdumping hchecking).2
    (Utf8.isSome_ofUtf8?_iff.1 (Option.isSome_of_eq_some hsource))
  obtain rfl : source = text :=
    Option.some.inj (hsource.symm.trans (Text.ofUtf8?_eq_some_iff.2 htext))
  have hcount : undefinedCount (Dump.select ⟨.text, true⟩ (scanFile source)) = 1 := by
    decide +kernel
  rw [hcount] at hfails
  exact ⟨hcode, hfails Nat.one_ne_zero⟩

end Program

end LosslessScanner
