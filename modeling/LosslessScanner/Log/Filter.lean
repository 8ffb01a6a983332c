import LosslessScanner.Log.Record
import LosslessScanner.Pattern.Basic

/-!
# Which records are shown

A filter is written as directives separated by commas. A directive is a level,
which holds for all records; a name, which shows everything filed under names
that begin with it; or a name and a level joined by an equals sign. Of the
directives that apply to a record the one with the longest name decides, and
among equally long ones the last. After a slash there may be a pattern that the
message has to match. Directives and patterns that cannot be read are skipped
with a warning; without any directive only errors are shown.
-/

namespace LosslessScanner.Log

/-- A directive: the names it applies to, and the least important level that it shows. -/
structure Directive where
  /-- Without a name it applies to all records. -/
  name : Option Text
  /-- Without a level it shows nothing. -/
  level : Option Level
  deriving DecidableEq

namespace Directive

/-- A level, or the word for none, in any case. -/
def level? (t : Text) : Option (Option Level) :=
  let upper := t.map Char.toUpper
  if upper = "OFF".toList then some none
  else (Level.all.find? (·.name = upper)).map some

/-- What a directive that cannot be read is called in a warning. -/
def invalid (t : Text) : Text := "invalid logging spec '".toList ++ t ++ ['\'']

/-- Reads one directive. -/
def parse (t : Text) : Except Text Directive :=
  match t.splitOn '=' with
  | [name] =>
    match level? name with
    | some level => .ok ⟨none, level⟩
    | none => .ok ⟨some name, some .trace⟩
  | [name, level] =>
    let level := Text.trim isBlank level
    if level = [] then .ok ⟨some name, some .trace⟩
    else match level? level with
      | some l => .ok ⟨some name, l⟩
      | none => .error (invalid level)
  | _ => .error (invalid t)

/-- The length of the name in bytes; longer ones decide first. -/
def nameSize (d : Directive) : Nat := (d.name.getD []).byteSize

/-- The directive applies to a record. -/
def appliesTo (d : Directive) (r : Record) : Bool := (d.name.getD []).isPrefixOf r.origin.name

/-- The directive shows records of a level. -/
def shows (d : Directive) (l : Level) : Bool :=
  match d.level with
  | none => false
  | some least => l.rank ≤ least.rank

end Directive

/-- Directives in the order in which they were given, and a pattern to look for. -/
structure Filter where
  directives : List Directive
  pattern : Option Pattern

namespace Filter

/-- Adds a directive, in the place of one with the same name if there is one. -/
def insert (ds : List Directive) (d : Directive) : List Directive :=
  if ds.any (·.name = d.name) then ds.map fun e => if e.name = d.name then d else e
  else ds ++ [d]

/-- The directives of a specification and the warnings about those that cannot be read. -/
def parseDirectives (t : Text) : List Directive × List Text :=
  let parts := ((t.splitOn ',').map (Text.trim isBlank)).filter (· ≠ [])
  parts.foldl
    (fun (ds, warnings) part =>
      match Directive.parse part with
      | .ok d => (insert ds d, warnings)
      | .error w => (ds, warnings ++ [w]))
    ([], [])

/-- Reads a filter; what cannot be read is warned of and skipped. -/
def parse (t : Text) : Filter × List Text :=
  match t.splitOn '/' with
  | [directives] =>
    let (ds, warnings) := parseDirectives directives
    (⟨ds, none⟩, warnings)
  | [directives, pattern] =>
    let (ds, warnings) := parseDirectives directives
    match Pattern.parse pattern with
    | .ok p => (⟨ds, some p⟩, warnings)
    | .error e =>
      let warning := "invalid regex filter - ".toList ++ e.message pattern
      (⟨ds, none⟩, warnings ++ [warning])
  | _ => (⟨[], none⟩, [Directive.invalid t ++ " (too many '/'s)".toList])

/-- A message has what the filter looks for. -/
def admits (f : Filter) (message : Text) : Bool :=
  match f.pattern with
  | none => true
  | some p => p.occursIn message

/-- The directive that decides on a record: the last of the longest that apply. -/
def deciding (ds : List Directive) (r : Record) : Option Directive :=
  (ds.filter (·.appliesTo r)).foldl
    (fun best d =>
      match best with
      | none => some d
      | some b => if b.nameSize ≤ d.nameSize then some d else some b)
    none

/-- A filter shows a record. -/
def shows (f : Filter) (r : Record) : Bool :=
  let ds := if f.directives.isEmpty then [⟨none, some .error⟩] else f.directives
  match deciding ds r with
  | none => false
  | some d => d.shows r.level && f.admits r.message

/-- The filter that holds where none is given: up to the level of general information. -/
def default : Text := "info".toList

end Filter

end LosslessScanner.Log
