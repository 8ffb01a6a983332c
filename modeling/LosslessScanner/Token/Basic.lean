import LosslessScanner.Token.Kind
import LosslessScanner.Text.Quoted
import LosslessScanner.Text.JsonString

/-!
# Tokens

A token is a kind together with the text it was read from, kept whole: nothing
of the source is left out between tokens, so the contents of all tokens of a
source, one after the other, are the source. Where a token stands is not part
of it. A `LocatedToken` adds its span, and `locate` computes the spans of a
sequence of tokens from their lengths alone.
-/

namespace LosslessScanner

/-- A stretch of a source in byte offsets, without its end. -/
structure Span where
  start : Nat
  stop : Nat
  deriving DecidableEq

/-- The span of a thing that has no place yet. -/
def Span.none : Span := ⟨0, 0⟩

/-- A piece of source text and what it is. -/
structure Token where
  kind : Kind
  contents : Text
  deriving DecidableEq

/-- A token and where it stands. -/
structure LocatedToken where
  token : Token
  span : Span
  deriving DecidableEq

namespace Token

/-- The mark that follows the last token. -/
def endOfFile : Token := ⟨.endOfFile, []⟩

/-- Its length in bytes. -/
def size (t : Token) : Nat := t.contents.byteSize

/-- The contents of a sequence of tokens, put together. -/
def text (ts : List Token) : Text := ts.flatMap contents

@[simp] theorem text_nil : text [] = [] := rfl

@[simp] theorem text_cons (t : Token) (ts : List Token) : text (t :: ts) = t.contents ++ text ts :=
  rfl

/-- A token for people to read: its kind, and its contents in quotes. -/
def display (t : Token) : Text := t.kind.name ++ ['('] ++ Text.quoted t.contents ++ [')']

/-- A token as a JSON object on one line. -/
def json (t : Token) : Text :=
  ['\x7b'] ++ Text.jsonString "kind".toList ++ [':'] ++ Text.jsonString t.kind.name ++ [',']
    ++ Text.jsonString "contents".toList ++ [':'] ++ Text.jsonString t.contents ++ ['\x7d']

/-- Tokens laid end to end from a byte offset on. -/
def locate (start : Nat) : List Token → List LocatedToken
  | [] => []
  | t :: ts => ⟨t, ⟨start, start + t.size⟩⟩ :: locate (start + t.size) ts

@[simp] theorem map_token_locate (start : Nat) (ts : List Token) :
    (locate start ts).map LocatedToken.token = ts := by
  induction ts generalizing start with
  | nil => rfl
  | cons t ts ih => simp [locate, ih]

end Token

end LosslessScanner
