import LosslessScanner.Token.Basic

/-!
# Errors

A scanner never fails. What can go wrong is found by those who use its tokens: a
character that has no place in the language, a literal without a value, or a
file that cannot be read. An error says what happened; its wording is a function
of that, and so is the remark that is put under the place where it happened.
-/

namespace LosslessScanner

/-- What is wrong with a token. -/
inductive Fault where
  /-- A character that no rule accepts. -/
  | undefinedToken (text : Text)
  /-- An integer without a value. -/
  | invalidInteger (literal : Text)
  /-- A number with a fraction without a value. -/
  | invalidFloat (literal : Text)
  /-- A number was asked for and something else was there. -/
  | notALiteral (kind : Kind)
  deriving DecidableEq

/-- A fault and where it is. -/
structure LexicalError where
  fault : Fault
  span : Span
  deriving DecidableEq

namespace Fault

def message : Fault → Text
  | undefinedToken text => "unrecognized character ".toList ++ Text.quoted text
  | invalidInteger literal => "invalid integer literal '".toList ++ literal ++ ['\'']
  | invalidFloat literal =>
    "invalid double-precision floating point literal '".toList ++ literal ++ ['\'']
  | notALiteral kind => "expected a numeric literal, found ".toList ++ kind.name

/-- The remark under the source line. -/
def remark : Fault → Text
  | undefinedToken _ => "this character is not part of the language".toList
  | invalidInteger _ => "does not fit in a 32-bit signed integer".toList
  | invalidFloat _ => "not a valid 64-bit float".toList
  | notALiteral _ => "expected an integer or float here".toList

end Fault

/-- The same error in another place. -/
def LexicalError.moveTo (e : LexicalError) (span : Span) : LexicalError := { e with span := span }

/-- Anything that is reported. -/
inductive Problem where
  | lexical (error : LexicalError)
  /-- A file could not be read or written. -/
  | file (reason : Text)
  | other (reason : Text)
  deriving DecidableEq

def Problem.message : Problem → Text
  | lexical e => "lexical error: ".toList ++ e.fault.message
  | file reason => "file error: ".toList ++ reason
  | other reason => reason

/-! ## Failures of the system -/

/-- Why bytes could not be read. -/
inductive ReadFailure where
  /-- The system refused, with a number and a description. -/
  | system (code : Nat) (description : Text)
  /-- The bytes are not the UTF-8 form of a text. -/
  | notUtf8
  deriving DecidableEq

namespace ReadFailure

def notPermitted : ReadFailure := system 1 "Operation not permitted".toList
def notFound : ReadFailure := system 2 "No such file or directory".toList
def denied : ReadFailure := system 13 "Permission denied".toList
def alreadyExists : ReadFailure := system 17 "File exists".toList
def notADirectory : ReadFailure := system 20 "Not a directory".toList
def isADirectory : ReadFailure := system 21 "Is a directory".toList

/-- The failures that have a number known here. -/
def known : List ReadFailure :=
  [notPermitted, notFound, denied, alreadyExists, notADirectory, isADirectory]

/-- The failure that the system gives a number to. -/
def ofCode (code : Nat) : ReadFailure :=
  (known.find? fun f => match f with
    | system c _ => c == code
    | notUtf8 => false).getD (system code ("Unknown error ".toList ++ Text.ofNat code))

def message : ReadFailure → Text
  | system code description =>
    description ++ " (os error ".toList ++ Text.ofNat code ++ [')']
  | notUtf8 => "stream did not contain valid UTF-8".toList

end ReadFailure

end LosslessScanner
