import LosslessScanner.Text.Basic
import LosslessScanner.Text.Extending
import LosslessScanner.Text.Ignorable
import LosslessScanner.Text.Unprintable

/-!
# Quoted text

Token contents and stray characters are shown between double quotes, with
everything that would not be seen, or would be taken for a quote, written as an
escape. The escapes begin with a backslash, and a backslash itself is escaped,
so the form can be read back; a bare double quote occurs in it only at its two
ends.
-/

namespace LosslessScanner.Text

/-- A code point in lower-case hexadecimal digits. -/
def hex (n : Nat) : Text := Nat.toDigits 16 n

/-- The halfwidth sound marks of Japanese extend the letter before them but take a column of
their own, so they can be shown as they are. -/
def isHalfwidthSoundMark (c : Char) : Bool := c.toNat == 0xff9e || c.toNat == 0xff9f

/-- Characters that would not be seen if they were written as they are. -/
def isHidden (c : Char) : Bool :=
  if c.toNat < 0x7f then c.toNat < 0x20
  else unprintable.contains c || ignorable.contains c
    || (extending.contains c && !isHalfwidthSoundMark c)

/-- One character of a quoted text. -/
def quoteChar (c : Char) : Text :=
  if c = '\x00' then ['\\', '0']
  else if c = '\t' then ['\\', 't']
  else if c = '\r' then ['\\', 'r']
  else if c = '\n' then ['\\', 'n']
  else if c = '"' then ['\\', '"']
  else if c = '\\' then ['\\', '\\']
  else if isHidden c then ['\\', 'u', '\x7b'] ++ hex c.toNat ++ ['\x7d']
  else [c]

/-- A text between double quotes, with its hidden characters escaped. -/
def quoted (t : Text) : Text := '"' :: (t.flatMap quoteChar ++ ['"'])

end LosslessScanner.Text
