import LosslessScanner.Text.Quoted

/-!
# Strings in JSON

A JSON string escapes the double quote, the backslash and the control codes
below the blank; five of these have a short escape, the others are written with
four hexadecimal digits. Everything else stands as it is, the delete code and
the separators U+2028 and U+2029 included.
-/

namespace LosslessScanner.Text

/-- One character of a JSON string. -/
def jsonChar (c : Char) : Text :=
  if c = '"' then ['\\', '"']
  else if c = '\\' then ['\\', '\\']
  else if c = '\x08' then ['\\', 'b']
  else if c = '\x0c' then ['\\', 'f']
  else if c = '\n' then ['\\', 'n']
  else if c = '\r' then ['\\', 'r']
  else if c = '\t' then ['\\', 't']
  else if c.toNat < 0x20 then
    let digits := hex c.toNat
    ['\\', 'u'] ++ List.replicate (4 - digits.length) '0' ++ digits
  else [c]

/-- A text as a JSON string, quotes included. -/
def jsonString (t : Text) : Text := '"' :: (t.flatMap jsonChar ++ ['"'])

end LosslessScanner.Text
