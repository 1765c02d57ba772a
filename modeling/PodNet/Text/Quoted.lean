import PodNet.Text.Graphic

/-!
# Quoted text

Messages show a text they were given between double quotes, so that a reader sees where it begins
and ends and what is in it. A quote and a backslash are escaped by a backslash; line feed, carriage
return, tab and the null character have a letter of their own; every other character that is not
graphic is written by its number.
-/

namespace PodNet.Text

/-- How one character stands inside quotes. -/
def quotedChar (c : Char) : List Char :=
  if c = '"' then ['\\', '"']
  else if c = '\\' then ['\\', '\\']
  else if c = '\n' then ['\\', 'n']
  else if c = '\r' then ['\\', 'r']
  else if c = '\t' then ['\\', 't']
  else if c = '\x00' then ['\\', '0']
  else if isGraphic c then [c]
  else ['\\', 'u', '\x7b'] ++ Nat.toDigits 16 c.toNat ++ ['\x7d']

/-- The text between double quotes. -/
def quoted (s : String) : String :=
  String.ofList ('"' :: (s.toList.flatMap quotedChar ++ ['"']))

end PodNet.Text
