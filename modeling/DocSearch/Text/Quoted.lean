import DocSearch.Text.Printable

/-!
# Quoted strings in diagnostics

A string as a diagnostic quotes it: between double quotes, on one line, with nothing in it that
cannot be seen.
-/
namespace DocSearch.Quoted

/-- A code point by its number, in lower-case hexadecimal. -/
def numbered (c : Char) : List Char :=
  ['\\', 'u', '\x7b'] ++ Nat.toDigits 16 c.toNat ++ ['\x7d']

/-- A character inside the quotes. -/
def char (c : Char) : List Char :=
  if c.toNat = 0 then ['\\', '0']
  else if c = '\t' then ['\\', 't']
  else if c = '\r' then ['\\', 'r']
  else if c = '\n' then ['\\', 'n']
  else if c = '\\' then ['\\', '\\']
  else if c = '"' then ['\\', '"']
  else if Printable.isCombining c || Printable.isHidden c then numbered c
  else [c]

/-- The quoted string. -/
def text (s : String) : List Char :=
  '"' :: s.toList.flatMap char ++ ['"']

end DocSearch.Quoted
