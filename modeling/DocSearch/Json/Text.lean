import DocSearch.Json.Value
import DocSearch.Number.Shortest

/-!
# The compact text of a JSON value

One text per value: no blanks, members in their order, integers in decimal, doubles by their
shortest digits. In a string only the quote, the backslash and the characters below U+0020 are
escaped; all others stand as themselves.
-/
namespace DocSearch.Json

/-- A hexadecimal digit in lower case, for a value below sixteen. -/
def hexDigit (n : Nat) : Char := Nat.digitChar n

/-- A character as it stands inside a quoted string. -/
def escapedChar (c : Char) : List Char :=
  if c = '"' then ['\\', '"']
  else if c = '\\' then ['\\', '\\']
  else if c = '\n' then ['\\', 'n']
  else if c = '\r' then ['\\', 'r']
  else if c = '\t' then ['\\', 't']
  else if c.toNat = 0x08 then ['\\', 'b']
  else if c.toNat = 0x0C then ['\\', 'f']
  else if c.toNat < 0x20 then
    ['\\', 'u', '0', '0', hexDigit (c.toNat / 16), hexDigit (c.toNat % 16)]
  else [c]

/-- A quoted string. -/
def quotedText (s : String) : List Char :=
  '"' :: s.toList.flatMap escapedChar ++ ['"']

def Number.text : Number → List Char
  | .integer n _ => integerText n
  | .double x => x.text

mutual

/-- The compact text of a value. -/
def text : Json → List Char
  | .null => ['n', 'u', 'l', 'l']
  | .bool true => ['t', 'r', 'u', 'e']
  | .bool false => ['f', 'a', 'l', 's', 'e']
  | .number n => n.text
  | .string s => quotedText s
  | .array [] => ['[', ']']
  | .array (v :: rest) => '[' :: (v.text ++ itemsText rest)
  | .object [] => ['{', '}']
  | .object ((k, v) :: rest) => '{' :: (quotedText k ++ ':' :: (v.text ++ membersText rest))

/-- The items after the first one, up to the closing bracket. -/
def itemsText : List Json → List Char
  | [] => [']']
  | v :: rest => ',' :: (v.text ++ itemsText rest)

/-- The members after the first one, up to the closing brace. -/
def membersText : List (String × Json) → List Char
  | [] => ['}']
  | (k, v) :: rest => ',' :: (quotedText k ++ ':' :: (v.text ++ membersText rest))

end

/-- The compact text as a string. -/
def compact (value : Json) : String := String.ofList value.text

end DocSearch.Json
