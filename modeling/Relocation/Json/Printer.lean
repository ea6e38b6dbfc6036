-- The text of a JSON value: no blanks, members in their order, and escapes
-- only where JSON requires them.
import Relocation.Json.Basic
import Relocation.Text.Hex

namespace Relocation.Json

/-! ## Strings -/

/-- A character inside a string: quotes, backslashes and controls are escaped. -/
def escape (c : Char) : List Char :=
  if c = '"' then ['\\', '"']
  else if c = '\\' then ['\\', '\\']
  else if c = '\x08' then ['\\', 'b']
  else if c = '\x0c' then ['\\', 'f']
  else if c = '\n' then ['\\', 'n']
  else if c = '\r' then ['\\', 'r']
  else if c = '\t' then ['\\', 't']
  else if c.toNat < 0x20 then '\\' :: 'u' :: Text.Hex.fixed 4 c.toNat
  else [c]

/-- A string with its quotes. -/
def quoteChars (s : String) : List Char := '"' :: (s.toList.flatMap escape ++ ['"'])

/-! ## Values -/

mutual

/-- The text of a value, as characters. A garbled value is written as the
first half of a surrogate pair alone. -/
def chars : Json → List Char
  | .null => ['n', 'u', 'l', 'l']
  | .bool true => ['t', 'r', 'u', 'e']
  | .bool false => ['f', 'a', 'l', 's', 'e']
  | .int n => (toString n).toList
  | .decimal written => written.toList
  | .str s => quoteChars s
  | .arr [] => ['[', ']']
  | .arr (x :: xs) => '[' :: (chars x ++ (itemsChars xs ++ [']']))
  | .obj [] => ['\x7b', '\x7d']
  | .obj ((name, x) :: rest) =>
    '\x7b' :: (quoteChars name ++ ':' :: (chars x ++ (membersChars rest ++ ['\x7d'])))
  | .garbled => ['"', '\\', 'u', 'd', '8', '0', '0', '"']

/-- Further items, each after a comma. -/
def itemsChars : List Json → List Char
  | [] => []
  | x :: xs => ',' :: (chars x ++ itemsChars xs)

/-- Further members, each after a comma. -/
def membersChars : List (String × Json) → List Char
  | [] => []
  | (name, x) :: rest => ',' :: (quoteChars name ++ ':' :: (chars x ++ membersChars rest))

end

/-- The text of a value. -/
def render (value : Json) : String := String.ofList value.chars

end Relocation.Json
