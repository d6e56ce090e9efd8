import PageBuilder.Json.Value

/-!
# Writing JSON

The indented text of a value: members and items on lines of their own, two spaces deeper than what
holds them; empty arrays and objects without a line break. Only quotes, backslashes and control
characters are escaped.
-/

namespace PageBuilder.Json

/-- The lower-case hexadecimal digit of a number below sixteen. -/
def hexDigit (n : Nat) : Char := Nat.digitChar n

/-- The characters a character is written with in a string. -/
def escapeChar (c : Char) : List Char :=
  if c = '"' then ['\\', '"']
  else if c = '\\' then ['\\', '\\']
  else if c = '\n' then ['\\', 'n']
  else if c = '\t' then ['\\', 't']
  else if c = '\r' then ['\\', 'r']
  else if c = '\x08' then ['\\', 'b']
  else if c = '\x0c' then ['\\', 'f']
  else if c.toNat < 0x20 then
    ['\\', 'u', '0', '0', hexDigit (c.toNat / 16), hexDigit (c.toNat % 16)]
  else [c]

/-- A string with its quotes. -/
def quoted (text : String) : List Char := '"' :: (text.toList.flatMap escapeChar ++ ['"'])

/-- A line break and the indentation of the given level. -/
def newline (level : Nat) : List Char := '\n' :: List.replicate (2 * level) ' '

mutual

/-- The characters of a value that stands at the given level. -/
def chars (level : Nat) : Json → List Char
  | null => ['n', 'u', 'l', 'l']
  | bool true => ['t', 'r', 'u', 'e']
  | bool false => ['f', 'a', 'l', 's', 'e']
  | number l => l.chars
  | string s => quoted s
  | array [] => ['[', ']']
  | array (item :: rest) =>
    '[' :: (newline (level + 1) ++ chars (level + 1) item ++ itemsChars (level + 1) rest
      ++ newline level ++ [']'])
  | object [] => ['\x7b', '\x7d']
  | object ((name, value) :: rest) =>
    '\x7b' :: (newline (level + 1) ++ quoted name ++ [':', ' '] ++ chars (level + 1) value
      ++ membersChars (level + 1) rest ++ newline level ++ ['\x7d'])
  | unreadable => ['n', 'u', 'l', 'l']

/-- The characters of the items after the first. -/
def itemsChars (level : Nat) : List Json → List Char
  | [] => []
  | item :: rest => ',' :: (newline level ++ chars level item ++ itemsChars level rest)

/-- The characters of the members after the first. -/
def membersChars (level : Nat) : List (String × Json) → List Char
  | [] => []
  | (name, value) :: rest =>
    ',' :: (newline level ++ quoted name ++ [':', ' '] ++ chars level value
      ++ membersChars level rest)

end

/-- The indented text of a value. -/
def pretty (value : Json) : String := String.ofList (chars 0 value)

end PageBuilder.Json
