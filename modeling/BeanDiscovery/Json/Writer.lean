import BeanDiscovery.Json

/-! # Writing JSON

A value is written on one line without blanks, or over several lines that are indented by two blanks
a level. Of the characters only the quote, the backslash and the control characters are escaped. -/
namespace BeanDiscovery.Json

def hexDigit (n : Nat) : Char :=
  if n < 10 then Char.ofNat ('0'.toNat + n) else Char.ofNat ('a'.toNat + (n - 10))

/-- A character as it stands inside a string. -/
def quotedChar (c : Char) : List Char :=
  if c = '"' then ['\\', '"']
  else if c = '\\' then ['\\', '\\']
  else if c = '\n' then ['\\', 'n']
  else if c = '\r' then ['\\', 'r']
  else if c = '\t' then ['\\', 't']
  else if c = '\x08' then ['\\', 'b']
  else if c = '\x0c' then ['\\', 'f']
  else if c.toNat < 0x20 then
    ['\\', 'u', '0', '0', hexDigit (c.toNat / 16), hexDigit (c.toNat % 16)]
  else [c]

def quoted (text : String) : String :=
  "\"" ++ String.ofList (text.toList.flatMap quotedChar) ++ "\""

mutual

/-- A value on one line. -/
def compact : Json → String
  | .null => "null"
  | .bool value => if value then "true" else "false"
  | .natural value => value.repr
  | .numeral literal => literal
  | .string text => quoted text
  | .garbled => "null"
  | .array items => "[" ++ ",".intercalate (compactItems items) ++ "]"
  | .object members => "\x7b" ++ ",".intercalate (compactMembers members) ++ "\x7d"

def compactItems : List Json → List String
  | [] => []
  | item :: items => item.compact :: compactItems items

def compactMembers : List (String × Json) → List String
  | [] => []
  | (name, value) :: members => (quoted name ++ ":" ++ value.compact) :: compactMembers members

end

/-- Lines between two brackets, each on a level further in, or the brackets alone. -/
def block (opening closing indent : String) (lines : List String) : String :=
  if lines.isEmpty then opening ++ closing
  else opening ++ "\n" ++ (",\n").intercalate (lines.map fun line => indent ++ "  " ++ line) ++
    "\n" ++ indent ++ closing

mutual

/-- A value over several lines, the first of which stands behind an indentation. -/
def indented (indent : String) : Json → String
  | .array items => block "[" "]" indent (indentedItems (indent ++ "  ") items)
  | .object members =>
    block "\x7b" "\x7d" indent (indentedMembers (indent ++ "  ") members)
  | value => value.compact

def indentedItems (indent : String) : List Json → List String
  | [] => []
  | item :: items => item.indented indent :: indentedItems indent items

def indentedMembers (indent : String) : List (String × Json) → List String
  | [] => []
  | (name, value) :: members =>
    (quoted name ++ ": " ++ value.indented indent) :: indentedMembers indent members

end

def pretty (value : Json) : String := value.indented ""

end BeanDiscovery.Json
