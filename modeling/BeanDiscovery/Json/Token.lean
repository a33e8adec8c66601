import BeanDiscovery.Text

/-! # The tokens of JSON text

A text is cut into tokens by reading one character after the other. A run of characters that are
neither blank nor punctuation nor a quote must be one of three words or a number. -/
namespace BeanDiscovery.Json

inductive Token where
  | openBrace
  | closeBrace
  | openBracket
  | closeBracket
  | colon
  | comma
  | null
  | bool (value : Bool)
  | natural (value : Nat)
  | numeral (literal : String)
  /-- A string, if its escapes stand for whole characters. -/
  | text (text : Option String)
  deriving DecidableEq, Inhabited

/-! ## Numbers -/

def dropOne (p : Char → Bool) : List Char → List Char
  | [] => []
  | c :: cs => if p c then cs else c :: cs

/-- Drops a run of digits, which must not be empty. -/
def dropDigits : List Char → Option (List Char)
  | [] => none
  | c :: cs => if c.isDigit then some (cs.dropWhile Char.isDigit) else none

/-- Drops the digits before the point: a zero alone, or digits that do not start with a zero. -/
def dropWhole : List Char → Option (List Char)
  | '0' :: cs => some cs
  | cs => dropDigits cs

def dropFraction : List Char → Option (List Char)
  | '.' :: cs => dropDigits cs
  | cs => some cs

def dropExponent : List Char → Option (List Char)
  | [] => some []
  | c :: cs =>
    if c = 'e' ∨ c = 'E' then dropDigits (dropOne (fun d => d = '+' || d = '-') cs)
    else some (c :: cs)

def isNumber (cs : List Char) : Bool :=
  (do
    let cs ← dropWhole (dropOne (· = '-') cs)
    let cs ← dropFraction cs
    dropExponent cs) == some []

def ofDigits (cs : List Char) : Nat :=
  cs.foldl (fun value c => 10 * value + (c.toNat - '0'.toNat)) 0

def Token.ofRun (cs : List Char) : Option Token :=
  if cs = ['n', 'u', 'l', 'l'] then some .null
  else if cs = ['t', 'r', 'u', 'e'] then some (.bool true)
  else if cs = ['f', 'a', 'l', 's', 'e'] then some (.bool false)
  else if isNumber cs then
    if cs.all Char.isDigit then some (.natural (ofDigits cs))
    else some (.numeral (String.ofList cs))
  else none

/-! ## Strings -/

/-- A part of a string: a character, or the code of an escape with four hexadecimal digits. -/
inductive Piece where
  | char (c : Char)
  | unit (code : Nat)
  deriving DecidableEq, Inhabited

/-- The first code of a pair. -/
def isHigh (code : Nat) : Bool := 0xD800 ≤ code && code < 0xDC00

def isLow (code : Nat) : Bool := 0xDC00 ≤ code && code < 0xE000

/-- The characters of a string, if every code of a pair has its other half beside it. -/
def charsOf : List Piece → Option (List Char)
  | [] => some []
  | .char c :: pieces => (charsOf pieces).map (c :: ·)
  | .unit high :: .unit low :: pieces =>
    if isHigh high && isLow low then
      (charsOf pieces).map
        (Char.ofNat (0x10000 + (high - 0xD800) * 0x400 + (low - 0xDC00)) :: ·)
    else if isHigh high || isLow high then none
    else (charsOf (.unit low :: pieces)).map (Char.ofNat high :: ·)
  | .unit code :: pieces =>
    if isHigh code || isLow code then none else (charsOf pieces).map (Char.ofNat code :: ·)

def escaped? (c : Char) : Option Char :=
  if c = '"' ∨ c = '\\' ∨ c = '/' then some c
  else if c = 'b' then some '\x08'
  else if c = 'f' then some '\x0c'
  else if c = 'n' then some '\n'
  else if c = 'r' then some '\r'
  else if c = 't' then some '\t'
  else none

/-! ## Cutting a text into tokens -/

/-- What the characters read last belong to; their parts are listed with the latest first. -/
inductive Place where
  | between
  | run (chars : List Char)
  | text (pieces : List Piece)
  | escape (pieces : List Piece)
  | code (pieces : List Piece) (value digits : Nat)
  deriving Inhabited

/-- Where the reading of a text stands, with the tokens found so far, the latest first. -/
structure Cursor where
  tokens : List Token := []
  place : Place := .between
  deriving Inhabited

def punctuation? (c : Char) : Option Token :=
  if c = '{' then some .openBrace
  else if c = '}' then some .closeBrace
  else if c = '[' then some .openBracket
  else if c = ']' then some .closeBracket
  else if c = ':' then some .colon
  else if c = ',' then some .comma
  else none

def isSpace (c : Char) : Bool := c = ' ' || c = '\t' || c = '\n' || c = '\r'

/-- A character after a finished token. -/
def Cursor.start (tokens : List Token) (c : Char) : Cursor :=
  match punctuation? c with
  | some token => ⟨token :: tokens, .between⟩
  | none =>
    if isSpace c then ⟨tokens, .between⟩
    else if c = '"' then ⟨tokens, .text []⟩
    else ⟨tokens, .run [c]⟩

def Cursor.next (cursor : Cursor) (c : Char) : Option Cursor :=
  match cursor.place with
  | .between => some (.start cursor.tokens c)
  | .run chars =>
    if isSpace c || (punctuation? c).isSome || c = '"' then
      (Token.ofRun chars.reverse).map fun token => .start (token :: cursor.tokens) c
    else some { cursor with place := .run (c :: chars) }
  | .text pieces =>
    if c = '"' then
      some ⟨.text ((charsOf pieces.reverse).map String.ofList) :: cursor.tokens, .between⟩
    else if c = '\\' then some { cursor with place := .escape pieces }
    else if c.toNat < 0x20 then none
    else some { cursor with place := .text (.char c :: pieces) }
  | .escape pieces =>
    if c = 'u' then some { cursor with place := .code pieces 0 0 }
    else (escaped? c).map fun e => { cursor with place := .text (.char e :: pieces) }
  | .code pieces value digits =>
    (Text.hexValue? c).map fun digit =>
      let value := 16 * value + digit
      if digits = 3 then { cursor with place := .text (.unit value :: pieces) }
      else { cursor with place := .code pieces value (digits + 1) }

def Cursor.finish (cursor : Cursor) : Option (List Token) :=
  match cursor.place with
  | .between => some cursor.tokens.reverse
  | .run chars => (Token.ofRun chars.reverse).map fun token => (token :: cursor.tokens).reverse
  | _ => none

def Token.ofChars (cs : List Char) : Option (List Token) :=
  (cs.foldlM Cursor.next {}).bind Cursor.finish

end BeanDiscovery.Json
