import BeanDiscovery.Text

/-! # Tables of characters

A property of characters is kept as a list of spans, each with the values that its characters share.
A table is written in rows of hexadecimal numbers, with commas between the rows and blanks between the
numbers of a row. -/
namespace BeanDiscovery

/-- The code points from a first to a last one. -/
structure CharSpan where
  first : Nat
  last : Nat
  values : List Nat := []
  deriving DecidableEq, Inhabited

def CharSpan.holds (span : CharSpan) (c : Char) : Bool :=
  span.first ≤ c.toNat && c.toNat ≤ span.last

abbrev CharTable := List CharSpan

namespace CharTable

/-- Where the reading of a table stands: the rows so far and the numbers of the row so far, each with
the latest first, and the number so far. -/
structure Cursor where
  rows : List (List Nat) := []
  row : List Nat := []
  number : Option Nat := none
  deriving Inhabited

def Cursor.endNumber (cursor : Cursor) : Cursor :=
  match cursor.number with
  | some number => { cursor with row := number :: cursor.row, number := none }
  | none => cursor

def Cursor.endRow (cursor : Cursor) : Cursor :=
  { rows := cursor.endNumber.row.reverse :: cursor.rows }

def Cursor.next (cursor : Cursor) (c : Char) : Cursor :=
  match Text.hexValue? c with
  | some digit => { cursor with number := some (16 * cursor.number.getD 0 + digit) }
  | none => if c = ',' then cursor.endRow else cursor.endNumber

/-- The rows of a text. -/
def rows (text : String) : List (List Nat) :=
  (text.foldl Cursor.next {}).endRow.rows.reverse

/-- A table whose rows start with the first and the last code point of a span. -/
def ofSpans (text : String) : CharTable :=
  (rows text).filterMap fun
    | first :: last :: values => some ⟨first, last, values⟩
    | _ => none

/-- A table whose rows start with a single code point. -/
def ofSingles (text : String) : CharTable :=
  (rows text).filterMap fun
    | code :: values => some ⟨code, code, values⟩
    | _ => none

/-- The span that a character lies in. -/
def spanAt? (table : CharTable) (c : Char) : Option CharSpan := table.find? (·.holds c)

def holds (table : CharTable) (c : Char) : Bool := table.any (·.holds c)

end CharTable
end BeanDiscovery
