import BeanDiscovery.Text

/-! # Punycode

A label with letters beyond ASCII is written in ASCII: first its ASCII characters, then a hyphen if
there are any, then, for every other letter in ascending order, how far to go on through all places
where a letter may be inserted. The distances are written with the digits a to z and 0 to 9, and the
least digit of a number comes first; where a number ends depends on a bias that follows the
distances. -/
namespace BeanDiscovery.Url.Punycode

def digit (n : Nat) : Char :=
  if n < 26 then Char.ofNat ('a'.toNat + n) else Char.ofNat ('0'.toNat + (n - 26))

def digitValue? (c : Char) : Option Nat :=
  if 'a' ≤ c ∧ c ≤ 'z' then some (c.toNat - 'a'.toNat)
  else if '0' ≤ c ∧ c ≤ '9' then some (c.toNat - '0'.toNat + 26)
  else none

/-- A digit below its threshold is the last one of a number. -/
def threshold (bias place : Nat) : Nat := max 1 (min 26 (place - bias))

theorem threshold_pos (bias place : Nat) : 1 ≤ threshold bias place := Nat.le_max_left _ _

theorem threshold_le (bias place : Nat) : threshold bias place ≤ 26 :=
  Nat.max_le.2 ⟨by decide, Nat.min_le_left _ _⟩

/-- Divides a distance until it is small, and adds a place for each division. -/
def settleBias (place distance : Nat) : Nat :=
  if 455 < distance then settleBias (place + 36) (distance / 35)
  else place + 36 * distance / (distance + 38)
termination_by distance
decreasing_by exact Nat.div_lt_self (by omega) (by omega)

def adapted (distance letters : Nat) (isFirst : Bool) : Nat :=
  let distance := distance / if isFirst then 700 else 2
  settleBias 0 (distance + distance / letters)

/-! ## Writing -/

def numberText (bias place n : Nat) : List Char :=
  let t := threshold bias place
  if h : n < t then [digit n]
  else
    have : (n - t) / (36 - t) < n := by
      have h₁ : 1 ≤ t := threshold_pos bias place
      have h₂ : t ≤ 26 := threshold_le bias place
      have h₃ := Nat.div_le_self (n - t) (36 - t)
      omega
    digit (t + (n - t) % (36 - t)) :: numberText bias (place + 36) ((n - t) / (36 - t))
termination_by n
decreasing_by exact this

structure Writer where
  text : List Char
  distance : Nat := 0
  bias : Nat := 72
  letters : Nat
  deriving Inhabited

/-- Goes past a character, while the letters of one code are written. -/
def Writer.pass (basic code : Nat) (writer : Writer) (c : Char) : Writer :=
  if c.toNat < code then { writer with distance := writer.distance + 1 }
  else if c.toNat = code then
    { text := writer.text ++ numberText writer.bias 36 writer.distance
      distance := 0
      bias := adapted writer.distance (writer.letters + 1) (writer.letters = basic)
      letters := writer.letters + 1 }
  else writer

/-- Writes the letters with the given codes, which ascend; the first argument of the recursion is the
lowest code that was not written yet. -/
def writeCodes (label : List Char) (basic : Nat) : Nat → List Nat → Writer → Writer
  | _, [], writer => writer
  | lowest, code :: codes, writer =>
    let start := { writer with
      distance := writer.distance + (code - lowest) * (writer.letters + 1) }
    let writer := label.foldl (Writer.pass basic code) start
    writeCodes label basic (code + 1) codes { writer with distance := writer.distance + 1 }

def isBasic (c : Char) : Bool := c.toNat < 0x80

def withoutRepeats : List Nat → List Nat
  | a :: b :: rest =>
    if a = b then withoutRepeats (b :: rest) else a :: withoutRepeats (b :: rest)
  | rest => rest

def codesOf (label : List Char) : List Nat :=
  withoutRepeats (((label.filter fun c => !isBasic c).map Char.toNat).mergeSort (· ≤ ·))

def encode (label : List Char) : List Char :=
  let basic := label.filter isBasic
  let start := if basic.isEmpty then [] else basic ++ ['-']
  (writeCodes label basic.length 128 (codesOf label)
    { text := start, letters := basic.length }).text

/-! ## Reading -/

structure Reader where
  label : List Char
  code : Nat := 128
  /-- Where the number that is read leads, counted from the start of the label. -/
  index : Nat := 0
  /-- Where it has led before the first digit. -/
  start : Nat := 0
  bias : Nat := 72
  weight : Nat := 1
  place : Nat := 36
  /-- Whether the number goes on. -/
  isOpen : Bool := false
  deriving Inhabited

/-- Reads a digit. Indices and weights stay below 2 to the power of 32. -/
def Reader.next (reader : Reader) (c : Char) : Option Reader := do
  let value ← digitValue? c
  let index := reader.index + value * reader.weight
  let t := threshold reader.bias reader.place
  let weight := reader.weight * (36 - t)
  if UInt32.size ≤ index then none
  else if value < t then
    let letters := reader.label.length + 1
    let code := reader.code + index / letters
    let position := index % letters
    if code.isValidChar then
      some
        { label := reader.label.insertIdx position (Char.ofNat code)
          code
          index := position + 1
          start := position + 1
          bias := adapted (index - reader.start) letters (reader.start = 0) }
    else none
  else if UInt32.size ≤ weight then none
  else some { reader with index, weight, place := reader.place + 36, isOpen := true }

/-- Cuts a text at its last hyphen into the ASCII characters and the digits. -/
def cutDigits (text : List Char) : List Char × List Char :=
  match Text.cutBefore (· = '-') text.reverse with
  | (_, []) => ([], text)
  | (_, [_]) => ([], text)
  | (digits, _ :: basic) => (basic.reverse, digits.reverse)

def decode? (text : List Char) : Option (List Char) :=
  let (basic, digits) := cutDigits text
  if basic.all isBasic then
    match digits.foldlM Reader.next { label := basic } with
    | some reader => if reader.isOpen then none else some reader.label
    | none => none
  else none

end BeanDiscovery.Url.Punycode
