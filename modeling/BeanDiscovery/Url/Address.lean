import BeanDiscovery.Text

/-! # Addresses

A host may be given by its address: four bytes, the last of which may stand for several, each written
in one of three bases; or, in brackets, eight pieces of sixteen bits, where a gap stands for zeros. An
address has one normal form. -/
namespace BeanDiscovery.Url.Address

def valueOf? (base : Nat) (cs : List Char) : Option Nat :=
  cs.foldlM (fun value c => (Text.hexValue? c).bind fun digit =>
    if digit < base then some (base * value + digit) else none) 0

/-! ## Four bytes -/

/-- A number: with 0x before it hexadecimal, with another zero before it octal, decimal otherwise. -/
def number? : List Char → Option Nat
  | [] => none
  | '0' :: 'x' :: cs | '0' :: 'X' :: cs => valueOf? 16 cs
  | '0' :: c :: cs => valueOf? 8 (c :: cs)
  | cs => valueOf? 10 cs

/-- The parts of a name; a dot at its end does not count. -/
def partsOf (cs : List Char) : List (List Char) :=
  let parts := Text.pieces '.' cs
  if parts.getLast? = some [] then parts.dropLast else parts

/-- A host whose last part is a number is an address or nothing. -/
def endsInNumber (cs : List Char) : Bool :=
  (partsOf cs).getLast?.any fun part =>
    (!part.isEmpty && part.all Char.isDigit) || (number? part).isSome

def ofBytes (bytes : List Nat) : Nat := bytes.foldl (fun value byte => 256 * value + byte) 0

/-- The address of four parts at most; the last one stands for all bytes that are not given. -/
def fourBytes? (cs : List Char) : Option Nat := do
  let numbers ← (partsOf cs).mapM number?
  let last ← numbers.getLast?
  let bytes := numbers.dropLast
  let room := 1 <<< (8 * (4 - bytes.length))
  if 3 < bytes.length || room ≤ last || bytes.any (255 < ·) then none
  else some (ofBytes bytes * room + last)

def fourBytesText (address : Nat) : List Char :=
  Text.joined '.' ([1 <<< 24, 1 <<< 16, 1 <<< 8, 1].map fun unit =>
    (address / unit % 256).repr.toList)

/-! ## Eight pieces -/

def piece? (cs : List Char) : Option Nat :=
  if cs.isEmpty || 4 < cs.length then none else valueOf? 16 cs

def byte? (cs : List Char) : Option Nat :=
  match cs with
  | [] => none
  | '0' :: _ :: _ => none
  | _ => (valueOf? 10 cs).filter (· < 256)

/-- The last part of an address may be four bytes, which make up two pieces. -/
def lastPieces? (cs : List Char) : Option (List Nat) :=
  match (Text.pieces '.' cs).mapM byte? with
  | some [a, b, c, d] => some [256 * a + b, 256 * c + d]
  | _ => (piece? cs).map fun piece => [piece]

def pieces? (last? : List Char → Option (List Nat)) (cs : List Char) : Option (List Nat) :=
  if cs.isEmpty then some []
  else
    let parts := Text.pieces ':' cs
    match parts.dropLast.mapM piece?, parts.getLast?.bind last? with
    | some pieces, some last => some (pieces ++ last)
    | _, _ => none

def cutAtGap : List Char → Option (List Char × List Char)
  | ':' :: ':' :: cs => some ([], cs)
  | c :: cs => (cutAtGap cs).map fun (before, after) => (c :: before, after)
  | [] => none

/-- The eight pieces of an address; a gap stands for one piece at least. -/
def eightPieces? (cs : List Char) : Option (List Nat) :=
  match cutAtGap cs with
  | some (before, after) => do
    let start ← pieces? (fun part => (piece? part).map fun piece => [piece]) before
    let rest ← pieces? lastPieces? after
    let given := start.length + rest.length
    if given < 8 then some (start ++ List.replicate (8 - given) 0 ++ rest) else none
  | none => (pieces? lastPieces? cs).filter fun pieces => pieces.length = 8

def zeros (pieces : List Nat) : Nat := (pieces.takeWhile (· = 0)).length

/-- The longest run of zeros, the first one of several: how many pieces are before it, and its
length. -/
def longestGap (pieces : List Nat) : Nat × Nat :=
  (List.range pieces.length).foldl (fun best start =>
    let length := zeros (pieces.drop start)
    if best.2 < length then (start, length) else best) (0, 0)

def pieceText (n : Nat) : List Char := Nat.toDigits 16 n

def piecesText (pieces : List Nat) : List Char := Text.joined ':' (pieces.map pieceText)

/-- The pieces in hexadecimal, separated by colons; two zeros or more become a gap once. -/
def eightPiecesText (pieces : List Nat) : List Char :=
  let (start, length) := longestGap pieces
  if length < 2 then piecesText pieces
  else
    piecesText (pieces.take start) ++ [':', ':'] ++ piecesText (pieces.drop (start + length))

end BeanDiscovery.Url.Address
