import BeanDiscovery.Text

/-! # Percent encoding

A character that may not stand in a part of a URL is written as its UTF-8 bytes, each a percent sign
and two upper case hexadecimal digits. -/
namespace BeanDiscovery.Url

def hexDigit (n : Nat) : Char :=
  if n < 10 then Char.ofNat ('0'.toNat + n) else Char.ofNat ('A'.toNat + (n - 10))

def encodedByte (byte : UInt8) : List Char :=
  ['%', hexDigit (byte.toNat / 16), hexDigit (byte.toNat % 16)]

/-- Control characters and everything beyond ASCII are encoded in every part of a URL. -/
def isControl (c : Char) : Bool := c.toNat < 0x20 || 0x7F ≤ c.toNat

/-- A text in which the control characters and those with a property are encoded. -/
def encoded (p : Char → Bool) (cs : List Char) : List Char :=
  cs.flatMap fun c =>
    if isControl c || p c then (String.utf8EncodeChar c).flatMap encodedByte else [c]

/-- The bytes of a text, with every percent sign and two digits read as one byte. -/
def decodedBytes : List Char → List UInt8
  | '%' :: a :: b :: cs =>
    match Text.hexValue? a, Text.hexValue? b with
    | some x, some y => UInt8.ofNat (16 * x + y) :: decodedBytes cs
    | _, _ => UInt8.ofNat '%'.toNat :: decodedBytes (a :: b :: cs)
  | c :: cs => String.utf8EncodeChar c ++ decodedBytes cs
  | [] => []

def decoded? (cs : List Char) : Option String := String.fromUTF8? (decodedBytes cs).toByteArray

end BeanDiscovery.Url
