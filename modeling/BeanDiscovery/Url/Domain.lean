import BeanDiscovery.Url.Domain.Direction
import BeanDiscovery.Url.Domain.Joining
import BeanDiscovery.Url.Domain.Mapping
import BeanDiscovery.Url.Domain.Punycode

/-! # Domain names

The labels of a domain name are separated by dots. A label with letters beyond ASCII is written in
ASCII behind a mark, and one that is given in this way must stand for a label that could be written. -/
namespace BeanDiscovery.Url.Domain

def asciiMark : List Char := "xn--".toList

/-- The most characters of a label that is read, and of one that is written, in ASCII. -/
def longestRead : Nat := 2000

def longestWritten : Nat := 1000

/-- A label as it is written in ASCII, and the characters it stands for. -/
structure Label where
  text : List Char
  letters : List Char
  deriving DecidableEq, Inhabited

namespace Label

def ofCode? (code : List Char) : Option Label :=
  if code.isEmpty || code.getLast? = some '-' || longestRead < code.length then none
  else
    (Punycode.decode? code).bind fun letters =>
      if letters.all isPlain && normalForm letters = letters && isWellWritten letters &&
          letters.length ≤ longestWritten then
        some ⟨asciiMark ++ code, letters⟩
      else none

def ofLetters? (letters : List Char) : Option Label :=
  if letters.all Punycode.isBasic then some ⟨letters, letters⟩
  else if isWellWritten letters && letters.length ≤ longestWritten then
    some ⟨asciiMark ++ Punycode.encode letters, letters⟩
  else none

def ofChars? (cs : List Char) : Option Label :=
  match List.isPrefixOf? asciiMark cs with
  | some code => ofCode? code
  | none => ofLetters? cs

end Label

def isForbidden (c : Char) : Bool :=
  c.toNat ≤ 0x20 || c = '#' || c = '/' || c = ':' || c = '<' || c = '>' || c = '?' || c = '@' ||
    c = '[' || c = '\\' || c = ']' || c = '^' || c = '|' || c = '%' || c = '\x7f'

/-- Whether all labels keep to a direction, if any character is written to the left. -/
def directionsFit (labels : List Label) : Bool :=
  !(labels.any fun label => label.letters.any turns) ||
    labels.all fun label => keepsDirection label.letters

def ascii? (cs : List Char) : Option (List Char) := do
  let name := normalForm (← meaningOf? cs)
  if name.any isForbidden then none
  else
    let labels ← (Text.pieces '.' name).mapM Label.ofChars?
    if directionsFit labels then some (Text.joined '.' (labels.map (·.text))) else none

end BeanDiscovery.Url.Domain
