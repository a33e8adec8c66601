import BeanDiscovery.Url.Domain.MappingTable

/-! # The characters of domain names

Many characters mean the same in a domain name, such as a letter in upper case and in lower case. Each
is replaced by what stands for itself, or by nothing; others may not be written at all. -/
namespace BeanDiscovery.Url.Domain

/-- What replaces a character that is a fixed distance away from it. -/
def shiftedTo? (c : Char) : Option Char :=
  MappingTable.shifted.findSome? fun
    | ⟨first, last, [step, target]⟩ =>
      if first ≤ c.toNat && c.toNat ≤ last && (c.toNat - first) % step = 0 then
        some (Char.ofNat (target + (c.toNat - first)))
      else none
    | _ => none

def replacement? (c : Char) : Option (List Char) :=
  ((shiftedTo? c).map fun d => [d]).or
    (((MappingTable.shared.spanAt? c).or (MappingTable.single.spanAt? c)).map fun span =>
      span.values.map Char.ofNat)

/-- What a character means, if it may be written. -/
def meaning? (c : Char) : Option (List Char) :=
  if c.toNat < 0x80 then some [c.toLower]
  else
    match replacement? c with
    | some cs => some cs
    | none => if MappingTable.admitted.holds c then some [c] else none

def isPlain (c : Char) : Bool := meaning? c = some [c]

def meaningOf? (cs : List Char) : Option (List Char) := (cs.mapM meaning?).map List.flatten

end BeanDiscovery.Url.Domain
