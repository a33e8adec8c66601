import BeanDiscovery.Url.Address
import BeanDiscovery.Url.Domain
import BeanDiscovery.Url.Percent

/-! # Hosts

A host is an address in brackets, a domain name or an address of four bytes, or, where the scheme does
not tell, a text that is kept as it is written. -/
namespace BeanDiscovery.Url.Host

def bracketed? (cs : List Char) : Option (List Char) :=
  if cs.getLast? = some ']' then
    (Address.eightPieces? cs.dropLast).map fun pieces =>
      '[' :: Address.eightPiecesText pieces ++ [']']
  else none

def domain? (cs : List Char) : Option (List Char) := do
  let name ← Domain.ascii? (← decoded? cs).toList
  if name.isEmpty then none
  else if Address.endsInNumber name then (Address.fourBytes? name).map Address.fourBytesText
  else some name

def isForbidden (c : Char) : Bool :=
  c = '\x00' || c = ' ' || c = '#' || c = '/' || c = ':' || c = '<' || c = '>' || c = '?' ||
    c = '@' || c = '[' || c = '\\' || c = ']' || c = '^' || c = '|'

/-- A host that is kept as it is written. -/
def verbatim? (cs : List Char) : Option (List Char) :=
  if cs.any isForbidden then none else some (encoded (fun _ => false) cs)

/-- The normal form of a host, which is a domain name or an address, or else any text. -/
def normal? (isDomain : Bool) (cs : List Char) : Option (List Char) :=
  match cs with
  | '[' :: rest => bracketed? rest
  | _ => if isDomain then domain? cs else verbatim? cs

end BeanDiscovery.Url.Host
