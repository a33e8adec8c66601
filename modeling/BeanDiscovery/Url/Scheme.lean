import BeanDiscovery.Text

/-! # Schemes

The scheme of a URL decides how the text behind it is understood. -/
namespace BeanDiscovery.Url

inductive SchemeClass where
  | file
  | web (usualPort : String)
  | other
  deriving DecidableEq, Inhabited

namespace SchemeClass

def ofScheme (scheme : String) : SchemeClass :=
  if scheme = "file" then .file
  else if scheme = "http" ∨ scheme = "ws" then .web "80"
  else if scheme = "https" ∨ scheme = "wss" then .web "443"
  else if scheme = "ftp" then .web "21"
  else .other

/-- Outside other schemes a backslash is as good as a slash. -/
def isSlash (scheme : SchemeClass) (c : Char) : Bool :=
  c = '/' || (scheme ≠ .other && c = '\\')

end SchemeClass

/-- Cuts the scheme and its colon off: a letter, then letters, digits, and a few signs. -/
def cutScheme (cs : List Char) : Option (String × List Char) :=
  match Text.cutBefore (fun c => !(c.isAlphanum || c = '+' || c = '-' || c = '.')) cs with
  | (first :: scheme, ':' :: rest) =>
    if first.isAlpha then some (String.ofList ((first :: scheme).map Char.toLower), rest) else none
  | _ => none

end BeanDiscovery.Url
