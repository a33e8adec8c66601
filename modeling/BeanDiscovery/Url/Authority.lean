import BeanDiscovery.Url.Host
import BeanDiscovery.Url.Path

/-! # Authorities

Between two slashes and a path stand, perhaps, a user with a password, then a host, and perhaps a
number behind a colon. -/
namespace BeanDiscovery.Url

def inUserInfo (c : Char) : Bool :=
  inPath c || c = '/' || c = ':' || c = ';' || c = '=' || c = '@' || c = '[' || c = '\\' ||
    c = ']' || c = '^' || c = '|'

def cutUserInfo (cs : List Char) : Option (List Char) × List Char :=
  match Text.cutBefore (· = '@') cs.reverse with
  | (_, []) => (none, cs)
  | (host, _ :: info) => (some info.reverse, host.reverse)

def userInfoText (cs : List Char) : List Char :=
  let (user, password) := Text.cutBefore (· = ':') cs
  let user := encoded inUserInfo user
  match encoded inUserInfo (password.drop 1) with
  | [] => if user.isEmpty then [] else user ++ ['@']
  | password => user ++ ':' :: password ++ ['@']

/-- Cuts a text before the colon that follows the host; colons between brackets belong to it. -/
def cutHost : List Char → List Char × List Char
  | '[' :: cs =>
    let (address, rest) := Text.cutBefore (· = ']') cs
    let (tail, rest) := Text.cutBefore (· = ':') rest
    ('[' :: address ++ tail, rest)
  | cs => Text.cutBefore (· = ':') cs

/-- The number behind the colon of an authority; the usual one of a scheme is left out. -/
def portText? (scheme : SchemeClass) (cs : List Char) : Option (List Char) :=
  if !cs.all Char.isDigit then none
  else
    let value := cs.foldl (fun n c => 10 * n + (c.toNat - '0'.toNat)) 0
    if 65535 < value then none
    else if cs.isEmpty || scheme = .web value.repr then some []
    else some (':' :: value.repr.toList)

def hostText? (scheme : SchemeClass) (cs : List Char) : Option (List Char × List Char) := do
  let (host, digits) := cutHost cs
  -- a backslash ends the number
  let (digits, rest) := Text.cutBefore (· = '\\') digits
  let name ← Host.normal? (scheme ≠ .other) host
  if host.isEmpty then if digits.isEmpty && scheme = .other then some ([], rest) else none
  else return (name ++ (← portText? scheme (digits.drop 1)), rest)

/-- The normal form of an authority, and what follows it. A user needs a host, and so does an at sign
unless the URL ends with it. -/
def authority? (scheme : SchemeClass) (cs : List Char) (isEnd : Bool) :
    Option (List Char × List Char) := do
  let (info, place) := cutUserInfo cs
  let user := (info.map userInfoText).getD []
  let (host, rest) ← hostText? scheme place
  if host.isEmpty && (!user.isEmpty || (info = some [] && !isEnd)) then none
  else return (user ++ host, rest)

end BeanDiscovery.Url
