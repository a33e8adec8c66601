import BeanDiscovery.Url
import BeanDiscovery.Url.Authority

/-! # Reading locations

An absolute URL is brought into its normal form: the scheme and the host in lower case, ports left out
where the scheme implies them, dot segments resolved, and characters that may not stand in a part
encoded. A text without a scheme is no location. A file on the host localhost is a local one. -/
namespace BeanDiscovery.Url

/-- Drops line breaks and tabs, but keeps one behind a colon, where it ends a drive. -/
def withoutBreaks : Bool → List Char → List Char
  | _, [] => []
  | isBehindColon, c :: cs =>
    if isBreak c then
      if isBehindColon then c :: withoutBreaks false cs else withoutBreaks false cs
    else c :: withoutBreaks (c = ':') cs

def tidied (cs : List Char) : List Char :=
  let outer := (cs.dropWhile fun c => c.toNat ≤ 0x20).reverse.dropWhile fun c => c.toNat ≤ 0x20
  withoutBreaks false outer.reverse

def inQuery (c : Char) : Bool := c = ' ' || c = '"' || c = '#' || c = '<' || c = '>'

def inSpecialQuery (c : Char) : Bool := inQuery c || c = '\x27'

def inFragment (c : Char) : Bool :=
  c = ' ' || c = '"' || c = '<' || c = '>' || c = '\x60'

def fileHost? (cs : List Char) : Option (List Char) :=
  if cs.isEmpty then some []
  else (Host.normal? true cs).map fun name => if name = "localhost".toList then [] else name

/-- The host and the path of a file. Only a host takes the slash behind it. -/
def filePart? (cs : List Char) : Option (List Char) :=
  let isSlash := SchemeClass.file.isSlash
  match cs with
  | a :: b :: rest =>
    if isSlash a && isSlash b then
      let (host, path) := Text.cutBefore isSlash rest
      if isDrive (unbroken host) then some ('/' :: '/' :: normalPath .file rest)
      else
        (fileHost? (unbroken host)).map fun host =>
          let path := Path.ofChars .file (if host.isEmpty then path else path.drop 1)
          '/' :: '/' :: (if path.onDrive then [] else host) ++ path.text .file
    else some ('/' :: '/' :: normalPath .file (if isSlash a then b :: rest else cs))
  | [a] => some ('/' :: '/' :: normalPath .file (if isSlash a then [] else cs))
  | [] => some ['/', '/', '/']

def webPart? (scheme : SchemeClass) (cs : List Char) : Option (List Char) :=
  let (place, path) := Text.cutBefore scheme.isSlash (cs.dropWhile scheme.isSlash)
  (authority? scheme (unbroken place) false).map fun authority =>
    '/' :: '/' :: authority.1 ++ normalPath scheme (path.drop 1)

/-- A path must not look like an authority, so it gets a dot segment where it would. -/
def apartFromAuthority (path : List Char) : List Char :=
  match path with
  | '/' :: '/' :: _ => '/' :: '.' :: path
  | _ => path

def otherPart? (cs : List Char) (isEnd : Bool) : Option (List Char) :=
  match cs with
  | '/' :: '/' :: rest =>
    let (place, path) := Text.cutBefore (· = '/') rest
    (authority? .other (unbroken place) (isEnd && path.isEmpty)).map fun (authority, rest) =>
      '/' :: '/' :: authority ++
        match rest ++ path with
        | [] => []
        | c :: cs => normalPath .other (if c = '/' then cs else c :: cs)
  | '/' :: rest => some (apartFromAuthority (normalPath .other rest))
  | _ => some (encoded (fun _ => false) (unbroken cs))

/-- What follows a scheme, up to a query or a fragment; the URL may end there. -/
def schemePart? (scheme : SchemeClass) (cs : List Char) (isEnd : Bool) : Option (List Char) :=
  match scheme with
  | .file => filePart? cs
  | .web _ => webPart? scheme cs
  | .other => otherPart? cs isEnd

def tailText (p : Char → Bool) (cs : List Char) : List Char :=
  cs.take 1 ++ encoded p (unbroken (cs.drop 1))

/-- The location that an absolute URL stands for. -/
def parse? (text : String) : Option Url := do
  let (scheme, rest) ← cutScheme (tidied text.toList)
  let kind := SchemeClass.ofScheme scheme
  let (rest, fragment) := Text.cutBefore (· = '#') (rest.dropWhile isBreak)
  let (rest, query) := Text.cutBefore (· = '?') rest
  let part ← schemePart? kind rest (query.isEmpty && fragment.isEmpty)
  let query := tailText (if kind = .other then inQuery else inSpecialQuery) query
  return ⟨scheme ++ ":" ++ String.ofList (part ++ query ++ tailText inFragment fragment)⟩

end BeanDiscovery.Url
