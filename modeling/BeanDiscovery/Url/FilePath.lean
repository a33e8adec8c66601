import BeanDiscovery.Text
import BeanDiscovery.Url
import BeanDiscovery.Url.Authority

/-! # Locations of files

The path of a file becomes a location name by name; empty names and single dots vanish, and double
dots stay. The location of a directory ends in a slash. Back from a location, only a local one has a
path. -/
namespace BeanDiscovery.Url

def inFileName (c : Char) : Bool :=
  c = ' ' || c = '"' || c = '#' || c = '%' || c = '<' || c = '>' || c = '?' || c = '\x60' ||
    c = '\x7b' || c = '\x7d' || c = '\\' || c = '/'

def namesOf (path : String) : List String :=
  (Text.split '/' path).filter fun name => name ≠ "" && name ≠ "."

def ofFilePath (path : String) : Url :=
  let names := (namesOf path).map fun name => '/' :: encoded inFileName name.toList
  ⟨"file://" ++ String.ofList (if names.isEmpty then ['/'] else names.flatten)⟩

def ofDirectoryPath (path : String) : Url :=
  let text := (ofFilePath path).text
  ⟨if text.toList.getLast? = some '/' then text else text ++ "/"⟩

/-- The host and the path of a location, without the user and the number beside the host. -/
def hostAndPath (url : Url) : List Char × List Char :=
  let rest := (Text.cutBefore (· = ':') url.text.toList).2.drop 1
  let rest := (Text.cutBefore (fun c => c = '?' || c = '#') rest).1
  match rest with
  | '/' :: '/' :: rest =>
    let (place, path) := Text.cutBefore (· = '/') rest
    ((cutHost (cutUserInfo place).2).1, path)
  | '/' :: '.' :: '/' :: '/' :: path => ([], '/' :: '/' :: path)
  | _ => ([], rest)

/-- A path must not end in a drive, so such a path gets a slash. -/
def behindDrive (cs : List Char) : List Char :=
  match cs.reverse with
  | mark :: letter :: _ :: _ =>
    if (mark = ':' || mark = '|') && letter.isAlpha then cs ++ ['/'] else cs
  | _ => cs

/-- The path of a file on this host. -/
def filePath? (url : Url) : Option String :=
  match url.hostAndPath with
  | (host, '/' :: path) =>
    if host.isEmpty || host = "localhost".toList then
      (decoded? ('/' :: path)).map fun path => String.ofList (behindDrive path.toList)
    else none
  | _ => none

end BeanDiscovery.Url
