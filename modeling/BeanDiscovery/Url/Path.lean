import BeanDiscovery.Url.Percent
import BeanDiscovery.Url.Scheme

/-! # Paths

A path is a list of segments. Dot segments are resolved, and characters that may not stand in a path are
encoded. A segment that looks like a drive is never left. The path of a file has no empty segments at
its front, and one that starts with a drive belongs to no host. -/
namespace BeanDiscovery.Url

/-- Line breaks and tabs count for nothing in a URL. -/
def isBreak (c : Char) : Bool := c = '\t' || c = '\n' || c = '\r'

def unbroken (cs : List Char) : List Char := cs.filter fun c => !isBreak c

def inPath (c : Char) : Bool :=
  c = ' ' || c = '"' || c = '#' || c = '<' || c = '>' || c = '?' || c = '\x60' || c = '\x7b' ||
    c = '\x7d'

/-- A dot, plain or encoded, at the front of a text, and what follows it. -/
def afterDot? : List Char → Option (List Char)
  | '.' :: cs => some cs
  | '%' :: '2' :: c :: cs => if c = 'e' ∨ c = 'E' then some cs else none
  | _ => none

def isDot (segment : List Char) : Bool := afterDot? segment == some []

def isDoubleDot (segment : List Char) : Bool := (afterDot? segment).bind afterDot? == some []

def isDrive : List Char → Bool
  | [letter, mark] => letter.isAlpha && (mark = ':' || mark = '|')
  | _ => false

/-- A drive, alone or with a backslash behind it. -/
def isDriveLike : List Char → Bool
  | letter :: mark :: '\\' :: _ => isDrive [letter, mark]
  | segment => isDrive segment

structure Path where
  /-- The segments so far, the latest first. -/
  segments : List (List Char) := []
  /-- Whether the path of a file starts with a drive. -/
  onDrive : Bool := false
  deriving DecidableEq, Inhabited

namespace Path

def leave (path : Path) : Path :=
  match path.segments with
  | [] => path
  | segment :: segments => if isDriveLike segment then path else { path with segments }

/-- A drive with a break right behind it is a segment of its own. -/
def brokenDrive? (path : Path) (segment : List Char) : Option (Char × List Char) :=
  match path.segments, segment with
  | [], letter :: ':' :: c :: rest =>
    if letter.isAlpha && isBreak c && !(unbroken rest).isEmpty then some (letter, unbroken rest)
    else none
  | _, _ => none

/-- Takes the next segment. A dot segment at the end of a path leaves an empty segment behind. -/
def enter (scheme : SchemeClass) (path : Path) (segment : List Char) (isLast : Bool) : Path :=
  match (path.brokenDrive? segment).filter fun _ => scheme = .file with
  | some (letter, rest) =>
    { path with segments := encoded inPath rest :: [letter, ':'] :: path.segments }
  | none =>
    let segment := unbroken segment
    let close (path : Path) : Path :=
      if isLast then { path with segments := [] :: path.segments } else path
    if isDoubleDot segment then close path.leave
    else if isDot segment then close path
    else if scheme = .file && path.segments.isEmpty && isDrive segment then
      { segments := [segment.take 1 ++ [':']], onDrive := true }
    else { path with segments := encoded inPath segment :: path.segments }

def enterAll (scheme : SchemeClass) (path : Path) : List (List Char) → Path
  | [] => path
  | segment :: segments =>
    enterAll scheme (path.enter scheme segment segments.isEmpty) segments

def ofChars (scheme : SchemeClass) (cs : List Char) : Path :=
  let slashes := cs.map fun c => if scheme.isSlash c then '/' else c
  enterAll scheme {} (Text.pieces '/' slashes)

/-- The path with its first slash; the path of a file has no other slashes before its first name. -/
def text (scheme : SchemeClass) (path : Path) : List Char :=
  let cs := Text.joined '/' path.segments.reverse
  '/' :: if scheme = .file then cs.dropWhile (· = '/') else cs

end Path

def normalPath (scheme : SchemeClass) (cs : List Char) : List Char :=
  (Path.ofChars scheme cs).text scheme

end BeanDiscovery.Url
