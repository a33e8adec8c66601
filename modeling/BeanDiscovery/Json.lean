/-! # JSON values

A number is kept as a natural number when it is written with digits alone, and as its literal
otherwise. A string escape may stand for half a character; a string with such an escape, or an object
with such a member name, is a value that no text can be taken from. -/
namespace BeanDiscovery

inductive Json where
  | null
  | bool (value : Bool)
  | natural (value : Nat)
  /-- A number with a sign, a fraction or an exponent. -/
  | numeral (literal : String)
  | string (text : String)
  /-- A string, or an object with a member name, that holds half a character. -/
  | garbled
  | array (items : List Json)
  | object (members : List (String × Json))
  deriving Inhabited

namespace Json

def strings (texts : List String) : Json := .array (texts.map .string)

def member? (name : String) : Json → Option Json
  | .object members => (members.find? fun entry => entry.1 = name).map (·.2)
  | _ => none

mutual

/-- How many arrays and objects stand inside each other at most. -/
def depth : Json → Nat
  | .array items => depthOfAll items + 1
  | .object members => depthOfMembers members + 1
  | _ => 0

def depthOfAll : List Json → Nat
  | [] => 0
  | item :: items => max item.depth (depthOfAll items)

def depthOfMembers : List (String × Json) → Nat
  | [] => 0
  | (_, value) :: members => max value.depth (depthOfMembers members)

end

end Json
end BeanDiscovery
