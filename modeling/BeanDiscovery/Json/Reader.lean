import BeanDiscovery.Json
import BeanDiscovery.Json.Token

/-! # Reading JSON

A text is read token by token. The arrays and objects that are not closed yet are kept as frames, the
innermost first, so that the depth of a text is not limited. -/
namespace BeanDiscovery.Json

/-- A member whose name may hold half a character. -/
abbrev NamedValue := Option String × Json

/-- An array or an object around the value that is read, with what came before it, the latest first. -/
inductive Frame where
  | array (items : List Json)
  | object (members : List NamedValue) (name : Option String)
  deriving Inhabited

/-- What may come next. -/
inductive Expectation where
  | atValue (frames : List Frame)
  | atFirstItem (frames : List Frame)
  | afterItem (items : List Json) (frames : List Frame)
  | atFirstName (frames : List Frame)
  | atName (members : List NamedValue) (frames : List Frame)
  | atColon (members : List NamedValue) (name : Option String) (frames : List Frame)
  | afterMember (members : List NamedValue) (frames : List Frame)
  | done (value : Json)
  deriving Inhabited

def wholeMembers : List NamedValue → Option (List (String × Json))
  | [] => some []
  | (none, _) :: _ => none
  | (some name, value) :: members => (wholeMembers members).map ((name, value) :: ·)

def ofMembers (members : List NamedValue) : Json :=
  match wholeMembers members with
  | some members => .object members
  | none => .garbled

def Expectation.deliver (value : Json) : List Frame → Expectation
  | [] => .done value
  | .array items :: frames => .afterItem (value :: items) frames
  | .object members name :: frames => .afterMember ((name, value) :: members) frames

def Expectation.onValue (frames : List Frame) : Token → Option Expectation
  | .openBrace => some (.atFirstName frames)
  | .openBracket => some (.atFirstItem frames)
  | .null => some (.deliver .null frames)
  | .bool value => some (.deliver (.bool value) frames)
  | .natural value => some (.deliver (.natural value) frames)
  | .numeral literal => some (.deliver (.numeral literal) frames)
  | .text (some text) => some (.deliver (.string text) frames)
  | .text none => some (.deliver .garbled frames)
  | _ => none

def Expectation.next : Expectation → Token → Option Expectation
  | .atValue frames, token => onValue frames token
  | .atFirstItem frames, .closeBracket => some (.deliver (.array []) frames)
  | .atFirstItem frames, token => onValue (.array [] :: frames) token
  | .afterItem items frames, .comma => some (.atValue (.array items :: frames))
  | .afterItem items frames, .closeBracket => some (.deliver (.array items.reverse) frames)
  | .atFirstName frames, .closeBrace => some (.deliver (.object []) frames)
  | .atFirstName frames, .text name => some (.atColon [] name frames)
  | .atName members frames, .text name => some (.atColon members name frames)
  | .atColon members name frames, .colon => some (.atValue (.object members name :: frames))
  | .afterMember members frames, .comma => some (.atName members frames)
  | .afterMember members frames, .closeBrace =>
    some (.deliver (ofMembers members.reverse) frames)
  | _, _ => none

/-- The value of a text that holds exactly one. -/
def read? (text : String) : Option Json :=
  match (Token.ofChars text.toList).bind fun tokens =>
      tokens.foldlM Expectation.next (.atValue []) with
  | some (.done value) => some value
  | _ => none

end BeanDiscovery.Json
