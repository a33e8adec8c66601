import BeanDiscovery.Json.Reader

/-! # Values and their JSON forms

A type with a JSON form is written in one way and read strictly: a value of the wrong kind, a missing
field without a default and a field given twice are refused, and unknown fields are passed over. A
record may also be read from the array of its fields in order. -/
namespace BeanDiscovery

class JsonForm (α : Type) where
  encode : α → Json
  decode : Json → Option α

open JsonForm

/-- Nesting that is still read from text. -/
def JsonForm.maxDepth : Nat := 127

def JsonForm.read? {α : Type} [JsonForm α] (text : String) : Option α :=
  ((Json.read? text).bind decode).filter fun value => (encode value).depth ≤ JsonForm.maxDepth

instance : JsonForm String where
  encode := .string
  decode
    | .string text => some text
    | _ => none

instance : JsonForm Bool where
  encode := .bool
  decode
    | .bool value => some value
    | _ => none

instance : JsonForm UInt64 where
  encode n := .natural n.toNat
  decode
    | .natural n => if n < UInt64.size then some (UInt64.ofNat n) else none
    | _ => none

instance {α : Type} [JsonForm α] : JsonForm (List α) where
  encode values := .array (values.map encode)
  decode
    | .array items => items.mapM decode
    | _ => none

/-- Nothing is written as null. -/
instance {α : Type} [JsonForm α] : JsonForm (Option α) where
  encode
    | none => .null
    | some value => encode value
  decode
    | .null => some none
    | json => (decode json).map some

/-! ## Records -/

namespace Json

/-- What stands for a field of a record. -/
inductive Slot where
  | given (value : Json)
  | absent
  /-- An array ends before the field. -/
  | cutOff
  deriving Inhabited

namespace Slot

def required {α : Type} [JsonForm α] : Slot → Option α
  | .given value => decode value
  | _ => none

def orDefault {α : Type} [JsonForm α] (default : α) : Slot → Option α
  | .given value => decode value
  | _ => some default

/-- A field that an object may leave out, but an array may not. -/
def orNothing {α : Type} [JsonForm α] : Slot → Option (Option α)
  | .given value => decode value
  | .absent => some none
  | .cutOff => none

end Slot

def occurrences (members : List (String × Json)) (name : String) : Nat :=
  members.countP fun entry => entry.1 = name

/-- The fields of a record in order, if an object gives none of them twice or an array has no more
items than there are fields. -/
def slots (names : List String) (json : Json) : Option (List Slot) :=
  match json with
  | .object members =>
    if names.all fun name => occurrences members name ≤ 1 then
      some (names.map fun name =>
        match json.member? name with
        | some value => .given value
        | none => .absent)
    else none
  | .array items =>
    if items.length ≤ names.length then
      some (items.map .given ++ List.replicate (names.length - items.length) .cutOff)
    else none
  | _ => none

end Json
end BeanDiscovery
