import BeanDiscovery.ClassName

/-! # Type references

A reference to a type as it stands on a field, a method or a superclass: generic, an array, or a
variable. Erasing it leaves at most one class; flattening it lists the classes it mentions, the raw
type before its arguments. -/
namespace BeanDiscovery

inductive TypeRef where
  | cls (name : ClassName)
  | parameterized (raw : ClassName) (args : List TypeRef)
  /-- A type variable or wildcard, which names no class. -/
  | var (label : String)
  | array (component : TypeRef)
  deriving Inhabited

namespace TypeRef

/-- The erased class, if there is one; an array has the one of its component. -/
def raw? : TypeRef → Option ClassName
  | .cls name => some name
  | .parameterized raw _ => some raw
  | .var _ => none
  | .array component => component.raw?

mutual

/-- The classes a reference mentions, depth first, each raw type before its arguments. -/
def identities : TypeRef → List ClassName
  | .cls name => [name]
  | .parameterized raw args => raw :: identitiesOfAll args
  | .var _ => []
  | .array component => component.identities

def identitiesOfAll : List TypeRef → List ClassName
  | [] => []
  | type :: types => type.identities ++ identitiesOfAll types

end

end TypeRef
end BeanDiscovery
