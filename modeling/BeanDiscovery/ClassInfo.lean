import BeanDiscovery.TypeRef
import BeanDiscovery.Url
import BeanDiscovery.Vocabulary

/-! # Class metadata

What discovery knows about a class that can be loaded: its kind, where it comes from, what it
extends and implements, and the markers on it and on its members. A class is put together step by
step, starting from an ordinary class below the root of the hierarchy. -/
namespace BeanDiscovery

inductive ClassKind where
  | cls
  | interface
  | enum
  /-- A marker definition. -/
  | marker
  | primitive
  deriving DecidableEq, Inhabited

/-- One use of a marker, with the classes it refers to directly and the class names it refers to
only by text. -/
structure MarkerUse where
  name : ClassName
  value : List ClassName := []
  late : List String := []
  deriving DecidableEq, Inhabited

/-- The first use of a marker among several. -/
def MarkerUse.find? (uses : List MarkerUse) (name : ClassName) : Option MarkerUse :=
  List.find? (fun marker => marker.name = name) uses

structure FieldInfo where
  name : String
  declared : TypeRef
  markers : List MarkerUse := []
  deriving Inhabited

structure MethodInfo where
  name : String
  params : List TypeRef := []
  /-- Absent for a method without a result. -/
  returns : Option TypeRef := none
  markers : List MarkerUse := []
  deriving Inhabited

structure ClassInfo where
  name : ClassName
  kind : ClassKind := .cls
  isAbstract : Bool := false
  /-- The class path root the class was loaded from. -/
  location : Option Url := none
  superclass : Option TypeRef := none
  interfaces : List ClassName := []
  markers : List MarkerUse := []
  fields : List FieldInfo := []
  methods : List MethodInfo := []
  deriving Inhabited

namespace FieldInfo

def marker? (field : FieldInfo) (name : ClassName) : Option MarkerUse :=
  MarkerUse.find? field.markers name

def hasMarker (field : FieldInfo) (name : ClassName) : Bool := (field.marker? name).isSome

/-- The erased declared type. -/
def rawType? (field : FieldInfo) : Option ClassName := field.declared.raw?

end FieldInfo

namespace MethodInfo

def marker? (method : MethodInfo) (name : ClassName) : Option MarkerUse :=
  MarkerUse.find? method.markers name

def hasMarker (method : MethodInfo) (name : ClassName) : Bool := (method.marker? name).isSome

end MethodInfo

namespace ClassInfo

def marker? (info : ClassInfo) (name : ClassName) : Option MarkerUse :=
  MarkerUse.find? info.markers name

def hasMarker (info : ClassInfo) (name : ClassName) : Bool := (info.marker? name).isSome

def isPrimitive (info : ClassInfo) : Bool := info.kind = .primitive

def isMarkerDefinition (info : ClassInfo) : Bool := info.kind = .marker

def implements (info : ClassInfo) (interface : ClassName) : Bool :=
  info.interfaces.contains interface

/-- A stereotype that is itself an alternative. -/
def isAlternativeStereotype (info : ClassInfo) : Bool :=
  info.hasMarker Vocabulary.stereotype && info.hasMarker Vocabulary.alternative

/-! ## Putting a class together -/

/-- An ordinary class below the root of the hierarchy. -/
def ordinary (name : ClassName) : ClassInfo :=
  { name, superclass := some (.cls Vocabulary.object) }

/-- Gives a class its kind; only classes and enums keep a superclass. -/
def withKind (info : ClassInfo) (kind : ClassKind) : ClassInfo :=
  match kind with
  | .cls | .enum => { info with kind }
  | _ => { info with kind, superclass := none }

def asAbstract (info : ClassInfo) : ClassInfo := { info with isAbstract := true }

def locatedAt (info : ClassInfo) (root : Url) : ClassInfo := { info with location := some root }

def extending (info : ClassInfo) (superclass : TypeRef) : ClassInfo :=
  { info with superclass := some superclass }

def implementing (info : ClassInfo) (interface : ClassName) : ClassInfo :=
  { info with interfaces := info.interfaces ++ [interface] }

def marked (info : ClassInfo) (marker : MarkerUse) : ClassInfo :=
  { info with markers := info.markers ++ [marker] }

def withField (info : ClassInfo) (field : FieldInfo) : ClassInfo :=
  { info with fields := info.fields ++ [field] }

def withMethod (info : ClassInfo) (method : MethodInfo) : ClassInfo :=
  { info with methods := info.methods ++ [method] }

/-- A primitive type. -/
def primitive (name : ClassName) : ClassInfo := (ordinary name).withKind .primitive

end ClassInfo
end BeanDiscovery
