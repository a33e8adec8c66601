import BeanDiscovery.ClassInfo
import BeanDiscovery.Json.Form
import BeanDiscovery.TestConfiguration
import BeanDiscovery.Url.Reader

/-! # The JSON forms of classes and tests -/
namespace BeanDiscovery
open JsonForm Json

instance : JsonForm ClassName where
  encode name := .string name.text
  decode json := (decode json).map ClassName.mk

/-- A location is read as an absolute URL. -/
instance : JsonForm Url where
  encode url := .string url.text
  decode json := (decode json).bind Url.parse?

/-! ## Type references

A reference is an object with a single member, which is named after the shape of the reference. -/
namespace TypeRef

mutual

def toJson : TypeRef → Json
  | .cls name => .object [("Class", encode name)]
  | .parameterized raw args => .object [("Parameterized", .object
      [("raw", encode raw), ("args", .array (toJsonList args))])]
  | .var label => .object [("Variable", .string label)]
  | .array component => .object [("Array", component.toJson)]

def toJsonList : List TypeRef → List Json
  | [] => []
  | type :: types => type.toJson :: toJsonList types

end

/-- The raw class of a parameterized type. -/
def rawOf? (body : Json) : Option ClassName :=
  match slots ["raw", "args"] body with
  | some [raw, _] => raw.required
  | _ => none

mutual

def ofJson? : Json → Option TypeRef
  | .object [(shape, body)] =>
    if shape = "Class" then (decode body).map .cls
    else if shape = "Variable" then (decode body).map .var
    else if shape = "Array" then (ofJson? body).map .array
    else if shape = "Parameterized" then do
      let raw ← rawOf? body
      let args ← argsOf? body
      return .parameterized raw args
    else none
  | _ => none

/-- The arguments of a parameterized type. -/
def argsOf? : Json → Option (List TypeRef)
  | .object members => argsAmong? members
  | .array [_, args] => listOf? args
  | _ => none

def argsAmong? : List (String × Json) → Option (List TypeRef)
  | [] => none
  | (name, value) :: members => if name = "args" then listOf? value else argsAmong? members

def listOf? : Json → Option (List TypeRef)
  | .array items => ofJsonList? items
  | _ => none

def ofJsonList? : List Json → Option (List TypeRef)
  | [] => some []
  | item :: items => do
    let type ← ofJson? item
    let types ← ofJsonList? items
    return type :: types

end

end TypeRef

instance : JsonForm TypeRef where
  encode := TypeRef.toJson
  decode := TypeRef.ofJson?

/-! ## Classes -/

def ClassKind.label : ClassKind → String
  | .cls => "class"
  | .interface => "interface"
  | .enum => "enum"
  | .marker => "annotation"
  | .primitive => "primitive"

def ClassKind.all : List ClassKind := [.cls, .interface, .enum, .marker, .primitive]

def ClassKind.ofLabel? (label : String) : Option ClassKind :=
  ClassKind.all.find? fun kind => kind.label = label

/-- A kind is read from its label, alone or as the name of a member without a value. -/
instance : JsonForm ClassKind where
  encode kind := .string kind.label
  decode
    | .string label => ClassKind.ofLabel? label
    | .object [(label, .null)] => ClassKind.ofLabel? label
    | _ => none

instance : JsonForm MarkerUse where
  encode marker := .object [
    ("name", encode marker.name), ("value", encode marker.value), ("late", encode marker.late)]
  decode json := do
    match slots ["name", "value", "late"] json with
    | some [name, value, late] =>
      return { name := ← name.required, value := ← value.orDefault [], late := ← late.orDefault [] }
    | _ => none

instance : JsonForm FieldInfo where
  encode field := .object [
    ("name", .string field.name), ("declared", encode field.declared),
    ("markers", encode field.markers)]
  decode json := do
    match slots ["name", "declared", "markers"] json with
    | some [name, declared, markers] =>
      return {
        name := ← name.required
        declared := ← declared.required
        markers := ← markers.orDefault [] }
    | _ => none

instance : JsonForm MethodInfo where
  encode method := .object [
    ("name", .string method.name), ("params", encode method.params),
    ("returns", encode method.returns), ("markers", encode method.markers)]
  decode json := do
    match slots ["name", "params", "returns", "markers"] json with
    | some [name, params, returns, markers] =>
      return {
        name := ← name.required
        params := ← params.orDefault []
        returns := ← returns.orNothing
        markers := ← markers.orDefault [] }
    | _ => none

instance : JsonForm ClassInfo where
  encode info := .object [
    ("name", encode info.name), ("kind", encode info.kind),
    ("is_abstract", .bool info.isAbstract), ("location", encode info.location),
    ("superclass", encode info.superclass), ("interfaces", encode info.interfaces),
    ("markers", encode info.markers), ("fields", encode info.fields),
    ("methods", encode info.methods)]
  decode json := do
    match slots ["name", "kind", "is_abstract", "location", "superclass", "interfaces", "markers",
        "fields", "methods"] json with
    | some [name, kind, isAbstract, location, superclass, interfaces, markers, fields, methods] =>
      return {
        name := ← name.required
        kind := ← kind.orDefault .cls
        isAbstract := ← isAbstract.orDefault false
        location := ← location.orNothing
        superclass := ← superclass.orNothing
        interfaces := ← interfaces.orDefault []
        markers := ← markers.orDefault []
        fields := ← fields.orDefault []
        methods := ← methods.orDefault [] }
    | _ => none

instance : JsonForm TestConfiguration where
  encode configuration := .object [
    ("test_class", encode configuration.testClass),
    ("test_method", encode configuration.testMethod),
    ("additional_classes", encode configuration.additionalClasses)]
  decode json := do
    match slots ["test_class", "test_method", "additional_classes"] json with
    | some [testClass, testMethod, additionalClasses] =>
      return {
        testClass := ← testClass.required
        testMethod := ← testMethod.orNothing
        additionalClasses := ← additionalClasses.orDefault [] }
    | _ => none

end BeanDiscovery
