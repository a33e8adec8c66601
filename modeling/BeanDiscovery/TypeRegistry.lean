import BeanDiscovery.ClassInfo
import BeanDiscovery.Scanner
import BeanDiscovery.Table

/-! # The type registry

The classes that can be loaded, one to a name, and the roots they come from with a flag that tells
the bean archives. A registry answers look-ups by name and is scanned like a class path. The main
statements say what registering a class or adding a root does to every look-up. -/
namespace BeanDiscovery

structure TypeRegistry where
  classes : List ClassInfo
  /-- The roots in the order of their first mention, each with its bean archive flag. -/
  roots : Table Url Bool
  distinct : (classes.map (·.name)).Nodup

namespace TypeRegistry

/-- The types that are known from the start. -/
def primitiveNames : List ClassName :=
  [⟨"boolean"⟩, ⟨"byte"⟩, ⟨"char"⟩, ⟨"short"⟩, ⟨"int"⟩, ⟨"long"⟩, ⟨"float"⟩, ⟨"double"⟩, ⟨"void"⟩]

private theorem map_name_primitive (names : List ClassName) :
    (names.map ClassInfo.primitive).map (·.name) = names := by
  induction names with
  | nil => rfl
  | cons name names ih => rw [List.map_cons, List.map_cons, ih]; rfl

/-- A registry of the primitive types alone. -/
def initial : TypeRegistry :=
  ⟨primitiveNames.map ClassInfo.primitive, .empty, by
    rw [map_name_primitive]
    decide⟩

instance : Inhabited TypeRegistry := ⟨initial⟩

/-- The class of a name. -/
def resolve (registry : TypeRegistry) (name : ClassName) : Option ClassInfo :=
  registry.classes.find? fun info => info.name = name

def isPresent (registry : TypeRegistry) (name : ClassName) : Bool := (registry.resolve name).isSome

/-- The root a class was loaded from. -/
def locationOf (registry : TypeRegistry) (name : ClassName) : Option Url :=
  (registry.resolve name).bind (·.location)

def names (registry : TypeRegistry) : List ClassName := registry.classes.map (·.name)

def size (registry : TypeRegistry) : Nat := registry.classes.length

/-- Declares a root; a root declared again takes the new flag. -/
def addRoot (registry : TypeRegistry) (root : Url) (beanArchive : Bool) : TypeRegistry :=
  { registry with roots := registry.roots.insert root beanArchive }

/-- Registers a class in place of any class of its name. Its location becomes a plain root unless
it is a root already. -/
def register (registry : TypeRegistry) (info : ClassInfo) : TypeRegistry where
  classes := info :: registry.classes.filter fun other => other.name ≠ info.name
  roots := match info.location with
    | some root => registry.roots.insertNew root false
    | none => registry.roots
  distinct := by
    rw [List.map_cons, List.nodup_cons]
    refine ⟨fun h => ?_, registry.distinct.sublist (List.filter_sublist.map _)⟩
    obtain ⟨other, ho, hn⟩ := List.mem_map.1 h
    simpa [hn] using (List.mem_filter.1 ho).2

def registerAll (registry : TypeRegistry) (infos : List ClassInfo) : TypeRegistry :=
  infos.foldl register registry

/-! ## Look-ups -/

theorem name_of_resolve {registry : TypeRegistry} {name : ClassName} {info : ClassInfo}
    (h : registry.resolve name = some info) : info.name = name := by
  simpa using List.find?_some h

theorem mem_of_resolve {registry : TypeRegistry} {name : ClassName} {info : ClassInfo}
    (h : registry.resolve name = some info) : info ∈ registry.classes :=
  List.mem_of_find?_eq_some h

theorem resolve_isSome {registry : TypeRegistry} {name : ClassName} :
    (registry.resolve name).isSome = true ↔ name ∈ registry.names := by
  simp [resolve, names, List.find?_isSome]

theorem resolve_register (registry : TypeRegistry) (info : ClassInfo) (name : ClassName) :
    (registry.register info).resolve name =
      if info.name = name then some info else registry.resolve name := by
  by_cases h : info.name = name
  · simp [resolve, register, h]
  · simp only [resolve, register, List.find?_cons, h, decide_false, if_false, List.find?_filter]
    congr 1
    funext other
    by_cases ho : other.name = name
    · simp [ho, Ne.symm h]
    · simp [ho]

@[simp] theorem resolve_addRoot (registry : TypeRegistry) (root : Url) (beanArchive : Bool)
    (name : ClassName) : (registry.addRoot root beanArchive).resolve name = registry.resolve name :=
  rfl

/-! ## The registry as a class path -/

/-- The names of the classes with a property, in ascending order. -/
def sortedNames (registry : TypeRegistry) (p : ClassInfo → Bool) : List ClassName :=
  ClassName.sorted ((registry.classes.filter p).map (·.name))

def isBeanArchive (registry : TypeRegistry) (root : Url) : Bool :=
  (registry.roots.get? root).getD false

/-- Registering a class does not make a bean archive of a root, nor the other way round. -/
theorem isBeanArchive_register (registry : TypeRegistry) (info : ClassInfo) (root : Url) :
    (registry.register info).isBeanArchive root = registry.isBeanArchive root := by
  rw [isBeanArchive, isBeanArchive, register]
  cases info.location with
  | none => rfl
  | some location =>
    rw [Table.get?_insertNew]
    split
    next hnew =>
      obtain ⟨rfl, hnew⟩ := hnew
      rw [Table.get?_eq_none.2 hnew]
      rfl
    next => rfl

/-- A root has the flag that it was declared with last. -/
theorem isBeanArchive_addRoot (registry : TypeRegistry) (root other : Url) (beanArchive : Bool) :
    (registry.addRoot root beanArchive).isBeanArchive other =
      if root = other then beanArchive else registry.isBeanArchive other := by
  rw [isBeanArchive, isBeanArchive, addRoot, Table.get?_insert]
  split <;> rfl

def classNames (registry : TypeRegistry) (roots : List Url) : List ClassName :=
  roots.flatMap fun root => registry.sortedNames fun info => info.location = some root

def packageClassNames (registry : TypeRegistry) (package : String) (root : Url) :
    List ClassName :=
  registry.sortedNames fun info => info.location = some root && info.name.package = package

def scanner (registry : TypeRegistry) : Scanner where
  label := "in-memory"
  roots := registry.roots.keys
  beanArchives := List.filter registry.isBeanArchive
  classNames := registry.classNames
  packageClassNames := registry.packageClassNames

end TypeRegistry
end BeanDiscovery
