import BeanDiscovery.Proofs.DeclarationOrder

/-!
# Histories of a registry

A registry is filled by calls in any order: a class may be registered again under its name, move to another
root or lose its root, and a root may be declared again with another flag. The main statement reads the answers
of the registry off the history of the calls: of the classes of a name the last one counts, of the flags of a
root the last one, and the first mention of a root gives its place. A name is listed below the root of its last
class and below no other.
-/
namespace BeanDiscovery

/-- The roots that a call mentions: the one it declares, or the location of its class. -/
def Declaration.mentioned : Declaration → List Url
  | .root location _ => [location]
  | .cls info => info.location.toList

/-- A call on a registry. -/
inductive RegistryCall where
  | addRoot (root : Url) (beanArchive : Bool)
  | register (info : ClassInfo)
  | registerAll (infos : List ClassInfo)

/-- The declarations that a call makes, one after the other. -/
def RegistryCall.declarations : RegistryCall → List Declaration
  | .addRoot root beanArchive => [.root root beanArchive]
  | .register info => [.cls info]
  | .registerAll infos => infos.map .cls

namespace TypeRegistry
variable {registry : TypeRegistry} {root other : Url} {name : ClassName}

def call (registry : TypeRegistry) : RegistryCall → TypeRegistry
  | .addRoot root beanArchive => registry.addRoot root beanArchive
  | .register info => registry.register info
  | .registerAll infos => registry.registerAll infos

def callAll (registry : TypeRegistry) (calls : List RegistryCall) : TypeRegistry :=
  calls.foldl call registry

theorem call_eq (registry : TypeRegistry) (call : RegistryCall) :
    registry.call call = registry.declareAll call.declarations := by
  cases call with
  | addRoot root beanArchive => rfl
  | register info => rfl
  | registerAll infos => exact (List.foldl_map (f := Declaration.cls) (g := declare)).symm

theorem callAll_eq (registry : TypeRegistry) (calls : List RegistryCall) :
    registry.callAll calls = registry.declareAll (calls.flatMap (·.declarations)) := by
  rw [declareAll, List.foldl_flatMap]
  exact congrArg (fun step => calls.foldl step registry) (funext₂ call_eq)

/-! ## Roots -/

/-- A registry keeps the roots it has and appends those that a declaration mentions first. -/
theorem keys_declare (registry : TypeRegistry) (declaration : Declaration) {seen : List Url}
    (h : registry.roots.keys = (OrderedSet.ofList seen).toList) :
    (registry.declare declaration).roots.keys =
      (OrderedSet.ofList (seen ++ declaration.mentioned)).toList := by
  rw [OrderedSet.ofList_append]
  cases declaration with
  | root location beanArchive =>
    refine (Table.keys_insert _ _ _).trans ?_
    rw [Declaration.mentioned, OrderedSet.insertAll_cons, OrderedSet.insertAll_nil,
      OrderedSet.toList_insert, h]
    exact if_congr OrderedSet.mem_def.symm rfl rfl
  | cls info =>
    rw [declare, register, Declaration.mentioned]
    cases info.location with
    | none => exact h
    | some location =>
      refine (Table.keys_insertNew _ _ _).trans ?_
      rw [Option.toList_some, OrderedSet.insertAll_cons, OrderedSet.insertAll_nil,
        OrderedSet.toList_insert, h]
      exact if_congr OrderedSet.mem_def.symm rfl rfl

theorem keys_declareAll (declarations : List Declaration) {seen : List Url}
    (h : registry.roots.keys = (OrderedSet.ofList seen).toList) :
    (registry.declareAll declarations).roots.keys =
      (OrderedSet.ofList (seen ++ declarations.flatMap (·.mentioned))).toList := by
  induction declarations generalizing registry seen with
  | nil => rw [List.flatMap_nil, List.append_nil]; exact h
  | cons declaration declarations ih =>
    rw [List.flatMap_cons, ← List.append_assoc]
    exact ih (registry.keys_declare declaration h)

/-! ## Classes -/

theorem resolve_initial (name : ClassName) :
    initial.resolve name = if name ∈ primitiveNames then some (.primitive name) else none := by
  split
  next h => exact @resolve_of_mem _ (.primitive name) (List.mem_map_of_mem h)
  next h =>
    refine List.find?_eq_none.2 fun info hinfo hname => h ?_
    obtain ⟨other, hother, rfl⟩ := List.mem_map.1 hinfo
    exact of_decide_eq_true hname ▸ hother

theorem classNames_singleton (registry : TypeRegistry) (root : Url) :
    registry.classNames [root] = registry.sortedNames fun info => info.location = some root :=
  List.flatMap_singleton _ _

theorem mem_sortedNames {p : ClassInfo → Bool} :
    name ∈ registry.sortedNames p ↔ ∃ info, registry.resolve name = some info ∧ p info = true := by
  rw [sortedNames, ClassName.mem_sorted, List.mem_map]
  constructor
  · rintro ⟨info, hinfo, rfl⟩
    obtain ⟨hmem, hp⟩ := List.mem_filter.1 hinfo
    exact ⟨info, resolve_of_mem hmem, hp⟩
  · rintro ⟨info, hresolve, hp⟩
    exact ⟨info, List.mem_filter.2 ⟨mem_of_resolve hresolve, hp⟩, name_of_resolve hresolve⟩

theorem mem_classNames_singleton :
    name ∈ registry.classNames [root] ↔
      ∃ info, registry.resolve name = some info ∧ info.location = some root := by
  rw [classNames_singleton, mem_sortedNames]
  exact exists_congr fun info => and_congr_right fun _ => decide_eq_true_iff

/-- A registry knows one class of a name, so it lists each name once. -/
theorem classNames_strict (registry : TypeRegistry) (root : Url) :
    (registry.classNames [root]).Pairwise fun a b => a.text < b.text := by
  rw [classNames_singleton]
  exact ClassName.sorted_strict (registry.distinct.sublist (List.filter_sublist.map _))

theorem root_unique (h : name ∈ registry.classNames [root])
    (hother : name ∈ registry.classNames [other]) : other = root := by
  obtain ⟨info, hresolve, hroot⟩ := mem_classNames_singleton.1 h
  obtain ⟨info', hresolve', hother⟩ := mem_classNames_singleton.1 hother
  obtain rfl := Option.some.inj (hresolve.symm.trans hresolve')
  exact Option.some.inj (hother.symm.trans hroot)

theorem packageClassNames_eq_filter (registry : TypeRegistry) (package : String) (root : Url) :
    registry.packageClassNames package root =
      (registry.classNames [root]).filter fun name => name.package = package := by
  rw [classNames_singleton, sortedNames, ClassName.filter_sorted, List.filter_map, List.filter_filter,
    packageClassNames, sortedNames]
  refine congrArg (fun infos : List ClassInfo => ClassName.sorted (infos.map (·.name)))
    (List.filter_congr fun info _ => ?_)
  exact Bool.and_comm _ _

/-- What a registry answers after any calls, read off the history of the declarations they make. -/
theorem answers_of_calls (calls : List RegistryCall) :
    let history := calls.flatMap (·.declarations)
    let registry := initial.callAll calls
    (∀ name, registry.resolve name = (history.reverse.findSome? (·.class? name)).or
      (if name ∈ primitiveNames then some (.primitive name) else none)) ∧
    (∀ name info, registry.resolve name = some info → info.name = name) ∧
    registry.scanner.roots = (OrderedSet.ofList (history.flatMap (·.mentioned))).toList ∧
    registry.scanner.roots.Nodup ∧
    (∀ roots, registry.scanner.beanArchives roots =
      roots.filter fun root => history.reverse.findSome? (·.flag? root) = some true) ∧
    ∀ root,
      (registry.scanner.classNames [root]).Pairwise (fun a b => a.text < b.text) ∧
      (∀ name, name ∈ registry.scanner.classNames [root] ↔
        ∃ info, registry.resolve name = some info ∧ info.location = some root) ∧
      (∀ other, ∀ name ∈ registry.scanner.classNames [root],
        name ∈ registry.scanner.classNames [other] → other = root) ∧
      ∀ package, registry.scanner.packageClassNames package root =
        (registry.scanner.classNames [root]).filter fun name => name.package = package := by
  intro history registry
  have hregistry : registry = initial.declareAll history := callAll_eq initial calls
  refine ⟨fun name => ?_, fun name info => name_of_resolve, ?_, registry.roots.nodup, fun roots => ?_,
    fun root => ⟨registry.classNames_strict root, fun name => mem_classNames_singleton,
      fun other name => root_unique, fun package => registry.packageClassNames_eq_filter package root⟩⟩
  · rw [hregistry, resolve_declareAll, resolve_initial]
  · rw [hregistry]
    exact @keys_declareAll _ history [] rfl
  · refine List.filter_congr fun root _ => ?_
    rw [hregistry, isBeanArchive_declareAll]
    cases history.reverse.findSome? (·.flag? root) with
    | none => rfl
    | some beanArchive => cases beanArchive <;> rfl

/-- Before any call the primitive types are there and nothing else. -/
example :
    (initial.callAll []).resolve ⟨"int"⟩ = some (.primitive ⟨"int"⟩) ∧
      (initial.callAll []).names.map (·.text) =
        ["boolean", "byte", "char", "short", "int", "long", "float", "double", "void"] := ⟨rfl, rfl⟩

end TypeRegistry
end BeanDiscovery
