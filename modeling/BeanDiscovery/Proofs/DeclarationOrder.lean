import BeanDiscovery.Proofs.AgreeingEnvironments
import BeanDiscovery.Proofs.TraversalCompleteness

/-!
# The order of declarations

A registry is filled by declaring roots and registering classes, one call after the other. The last call for a
name or a root counts, and registering a class leaves the flags of roots alone, so calls that do not
contradict each other may come in any order. The main statement says that the order shows in no answer of the
registry, but for the order of its roots, and in no discovery with the default plugins.
-/
namespace BeanDiscovery

/-- A call that fills a registry. -/
inductive Declaration where
  | root (root : Url) (beanArchive : Bool)
  | cls (info : ClassInfo)

namespace Declaration

/-- What a call is about: the name of a class, or a root. -/
inductive Subject where
  | cls (name : ClassName)
  | root (root : Url)
  deriving DecidableEq

def subject : Declaration → Subject
  | .root location _ => .root location
  | .cls info => .cls info.name

/-- The class that a call registers under a name. -/
def class? (name : ClassName) : Declaration → Option ClassInfo
  | .root _ _ => none
  | .cls info => if info.name = name then some info else none

/-- The flag that a call gives to a root. -/
def flag? (location : Url) : Declaration → Option Bool
  | .root other beanArchive => if other = location then some beanArchive else none
  | .cls _ => none

/-- No two calls contradict each other. -/
def Consistent (declarations : List Declaration) : Prop :=
  ∀ declaration ∈ declarations, ∀ other ∈ declarations, declaration.subject = other.subject →
    declaration = other

theorem consistent_of_nodup {declarations : List Declaration}
    (h : (declarations.map subject).Nodup) : Consistent declarations :=
  fun _ hmem _ hother hsubject => List.inj_on_of_nodup_map h hmem hother hsubject

theorem subject_of_class? {declaration : Declaration} {name : ClassName} {info : ClassInfo}
    (h : declaration.class? name = some info) : declaration.subject = .cls name := by
  cases declaration with
  | root location beanArchive => cases h
  | cls other =>
    rw [class?] at h
    split at h
    next hname => rw [subject, hname]
    next => cases h

theorem subject_of_flag? {declaration : Declaration} {location : Url} {beanArchive : Bool}
    (h : declaration.flag? location = some beanArchive) : declaration.subject = .root location := by
  cases declaration with
  | root other flag =>
    rw [flag?] at h
    split at h
    next hlocation => rw [subject, hlocation]
    next => cases h
  | cls info => cases h

/-- What consistent calls say about one subject does not depend on their order. -/
theorem Consistent.findSome?_eq {α : Type} {f : Declaration → Option α} {subject : Subject}
    {first second : List Declaration} (h : Consistent first)
    (hsame : ∀ declaration, declaration ∈ second ↔ declaration ∈ first)
    (hf : ∀ declaration value, f declaration = some value → declaration.subject = subject) :
    second.findSome? f = first.findSome? f := by
  cases hfirst : first.findSome? f with
  | none =>
    rw [List.findSome?_eq_none_iff] at hfirst ⊢
    exact fun declaration hmem => hfirst declaration ((hsame declaration).1 hmem)
  | some value =>
    obtain ⟨declaration, hmem, hvalue⟩ := List.exists_of_findSome?_eq_some hfirst
    cases hsecond : second.findSome? f with
    | none =>
      have hnone := List.findSome?_eq_none_iff.1 hsecond declaration ((hsame declaration).2 hmem)
      cases hnone.symm.trans hvalue
    | some other =>
      obtain ⟨later, hlater, hother⟩ := List.exists_of_findSome?_eq_some hsecond
      obtain rfl := h declaration hmem later ((hsame later).1 hlater)
        ((hf declaration value hvalue).trans (hf later other hother).symm)
      exact hother.symm.trans hvalue

end Declaration

namespace TypeRegistry
variable {first second registry : TypeRegistry}

def declare (registry : TypeRegistry) : Declaration → TypeRegistry
  | .root root beanArchive => registry.addRoot root beanArchive
  | .cls info => registry.register info

def declareAll (registry : TypeRegistry) (declarations : List Declaration) : TypeRegistry :=
  declarations.foldl declare registry

/-! ## The last call counts -/

theorem resolve_declare (registry : TypeRegistry) (declaration : Declaration) (name : ClassName) :
    (registry.declare declaration).resolve name =
      (declaration.class? name).or (registry.resolve name) := by
  cases declaration with
  | root root beanArchive => rfl
  | cls info =>
    rw [declare, resolve_register, Declaration.class?]
    split <;> rfl

theorem resolve_declareAll (registry : TypeRegistry) (declarations : List Declaration)
    (name : ClassName) :
    (registry.declareAll declarations).resolve name =
      (declarations.reverse.findSome? (·.class? name)).or (registry.resolve name) := by
  induction declarations generalizing registry with
  | nil => rfl
  | cons declaration declarations ih =>
    refine (ih (registry.declare declaration)).trans ?_
    rw [resolve_declare, List.reverse_cons, List.findSome?_append, List.findSome?_singleton,
      Option.or_assoc]

theorem isBeanArchive_declare (registry : TypeRegistry) (declaration : Declaration) (root : Url) :
    (registry.declare declaration).isBeanArchive root =
      (declaration.flag? root).getD (registry.isBeanArchive root) := by
  cases declaration with
  | root other beanArchive =>
    rw [declare, isBeanArchive_addRoot, Declaration.flag?]
    split <;> rfl
  | cls info => exact isBeanArchive_register registry info root

theorem isBeanArchive_declareAll (registry : TypeRegistry) (declarations : List Declaration)
    (root : Url) :
    (registry.declareAll declarations).isBeanArchive root =
      (declarations.reverse.findSome? (·.flag? root)).getD (registry.isBeanArchive root) := by
  induction declarations generalizing registry with
  | nil => rfl
  | cons declaration declarations ih =>
    refine (ih (registry.declare declaration)).trans ?_
    rw [isBeanArchive_declare, List.reverse_cons, List.findSome?_append, List.findSome?_singleton]
    cases declarations.reverse.findSome? (·.flag? root) <;> rfl

/-! ## Registries that answer alike -/

/-- Two registries know the same classes and give the same flag to every root. -/
structure Alike (first second : TypeRegistry) : Prop where
  resolve : ∀ name, second.resolve name = first.resolve name
  isBeanArchive : ∀ root, second.isBeanArchive root = first.isBeanArchive root

theorem mem_classes_iff {info : ClassInfo} :
    info ∈ registry.classes ↔ registry.resolve info.name = some info :=
  ⟨resolve_of_mem, mem_of_resolve⟩

theorem Alike.classes_perm (h : first.Alike second) : second.classes.Perm first.classes :=
  (List.perm_ext_iff_of_nodup second.distinct.of_map first.distinct.of_map).2 fun info => by
    rw [mem_classes_iff, mem_classes_iff, h.resolve]

theorem Alike.size (h : first.Alike second) : second.size = first.size := h.classes_perm.length_eq

/-- Sorting hides the order of the classes. -/
theorem Alike.sortedNames (h : first.Alike second) (p : ClassInfo → Bool) :
    second.sortedNames p = first.sortedNames p :=
  ClassName.sorted_congr ((h.classes_perm.filter p).map (·.name))

theorem Alike.classNames (h : first.Alike second) (roots : List Url) :
    second.classNames roots = first.classNames roots :=
  List.flatMap_congr fun _ _ => h.sortedNames _

theorem Alike.packageClassNames (h : first.Alike second) (package : String) (root : Url) :
    second.packageClassNames package root = first.packageClassNames package root :=
  h.sortedNames _

theorem Alike.beanArchives (h : first.Alike second) (roots : List Url) :
    second.scanner.beanArchives roots = first.scanner.beanArchives roots :=
  List.filter_congr fun root _ => h.isBeanArchive root

theorem Alike.locationOf (h : first.Alike second) (name : ClassName) :
    second.locationOf name = first.locationOf name := by
  rw [TypeRegistry.locationOf, TypeRegistry.locationOf, h.resolve]

theorem alike_declareAll {declarations others : List Declaration}
    (h : Declaration.Consistent declarations)
    (hsame : ∀ declaration, declaration ∈ others ↔ declaration ∈ declarations)
    (registry : TypeRegistry) :
    (registry.declareAll declarations).Alike (registry.declareAll others) := by
  have hreverse : Declaration.Consistent declarations.reverse := fun declaration hmem other hother =>
    h declaration (List.mem_reverse.1 hmem) other (List.mem_reverse.1 hother)
  have hsame : ∀ declaration, declaration ∈ others.reverse ↔ declaration ∈ declarations.reverse :=
    fun declaration => by rw [List.mem_reverse, List.mem_reverse, hsame]
  constructor
  · intro name
    rw [resolve_declareAll, resolve_declareAll,
      hreverse.findSome?_eq hsame fun _ _ => Declaration.subject_of_class?]
  · intro root
    rw [isBeanArchive_declareAll, isBeanArchive_declareAll,
      hreverse.findSome?_eq hsame fun _ _ => Declaration.subject_of_flag?]

end TypeRegistry

/-! ## Discoveries -/

namespace TypeRegistry.Alike
open Environment
variable {first second : TypeRegistry} {container : ContainerInterface}
  {configuration : TestConfiguration} {memory : ScanCache} {hidden : ClassName → Prop}

theorem identities (h : first.Alike second) (ref : ClassRef) :
    ref.identities second = ref.identities first := by
  cases ref with
  | ofName name => rw [ClassRef.identities, ClassRef.identities, h.resolve]
  | _ => rfl

theorem agreeOnArchives (h : first.Alike second) (bases : List ClassName) :
    (inMemory first container configuration).AgreeOnArchives (inMemory second container configuration)
      memory bases where
  roots := congrArg (fun locations => (OrderedSet.ofList locations).toList)
    (List.filterMap_congr fun base _ => h.locationOf base)
  names := fun hfound => (h.classNames _).trans hfound

theorem agreeOnPackages (h : first.Alike second) (bases : List ClassName) :
    (inMemory first container configuration).AgreeOnPackages (inMemory second container configuration)
      memory bases where
  root := fun base _ => h.locationOf base
  names := fun _ _ _ _ hfound => (h.packageClassNames _ _).trans hfound

/-- Registries that answer alike agree on every step. -/
theorem agrees (h : first.Alike second) (step : HookStep) :
    step.Agrees (inMemory first container configuration) (inMemory second container configuration)
      hidden memory := by
  cases step with
  | act action =>
    cases action with
    | offer ref => exact h.identities ref
    | ignore ref => exact fun name _ => iff_of_eq (congrArg (name ∈ ·) (h.identities ref))
    | offerPackage ref => exact ⟨h.identities ref, h.agreeOnPackages _⟩
    | offerArchive ref => exact ⟨h.identities ref, h.agreeOnArchives _⟩
    | activate group ref => exact h.identities ref
    | register registration => trivial
  | scanArchives bases => exact h.agreeOnArchives bases
  | scanPackages bases => exact h.agreeOnPackages bases

/-- Discovery over registries that answer alike has the same report or the same failure. -/
theorem report (h : first.Alike second) {package : String} {plugins : List Plugin}
    (hplugins : Plugin.AreDefault package plugins) (assembler : Assembler) :
    (Run.complete (inMemory second container configuration) {} plugins).report assembler =
      (Run.complete (inMemory first container configuration) {} plugins).report assembler := by
  have halike : (Run.complete (inMemory first container configuration) {} plugins).Alike
      (fun _ => False) (Run.complete (inMemory second container configuration) {} plugins) := by
    refine Run.alike_complete ⟨rfl, rfl, fun sentinel _ => ?_⟩ hplugins (fun root => ?_)
      (h.resolve _) (fun step _ => h.agrees step) fun visit _ => ?_
    · exact congrArg Option.isSome (h.resolve sentinel)
    · refine ScanCache.mem_beanArchiveRoots_fresh.trans
        (Iff.trans ?_ ScanCache.mem_beanArchiveRoots_fresh.symm)
      rw [h.isBeanArchive]
    · exact ⟨id, h.resolve _, fun _ _ _ _ name _ => h.resolve name, fun step _ => h.agrees step⟩
  exact halike.report (fun _ _ => id) assembler

end TypeRegistry.Alike

namespace TypeRegistry
open Environment

/-- Two lists of the same calls, which do not contradict each other, fill a registry. Then every name is
resolved alike, the registries are equally large, scans of class paths and packages find the same names in
the same order, the same roots are bean archives, and discovery with the default plugins over a memory
without answers has the same report or the same failure. -/
theorem answers_of_declarations {declarations others : List Declaration}
    (h : Declaration.Consistent declarations)
    (hsame : ∀ declaration, declaration ∈ others ↔ declaration ∈ declarations)
    (registry : TypeRegistry) :
    let first := registry.declareAll declarations
    let second := registry.declareAll others
    (∀ name, second.resolve name = first.resolve name) ∧
    second.size = first.size ∧
    (∀ roots, second.classNames roots = first.classNames roots) ∧
    (∀ package root, second.packageClassNames package root = first.packageClassNames package root) ∧
    (∀ roots, second.scanner.beanArchives roots = first.scanner.beanArchives roots) ∧
    ∀ (container : ContainerInterface) (configuration : TestConfiguration) (package : String)
      (plugins : List Plugin) (assembler : Assembler), Plugin.AreDefault package plugins →
        (Run.complete (inMemory second container configuration) {} plugins).report assembler =
          (Run.complete (inMemory first container configuration) {} plugins).report assembler := by
  intro first second
  have halike : first.Alike second := alike_declareAll h hsame registry
  exact ⟨halike.resolve, halike.size, halike.classNames, halike.packageClassNames,
    halike.beanArchives, fun _ _ _ _ assembler hplugins => halike.report hplugins assembler⟩

/-- The class of a library and a test, each before the root of the test is declared. -/
def libraryDeclarations : List Declaration :=
  [.cls Run.libraryClass, .cls Run.libraryTest, .root ⟨"file:///cp/app/"⟩ true]

/-- Backwards the same calls give the roots another order, and discovery does not change. -/
theorem answers_library :
    Declaration.Consistent libraryDeclarations ∧
    (initial.declareAll libraryDeclarations.reverse).scanner.roots ≠
      (initial.declareAll libraryDeclarations).scanner.roots ∧
    (Run.complete (inMemory (initial.declareAll libraryDeclarations.reverse) (Container.interface {})
        Run.library.configuration) {} (Plugin.defaultSet Vocabulary.frameworkPackage)).report {} =
      (Run.complete (inMemory (initial.declareAll libraryDeclarations) (Container.interface {})
        Run.library.configuration) {} (Plugin.defaultSet Vocabulary.frameworkPackage)).report {} := by
  have hconsistent := Declaration.consistent_of_nodup
    (show (libraryDeclarations.map Declaration.subject).Nodup by decide)
  obtain ⟨-, -, -, -, -, hreport⟩ :=
    answers_of_declarations hconsistent (fun _ => List.mem_reverse) initial
  exact ⟨hconsistent, by decide +kernel, hreport _ _ Vocabulary.frameworkPackage _ _ rfl⟩

end TypeRegistry
end BeanDiscovery
