import Mathlib.Order.Bounds.Defs
import BeanDiscovery.Proofs.Deployment
import BeanDiscovery.Proofs.Reorderings

/-!
# The closure of a static registry

In a run that changes no scope, whether a class is inspected depends on the registry and the test alone.
Hence the names that ever wait are the least set that holds the test class and the additional classes and
is closed under the references of its inspectable members. The main statement is that such a run ends well
with this set, and that the order in which members, interfaces and additional classes are listed has no
influence on the sets it finds.
-/
namespace BeanDiscovery

namespace TypeRegistry

/-- A name stands for a class that is inspected whenever it is met: one that is not primitive and either
is the test class, or comes from a bean archive, or implements the extension interface. -/
def IsInspectable (registry : TypeRegistry) (test name : ClassName) : Prop :=
  ∃ info, registry.resolve name = some info ∧ info.kind ≠ .primitive ∧
    (name = test ∨ (∃ root, info.location = some root ∧ registry.isBeanArchive root = true) ∨
      info.implements Vocabulary.extensionInterface = true)

/-- A set of names holds the names of a test and what its inspectable members refer to. -/
structure IsClosed (registry : TypeRegistry) (package : String) (configuration : TestConfiguration)
    (names : Set ClassName) : Prop where
  test : configuration.testClass ∈ names
  additional : ∀ name ∈ configuration.additionalClasses, name ∈ names
  refers : ∀ origin ∈ names, registry.IsInspectable configuration.testClass origin →
    ∀ info, registry.resolve origin = some info →
      ∀ name, info.Refers registry package name → name ∈ names

end TypeRegistry

/-- No class of an environment changes a scope, its class path is that of its registry, and its container
recognises extension types by their interface and builds them all. -/
structure Environment.IsStatic (package : String) (env : Environment) : Prop where
  scanner : env.scanner = env.registry.scanner
  registry : env.registry.IsStatic package
  isExtensionType : ∀ info, env.container.isExtensionType info =
    info.implements Vocabulary.extensionInterface
  builds : env.container.BuildsAll env.registry

namespace Context
variable {env : Environment} {context : Context}

theorem mem_archiveRoots_start (hscanner : env.scanner = env.registry.scanner) {root : Url} :
    root ∈ (start env {}).archiveRoots ↔ env.registry.isBeanArchive root = true := by
  have hroots : (start env {}).archiveRoots =
      .ofList (env.scanner.beanArchives env.scanner.roots) := rfl
  rw [hroots, hscanner, OrderedSet.mem_ofList]
  refine List.mem_filter.trans (and_iff_right_of_imp fun hflag => ?_)
  rw [TypeRegistry.isBeanArchive] at hflag
  refine Table.get?_isSome.1 ?_
  cases h : env.registry.roots.get? root with
  | none => simp [h] at hflag
  | some flag => rfl

/-- As long as no scope has changed, the registry and the test tell what is to be inspected. -/
theorem Keeps.inspectable_iff (h : (start env {}).Keeps context) {package : String}
    (hstatic : env.IsStatic package) {name : ClassName} :
    context.Inspectable env name ↔
      env.registry.IsInspectable env.configuration.testClass name := by
  have hignored : name ∉ context.findings.ignored := by
    rw [h.ignored]
    exact List.not_mem_nil
  have hincluded : ∀ other, other ∈ context.included ↔ other = env.configuration.testClass := by
    intro other
    rw [h.included]
    exact OrderedSet.mem_ofList.trans List.mem_singleton
  rw [Inspectable, and_iff_right hignored, TypeRegistry.IsInspectable]
  refine exists_congr fun info => and_congr_right fun hinfo => and_congr_right fun _ => ?_
  rw [hincluded, TypeRegistry.name_of_resolve hinfo, hstatic.isExtensionType, h.archiveRoots]
  simp only [mem_archiveRoots_start hstatic.scanner]

end Context

namespace Run
variable {env : Environment} {scans : ScanCache} {plugins : List Plugin} {package : String}
  {name : ClassName}

/-! ## The least set -/

theorem mem_enqueued : name ∈ enqueued env scans plugins ↔
    name ∈ seedOffers env scans plugins ∨ ∃ origin, Offers env scans plugins origin name := by
  rw [enqueued_eq, ← nodes_complete]
  exact mem_nodes_complete

/-- A set that holds what is offered before the traversal, and with a class all that the class offers, holds
every name that ever waits. -/
theorem mem_of_mem_enqueued {names : Set ClassName}
    (hseeds : ∀ name ∈ seedOffers env scans plugins, name ∈ names)
    (hoffers : ∀ origin ∈ names, ∀ name, Offers env scans plugins origin name → name ∈ names)
    (h : name ∈ enqueued env scans plugins) : name ∈ names := by
  have hrecorded := recorded_complete env scans plugins
  have hnode : name ∈ (complete env scans plugins).context.frontier.graph.nodes :=
    mem_nodes_complete.2 (mem_enqueued.1 h)
  -- along the edges of the graph, from the seeds to the name
  induction hnode using hrecorded.forward_graph.node_induction with
  | root name hnode hroot =>
    have hseed := mem_seeds_of_root hnode hroot
    change name ∈ (seeded env scans plugins).worklist.pending.toList at hseed
    rw [pending_seeded, Offer.mem_names_firsts, Offer.names, seedLog, List.map_map] at hseed
    obtain ⟨seed, hmem, rfl⟩ := List.mem_map.1 hseed
    exact hseeds seed hmem
  | below name origin horigin ih =>
    have hedge := DiscoveryGraph.mem_edges_of_origin? horigin
    have hfirst := Offer.find?_eq_some_iff_mem_firsts.2 (hrecorded.mem_edges.1 hedge)
    have hoffer : Offers env scans plugins origin name :=
      offers_iff.2 (List.mem_of_find?_eq_some hfirst)
    have hnode := hrecorded.forward_graph.origin_mem_nodes horigin
    exact hoffers origin (ih (mem_enqueued.2 (mem_nodes_complete.1 hnode))) name hoffer

/-- A run that ends well visits the names that ever wait. -/
theorem mem_enqueued_iff_visit (hf : (complete env scans plugins).failure = none) :
    name ∈ enqueued env scans plugins ↔
      ∃ visit ∈ visits env scans plugins, visit.candidate = name := by
  rw [enqueued_eq, ← candidates_complete hf]
  exact List.mem_map

/-! ## Static runs -/

section Static
variable (h : env.IsStatic package)
include h

theorem failure_static : (complete env {} [.standard, .testMarkers package]).failure = none :=
  (isStatic_complete h.registry h.builds).1.failure

/-- The names that wait before the traversal of a static run are those of the test. -/
theorem seedOffers_static :
    seedOffers env {} [.standard, .testMarkers package] =
      env.configuration.testClass :: env.configuration.additionalClasses := by
  refine seedOffers_of_silent (Plugin.truthful_standard_testMarkers env.registry package)
    (fun plugin hplugin memory => ?_) (failure_static h)
  simp only [List.mem_cons, List.not_mem_nil, or_false] at hplugin
  rcases hplugin with rfl | rfl <;> rfl

/-- In a static run a class offers what it refers to. -/
theorem offers_static_iff {origin : ClassName} :
    Offers env {} [.standard, .testMarkers package] origin name ↔
      origin ∈ (complete env {} [.standard, .testMarkers package]).trail.inspected ∧
        ∃ info, env.registry.resolve origin = some info ∧
          info.Refers env.registry package name := by
  rw [offers_iff_plan (Plugin.truthful_standard_testMarkers env.registry package) (failure_static h)]
  refine and_congr_right fun _ => exists_congr fun info => and_congr_right fun hinfo => ?_
  rw [Plugin.mem_offers_standard_testMarkers]
  exact or_iff_left (h.registry info (TypeRegistry.mem_of_resolve hinfo)).not_expands

/-- The visits of a static run inspect what is inspectable. -/
theorem isInspection_static_iff {visit : Visit}
    (hvisit : visit ∈ visits env {} [.standard, .testMarkers package]) :
    visit.isInspection env = true ↔
      env.registry.IsInspectable env.configuration.testClass visit.candidate := by
  have hkeeps := ((isStatic_complete h.registry h.builds).2 visit hvisit).keeps
  exact Context.target?_isSome_iff.trans (hkeeps.inspectable_iff h)

theorem mem_inspected_static :
    name ∈ (complete env {} [.standard, .testMarkers package]).trail.inspected ↔
      name ∈ enqueued env {} [.standard, .testMarkers package] ∧
        env.registry.IsInspectable env.configuration.testClass name := by
  have hf := failure_static h
  rw [mem_enqueued_iff_visit hf]
  constructor
  · intro hinspected
    obtain ⟨visit, hvisit, rfl, -⟩ := mem_inspected.1 hinspected
    rw [mem_inspected_iff hf hvisit, isInspection_static_iff h hvisit] at hinspected
    exact ⟨⟨visit, hvisit, rfl⟩, hinspected⟩
  · rintro ⟨⟨visit, hvisit, rfl⟩, hinspectable⟩
    rwa [mem_inspected_iff hf hvisit, isInspection_static_iff h hvisit]

theorem mem_skipped_static :
    name ∈ (complete env {} [.standard, .testMarkers package]).trail.skipped ↔
      name ∈ enqueued env {} [.standard, .testMarkers package] ∧
        ¬ env.registry.IsInspectable env.configuration.testClass name := by
  have hf := failure_static h
  have hiff : ∀ visit ∈ visits env {} [.standard, .testMarkers package],
      (visit.candidate ∈ (complete env {} [.standard, .testMarkers package]).trail.skipped ↔
        ¬ env.registry.IsInspectable env.configuration.testClass visit.candidate) := by
    intro visit hvisit
    rw [mem_skipped_iff hf hvisit, ← isInspection_static_iff h hvisit, Bool.not_eq_true]
  rw [mem_enqueued_iff_visit hf]
  constructor
  · intro hskipped
    obtain ⟨visit, hvisit, rfl, -⟩ := mem_skipped.1 hskipped
    exact ⟨⟨visit, hvisit, rfl⟩, (hiff visit hvisit).1 hskipped⟩
  · rintro ⟨⟨visit, hvisit, rfl⟩, hother⟩
    exact (hiff visit hvisit).2 hother

/-- The names that ever wait in a static run are the least closed set. -/
theorem isLeast_enqueued :
    IsLeast {names | env.registry.IsClosed package env.configuration names}
      {name | name ∈ enqueued env {} [.standard, .testMarkers package]} := by
  have hseeds := seedOffers_static h
  constructor
  -- the names are closed: an inspectable one is inspected, and offers what it refers to
  · refine ⟨mem_enqueued.2 (Or.inl ?_), fun name hname => mem_enqueued.2 (Or.inl ?_),
      fun origin horigin hinspectable info hinfo name hrefers => mem_enqueued.2 (Or.inr ?_)⟩
    · rw [hseeds]
      exact List.mem_cons_self
    · rw [hseeds]
      exact List.mem_cons_of_mem _ hname
    · have hinspected := (mem_inspected_static h).2 ⟨horigin, hinspectable⟩
      exact ⟨origin, (offers_static_iff h).2 ⟨hinspected, info, hinfo, hrefers⟩⟩
  -- every offer stays in a closed set, because only inspectable classes offer names
  · intro names hclosed name hname
    refine mem_of_mem_enqueued (fun seed hseed => ?_) (fun origin horigin name hoffer => ?_) hname
    · rw [hseeds] at hseed
      rcases List.mem_cons.1 hseed with rfl | hadditional
      · exact hclosed.test
      · exact hclosed.additional seed hadditional
    · obtain ⟨hinspected, info, hinfo, hrefers⟩ := (offers_static_iff h).1 hoffer
      have hinspectable := ((mem_inspected_static h).1 hinspected).2
      exact hclosed.refers origin horigin hinspectable info hinfo name hrefers

/-- A static run deploys the test class and the inspectable names that ever wait, other than marker
definitions. -/
theorem mem_discovered_static (assembler : Assembler) :
    name ∈ (assembler.assemble (complete env {}
        [.standard, .testMarkers package]).context.findings).discovered ↔
      name = env.configuration.testClass ∨
        name ∈ enqueued env {} [.standard, .testMarkers package] ∧
          env.registry.IsInspectable env.configuration.testClass name ∧
            env.isMarkerDefinition name = false := by
  have hcomplete := (isStatic_complete h.registry h.builds).1
  have hignored : name ∉ (complete env {}
      [.standard, .testMarkers package]).context.findings.ignored := by
    rw [hcomplete.keeps.ignored]
    exact List.not_mem_nil
  rw [Assembler.mem_discovered_assemble, and_iff_left hignored,
    mem_discovered_complete hcomplete.failure, mem_inspected_static h, and_assoc]

end Static

end Run

/-! ## Reordered environments -/

/-- Two configurations have the same test class and the same additional classes, in any order. -/
structure TestConfiguration.Reordered (first second : TestConfiguration) : Prop where
  testClass : second.testClass = first.testClass
  additionalClasses : first.additionalClasses.Perm second.additionalClasses

/-- Two environments differ in the order in which things are listed. -/
structure Environment.Reordered (first second : Environment) : Prop where
  registry : first.registry.Reordered second.registry
  scanner : second.scanner = second.registry.scanner
  container : second.container = first.container
  configuration : first.configuration.Reordered second.configuration

/-- Two descriptors deploy the same classes and switch the same ones on, in any order. -/
structure Descriptor.SameClasses (first second : Descriptor) : Prop where
  discovered : ∀ name, name ∈ second.discovered ↔ name ∈ first.discovered
  alternatives : ∀ name, name ∈ second.alternatives ↔ name ∈ first.alternatives
  interceptors : ∀ name, name ∈ second.interceptors ↔ name ∈ first.interceptors
  decorators : ∀ name, name ∈ second.decorators ↔ name ∈ first.decorators
  alternativeStereotypes : ∀ name,
    name ∈ second.alternativeStereotypes ↔ name ∈ first.alternativeStereotypes

namespace TypeRegistry.Reordered
variable {first second : TypeRegistry} {test name : ClassName}

theorem isInspectable (h : first.Reordered second) (hname : first.IsInspectable test name) :
    second.IsInspectable test name := by
  obtain ⟨info, hinfo, hprimitive, hplace⟩ := hname
  obtain ⟨other, hother, hreordered⟩ := h.resolve_eq_some hinfo
  refine ⟨other, hother, hreordered.kind.symm ▸ hprimitive, ?_⟩
  rw [hreordered.location, hreordered.implements]
  simpa only [h.isBeanArchive] using hplace

theorem isInspectable_iff (h : first.Reordered second) :
    second.IsInspectable test name ↔ first.IsInspectable test name :=
  ⟨h.symm.isInspectable, h.isInspectable⟩

theorem isClosed {firstTest secondTest : TestConfiguration} {package : String}
    {names : Set ClassName} (h : first.Reordered second) (htest : firstTest.Reordered secondTest)
    (hclosed : first.IsClosed package firstTest names) :
    second.IsClosed package secondTest names where
  test := by
    rw [htest.testClass]
    exact hclosed.test
  additional := fun name hname =>
    hclosed.additional name (htest.additionalClasses.mem_iff.2 hname)
  refers := fun origin horigin hinspectable info hinfo name hrefers => by
    rw [htest.testClass, h.isInspectable_iff] at hinspectable
    obtain ⟨other, hother, hreordered⟩ := h.symm.resolve_eq_some hinfo
    exact hclosed.refers origin horigin hinspectable other hother name
      (h.symm.refers hreordered hrefers)

end TypeRegistry.Reordered

namespace Environment
variable {env other : Environment} {package : String}

theorem IsStatic.reordered (h : env.IsStatic package) (hother : env.Reordered other)
    (hbuilds : other.container.BuildsAll other.registry) : other.IsStatic package where
  scanner := hother.scanner
  registry := hother.registry.isStatic h.registry
  isExtensionType := fun info => by
    rw [hother.container]
    exact h.isExtensionType info
  builds := hbuilds

theorem Reordered.isMarkerDefinition (h : env.Reordered other) (name : ClassName) :
    other.isMarkerDefinition name = env.isMarkerDefinition name := by
  refine h.registry.any_resolve (fun info same hreordered => ?_) name
  rw [ClassInfo.isMarkerDefinition, ClassInfo.isMarkerDefinition, hreordered.kind]

end Environment

namespace Run
variable {env other : Environment} {package : String} {name : ClassName}

section Reordered
variable (h : env.IsStatic package) (hother : env.Reordered other)
  (hstatic : other.IsStatic package)
include h hother hstatic

theorem mem_enqueued_reordered :
    name ∈ enqueued other {} [.standard, .testMarkers package] ↔
      name ∈ enqueued env {} [.standard, .testMarkers package] := by
  have hleast := isLeast_enqueued h
  have hleast' := isLeast_enqueued hstatic
  have hsymm : other.configuration.Reordered env.configuration :=
    ⟨hother.configuration.testClass.symm, hother.configuration.additionalClasses.symm⟩
  constructor
  · intro hname
    exact hleast'.2 (hother.registry.isClosed hother.configuration hleast.1) hname
  · intro hname
    exact hleast.2 (hother.registry.symm.isClosed hsymm hleast'.1) hname

theorem mem_inspected_reordered :
    name ∈ (complete other {} [.standard, .testMarkers package]).trail.inspected ↔
      name ∈ (complete env {} [.standard, .testMarkers package]).trail.inspected := by
  rw [mem_inspected_static h, mem_inspected_static hstatic, mem_enqueued_reordered h hother hstatic,
    hother.configuration.testClass, hother.registry.isInspectable_iff]

theorem mem_skipped_reordered :
    name ∈ (complete other {} [.standard, .testMarkers package]).trail.skipped ↔
      name ∈ (complete env {} [.standard, .testMarkers package]).trail.skipped := by
  rw [mem_skipped_static h, mem_skipped_static hstatic, mem_enqueued_reordered h hother hstatic,
    hother.configuration.testClass, hother.registry.isInspectable_iff]

theorem mem_activated_reordered (group : Activation) (name : ClassName) :
    name ∈ (complete other {}
        [.standard, .testMarkers package]).context.findings.activated group ↔
      name ∈ (complete env {}
        [.standard, .testMarkers package]).context.findings.activated group := by
  have hclass : ∀ name, (other.registry.resolve name).toList.flatMap (fun info =>
      info.switchesOn other.registry package group) = (env.registry.resolve name).toList.flatMap
        fun info => info.switchesOn env.registry package group :=
    hother.registry.flatMap_resolve fun _ _ hinfo => hother.registry.switchesOn hinfo package group
  rw [activated_complete (failure_static h), activated_complete (failure_static hstatic),
    List.mem_flatMap, List.mem_flatMap]
  simp only [hclass, mem_inspected_reordered h hother hstatic]

theorem mem_extensions_reordered (hcontainer : env.container.IgnoresOrder)
    {registration : ExtensionRegistration} :
    registration ∈ (complete other {}
        [.standard, .testMarkers package]).context.findings.extensions ↔
      registration ∈ (complete env {}
        [.standard, .testMarkers package]).context.findings.extensions := by
  have hclass : ∀ name, (other.registry.resolve name).toList.flatMap (fun info =>
      info.registrations env.container) = (env.registry.resolve name).toList.flatMap
        fun info => info.registrations env.container :=
    hother.registry.flatMap_resolve fun _ _ hinfo =>
      hinfo.registrations h.isExtensionType hcontainer
  rw [extensions_complete (failure_static h), extensions_complete (failure_static hstatic),
    List.mem_flatMap, List.mem_flatMap, hother.container]
  simp only [hclass, mem_inspected_reordered h hother hstatic]

theorem sameClasses_reordered (assembler : Assembler) :
    (assembler.assemble (complete env {}
      [.standard, .testMarkers package]).context.findings).SameClasses
        (assembler.assemble (complete other {}
          [.standard, .testMarkers package]).context.findings) := by
  have hactivated := mem_activated_reordered h hother hstatic
  refine ⟨fun name => ?_, hactivated .alternative, hactivated .interceptor, hactivated .decorator,
    fun name => ?_⟩
  · rw [mem_discovered_static h, mem_discovered_static hstatic,
      mem_enqueued_reordered h hother hstatic, hother.configuration.testClass,
      hother.registry.isInspectable_iff, hother.isMarkerDefinition]
  · refine List.mem_append.trans (Iff.trans ?_ List.mem_append.symm)
    exact or_congr (hactivated .alternativeStereotype name) Iff.rfl

end Reordered

/-- A run over a static registry ends well. The names that ever wait are the least set that holds the test
class and the additional classes and, with each inspectable name, what its class refers to. Deployed are
the test class and the inspectable names of this set other than marker definitions. A reordered environment
gives the same sets of waiting, inspected and skipped names, deploys the same classes and switches the same
ones on, and registers the same extensions if the container builds the same ones. -/
theorem closure_of_static (h : env.IsStatic package) (assembler : Assembler) :
    ∃ report,
      (complete env {} [.standard, .testMarkers package]).report assembler = .ok report ∧
      IsLeast {names | env.registry.IsClosed package env.configuration names}
        {name | name ∈ enqueued env {} [.standard, .testMarkers package]} ∧
      (∀ name, name ∈ report.descriptor.discovered ↔
        name = env.configuration.testClass ∨
          name ∈ enqueued env {} [.standard, .testMarkers package] ∧
            env.registry.IsInspectable env.configuration.testClass name ∧
              env.isMarkerDefinition name = false) ∧
      ∀ other, env.Reordered other → other.container.BuildsAll other.registry →
        ∃ report',
          (complete other {} [.standard, .testMarkers package]).report assembler = .ok report' ∧
          report.descriptor.SameClasses report'.descriptor ∧
          (∀ name, name ∈ enqueued other {} [.standard, .testMarkers package] ↔
            name ∈ enqueued env {} [.standard, .testMarkers package]) ∧
          (∀ name, name ∈ (complete other {} [.standard, .testMarkers package]).trail.inspected ↔
            name ∈ (complete env {} [.standard, .testMarkers package]).trail.inspected) ∧
          (∀ name, name ∈ (complete other {} [.standard, .testMarkers package]).trail.skipped ↔
            name ∈ (complete env {} [.standard, .testMarkers package]).trail.skipped) ∧
          (env.container.IgnoresOrder → ∀ registration,
            registration ∈ report'.descriptor.extensions ↔
              registration ∈ report.descriptor.extensions) := by
  refine ⟨_, report_of_failure (failure_static h) assembler, isLeast_enqueued h,
    fun name => mem_discovered_static h assembler, fun other hother hbuilds => ?_⟩
  have hstatic := h.reordered hother hbuilds
  refine ⟨_, report_of_failure (failure_static hstatic) assembler,
    sameClasses_reordered h hother hstatic assembler,
    fun name => mem_enqueued_reordered h hother hstatic,
    fun name => mem_inspected_reordered h hother hstatic,
    fun name => mem_skipped_reordered h hother hstatic, fun hcontainer registration => ?_⟩
  exact List.mem_append.trans (Iff.trans (or_congr
    (mem_extensions_reordered h hother hstatic hcontainer) Iff.rfl) List.mem_append.symm)

/-! ## A test with two fields -/

def injectedField (name type : String) : FieldInfo where
  name
  declared := .cls ⟨type⟩
  markers := [{ name := Vocabulary.inject }]

/-- An extension type outside of all bean archives that refers back to a class of the test. -/
def workshopExtension : ClassInfo where
  name := ⟨"org.lib.Ext"⟩
  location := some ⟨"file:///cp/lib/"⟩
  superclass := some (.cls ⟨"com.example.C"⟩)
  interfaces := [Vocabulary.extensionInterface]

/-- The test injects a class of its own and one of the library, and asks for an extension. -/
def workshop (fields : List FieldInfo) (additionalClasses : List ClassName) : Environment where
  registry := (TypeRegistry.initial.addRoot ⟨"file:///cp/app/"⟩ true).registerAll
    [{ name := ⟨"com.example.ATest"⟩, location := some ⟨"file:///cp/app/"⟩, fields },
      { name := ⟨"com.example.C"⟩, location := some ⟨"file:///cp/app/"⟩ }, workshopExtension,
      { name := ⟨"org.lib.L"⟩, location := some ⟨"file:///cp/lib/"⟩ }]
  container := (Container.withNamed {} ⟨"org.lib.Ext"⟩).interface
  configuration := { testClass := ⟨"com.example.ATest"⟩, additionalClasses }

def workshopFields : List FieldInfo :=
  [injectedField "c" "com.example.C", injectedField "l" "org.lib.L"]

def workshopNames : List ClassName := [⟨"org.lib.Ext"⟩, ⟨"org.lib.Missing"⟩]

theorem reordered_workshop {fields fields' : List FieldInfo} (hfields : fields.Perm fields')
    {names names' : List ClassName} (hnames : names.Perm names') :
    (workshop fields names).Reordered (workshop fields' names') where
  registry := .registerAll (.refl _) (.cons
    ⟨rfl, rfl, rfl, rfl, rfl, rfl, .refl _, hfields, .refl _⟩
    (.cons (.refl _) (.cons (.refl _) (.cons (.refl _) .nil))))
  scanner := rfl
  container := rfl
  configuration := ⟨rfl, hnames⟩

theorem buildsAll_workshop {fields : List FieldInfo} {names : List ClassName}
    (h : ∀ info ∈ (workshop fields names).registry.classes,
      info.implements Vocabulary.extensionInterface = true → info.name = ⟨"org.lib.Ext"⟩) :
    (workshop fields names).container.BuildsAll (workshop fields names).registry := by
  intro info hinfo _ hextension
  refine ⟨.named "org.lib.Ext", ?_⟩
  change (((Container.withNamed {} ⟨"org.lib.Ext"⟩).factories.get? info.name).getD _) = _
  rw [h info hinfo hextension]
  rfl

theorem isStatic_workshop :
    (workshop workshopFields workshopNames).IsStatic Vocabulary.frameworkPackage where
  scanner := rfl
  registry := by decide +kernel
  isExtensionType := fun _ => rfl
  builds := buildsAll_workshop (by decide +kernel)

/-- The fields and the additional classes of the test may change places. -/
theorem closure_workshop :
    (workshop workshopFields workshopNames).IsStatic Vocabulary.frameworkPackage ∧
    ∃ report report',
      (complete (workshop workshopFields workshopNames) {}
        [.standard, .testMarkers Vocabulary.frameworkPackage]).report {} = .ok report ∧
      (complete (workshop workshopFields.reverse workshopNames.reverse) {}
        [.standard, .testMarkers Vocabulary.frameworkPackage]).report {} = .ok report' ∧
      report.descriptor.SameClasses report'.descriptor ∧
      ∀ registration, registration ∈ report'.descriptor.extensions ↔
        registration ∈ report.descriptor.extensions := by
  obtain ⟨report, hreport, -, -, hreordered⟩ := closure_of_static isStatic_workshop {}
  obtain ⟨report', hreport', hclasses, -, -, -, hextensions⟩ :=
    hreordered (workshop workshopFields.reverse workshopNames.reverse)
      (reordered_workshop (List.reverse_perm _).symm (List.reverse_perm _).symm)
      (buildsAll_workshop (by decide +kernel))
  exact ⟨isStatic_workshop, report, report', hreport, hreport', hclasses,
    hextensions (Container.ignoresOrder_interface _)⟩

end Run
end BeanDiscovery
