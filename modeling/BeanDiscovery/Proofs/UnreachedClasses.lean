import BeanDiscovery.Proofs.AgreeingEnvironments
import BeanDiscovery.Proofs.Expansions

/-!
# Classes that are not reached

A class that is registered in addition can be noticed where its name is resolved, where its root is asked for,
and where a scan finds it. A run with the default plugins that does not come upon its name finds nothing that
it would not find without the class, even if the name is left out, or the class brings a new root. The main
statement is that such a run goes the same way without the class.
-/
namespace BeanDiscovery

/-! ## A registered class more -/

namespace TypeRegistry
variable {registry : TypeRegistry} {added : ClassInfo}

theorem resolve_register_of_ne {name : ClassName} (h : name ≠ added.name) :
    (registry.register added).resolve name = registry.resolve name := by
  rw [resolve_register, if_neg (Ne.symm h)]

theorem resolve_of_notMem {name : ClassName} (h : name ∉ registry.names) :
    registry.resolve name = none := by
  rw [← Option.not_isSome_iff_eq_none, resolve_isSome]
  exact h

theorem classes_register_of_new (hnew : added.name ∉ registry.names) :
    (registry.register added).classes = added :: registry.classes := by
  refine congrArg (List.cons added) (List.filter_eq_self.2 fun other hother => ?_)
  refine decide_eq_true fun hname => hnew ?_
  rw [← hname]
  exact List.mem_map_of_mem hother

theorem sortedNames_register (hnew : added.name ∉ registry.names) {p : ClassInfo → Bool}
    (hp : p added = false) : (registry.register added).sortedNames p = registry.sortedNames p := by
  rw [sortedNames, classes_register_of_new hnew, List.filter_cons_of_neg (by simp [hp])]
  rfl

/-- A class that is not found below some roots can be done without. -/
theorem classNames_register (hnew : added.name ∉ registry.names) {roots : List Url}
    (h : added.name ∉ (registry.register added).classNames roots) :
    registry.classNames roots = (registry.register added).classNames roots := by
  refine List.flatMap_congr fun root hroot => (sortedNames_register hnew ?_).symm
  exact decide_eq_false fun hlocation => h (mem_classNames List.mem_cons_self hlocation hroot)

theorem packageClassNames_register (hnew : added.name ∉ registry.names) {package : String}
    {root : Url} (h : added.name ∉ (registry.register added).packageClassNames package root) :
    registry.packageClassNames package root =
      (registry.register added).packageClassNames package root := by
  refine (sortedNames_register hnew ?_).symm
  rw [← Bool.not_eq_true, Bool.and_eq_true, decide_eq_true_eq, decide_eq_true_eq]
  exact fun hfound => h (mem_packageClassNames List.mem_cons_self hfound.1 hfound.2)

end TypeRegistry

/-- Any use of a marker on a class that is found by its name stands on the class. -/
theorem ClassInfo.mem_markers_of_marker? {info : ClassInfo} {name : ClassName} {marker : MarkerUse}
    (h : info.marker? name = some marker) : marker ∈ info.markers ∧ marker.name = name :=
  ⟨List.mem_of_find?_eq_some h, by simpa using List.find?_some h⟩

/-- No class of a registry refers to a name by a marker for class paths or packages. -/
def TypeRegistry.ScansApart (registry : TypeRegistry) (package : String) (name : ClassName) : Prop :=
  ∀ info ∈ registry.classes, ∀ marker ∈ info.markers,
    marker.name = Vocabulary.relocated Vocabulary.additionalClasspaths package ∨
      marker.name = Vocabulary.relocated Vocabulary.additionalPackages package →
    name ∉ marker.value

/-! ## Steps that do not come upon the class -/

namespace Environment
variable {registry : TypeRegistry} {container : ContainerInterface}
  {configuration : TestConfiguration} {memory : ScanCache} {added : ClassInfo}
  {bases : List ClassName}

theorem agreeOnArchives_register (hnew : added.name ∉ registry.names) (hbases : added.name ∉ bases)
    (hnames : added.name ∉ memory.archiveNames (registry.register added) bases) :
    (inMemory (registry.register added) container configuration).AgreeOnArchives
      (inMemory registry container configuration) memory bases where
  roots := by
    have hlocations : bases.filterMap registry.locationOf =
        bases.filterMap (registry.register added).locationOf := by
      refine List.filterMap_congr fun base hbase => ?_
      have hne : base ≠ added.name := fun hname => hbases (hname ▸ hbase)
      rw [TypeRegistry.locationOf, TypeRegistry.locationOf, TypeRegistry.resolve_register_of_ne hne]
    exact congrArg (fun locations => (OrderedSet.ofList locations).toList) hlocations
  names := fun hfound => by
    have hfound : (registry.register added).classNames (Context.rootsOf (registry.register added) bases) =
      memory.archiveNames (registry.register added) bases := hfound
    rw [← hfound] at hnames
    exact (TypeRegistry.classNames_register hnew hnames).trans hfound

theorem agreeOnPackages_register (hnew : added.name ∉ registry.names) (hbases : added.name ∉ bases)
    (hnames : added.name ∉ memory.packageNames (registry.register added) bases) :
    (inMemory (registry.register added) container configuration).AgreeOnPackages
      (inMemory registry container configuration) memory bases where
  root := fun base hbase => by
    have hne : base ≠ added.name := fun hname => hbases (hname ▸ hbase)
    exact congrArg (·.bind (·.location)) (TypeRegistry.resolve_register_of_ne hne).symm
  names := fun base hbase root hroot hfound => by
    have hroot : (registry.register added).locationOf base = some root := hroot
    have hapart : added.name ∉ memory.namesInPackage base.package root := fun hmem =>
      hnames (List.mem_flatMap.2 ⟨base, hbase, by rw [hroot]; exact hmem⟩)
    rw [← hfound] at hapart
    exact (TypeRegistry.packageClassNames_register hnew hapart).trans hfound

/-- A reference that does not stand for the class stands for the same names without it. -/
theorem identities_register {ref : ClassRef}
    (h : added.name ∉ ref.identities (registry.register added)) :
    ref.identities registry = ref.identities (registry.register added) := by
  cases ref with
  | ofType type => rfl
  | ofClass name => rfl
  | ofName name =>
    have hne : name ≠ added.name := by
      rintro rfl
      refine h ?_
      rw [ClassRef.identities, TypeRegistry.resolve_register, if_pos rfl]
      exact List.mem_singleton_self _
    rw [ClassRef.identities, ClassRef.identities, TypeRegistry.resolve_register_of_ne hne]

/-- Other names stand behind a reference with and without the class. -/
theorem mem_identities_register (hnew : added.name ∉ registry.names) {ref : ClassRef}
    {name : ClassName} (h : name ≠ added.name) :
    name ∈ ref.identities registry ↔ name ∈ ref.identities (registry.register added) := by
  cases ref with
  | ofType type => exact Iff.rfl
  | ofClass other => exact Iff.rfl
  | ofName other =>
    by_cases hother : other = added.name
    · subst hother
      rw [ClassRef.identities, ClassRef.identities, TypeRegistry.resolve_register, if_pos rfl,
        TypeRegistry.resolve_of_notMem hnew]
      exact (iff_of_false List.not_mem_nil fun hmem => h (List.mem_singleton.1 hmem))
    · rw [ClassRef.identities, ClassRef.identities, TypeRegistry.resolve_register_of_ne hother]

/-- The default plugins take steps on which the registries agree, if they neither offer the class nor find
it in a scan for an inspected class. -/
theorem agrees_of_permits {package : String} {point : HookPoint} {step : HookStep}
    (hnew : added.name ∉ registry.names) (hmarkers : registry.ScansApart package added.name)
    (hsentinel : added.name ∉ Plugin.librarySentinels) (hpermits : point.Permits package step)
    (hoffers : added.name ∉ step.offers (registry.register added) memory)
    (hscans : ∀ info, point = .process info → info ∈ registry.classes ∧
      ¬ info.Expands (registry.register added) memory package added.name ∧
        ¬ info.NeedsProxies (registry.register added) memory added.name) :
    step.Agrees (inMemory (registry.register added) container configuration)
      (inMemory registry container configuration) (· = added.name) memory := by
  cases hpermits with
  | offer point ref => exact identities_register hoffers
  | ignore point ref => exact fun name hname => mem_identities_register hnew hname
  | activate point group name => rfl
  | register point registration => trivial
  | @archives info marker hmarker =>
    obtain ⟨hinfo, hexpands, -⟩ := hscans info rfl
    obtain ⟨hmem, hname⟩ := ClassInfo.mem_markers_of_marker? hmarker
    exact agreeOnArchives_register hnew (hmarkers info hinfo marker hmem (Or.inl hname))
      fun hfound => hexpands (Plugin.expands_iff.2 (Or.inl ⟨marker, hmarker, hfound⟩))
  | @packages info marker hmarker =>
    obtain ⟨hinfo, hexpands, -⟩ := hscans info rfl
    obtain ⟨hmem, hname⟩ := ClassInfo.mem_markers_of_marker? hmarker
    exact agreeOnPackages_register hnew (hmarkers info hinfo marker hmem (Or.inr hname))
      fun hfound => hexpands (Plugin.expands_iff.2 (Or.inr ⟨marker, hmarker, hfound⟩))
  | @proxies info sentinel hinfo hmem =>
    have hne : added.name ∉ [sentinel] := fun hname => hsentinel
      (List.mem_singleton.1 hname ▸ List.mem_append_right _ hmem)
    exact agreeOnArchives_register hnew hne fun hfound =>
      (hscans info rfl).2.2 (Plugin.needsProxies_iff.2 ⟨hinfo, sentinel, hmem, hfound⟩)

end Environment

/-! ## What a run comes upon -/

namespace Run
variable {env : Environment} {scans : ScanCache} {plugins : List Plugin} {visit : Visit}
  {info : ClassInfo} {name : ClassName} {package : String}

/-- What a step of a visit offers is a node, whatever becomes of the run. -/
theorem mem_nodes_of_step (hvisit : visit ∈ visits env scans plugins) {step : HookStep}
    (hstep : step ∈ visit.steps env)
    (hname : name ∈ step.offers env.registry (complete env scans plugins).context.scans) :
    name ∈ (complete env scans plugins).context.findings.graph.nodes := by
  obtain ⟨info, hinfo, hsteps⟩ := List.mem_flatMap.1 hstep
  have ht := Option.mem_toList.1 hinfo
  obtain ⟨first, rest, hsplit⟩ := List.append_of_mem hvisit
  have hvisits := visits_complete env scans plugins
  rw [hsplit] at hvisits
  have hgrows := hvisits.grows_after.1.scans
  rw [context_visit_of_target ht] at hgrows
  refine mem_nodes_complete.2 (Or.inr ⟨visit.candidate, visit, hvisit, rfl, ?_⟩)
  simp only [offersAt, ht]
  rw [Context.offeredByAll_eq hgrows]
  exact List.mem_flatMap.2 ⟨step, hsteps, hname⟩

theorem mem_nodes_of_bootstrap {step : HookStep}
    (hstep : step ∈ (start env scans plugins).steps env (.bootstrap env.configuration.testClass))
    (hname : name ∈ step.offers env.registry (complete env scans plugins).context.scans) :
    name ∈ (complete env scans plugins).context.findings.graph.nodes := by
  have hgrows := (grows_bootstrap env scans plugins).scans
  have hcall := context_call (start env scans plugins) env (.bootstrap env.configuration.testClass)
  rw [callAll, List.foldl_cons, List.foldl_nil, hcall] at hgrows
  refine mem_nodes_complete.2 (Or.inl (List.mem_cons_of_mem _ (List.mem_append_left _ ?_)))
  rw [Context.offeredByAll_eq hgrows]
  exact List.mem_flatMap.2 ⟨step, hstep, hname⟩

theorem testClass_mem_nodes (env : Environment) (scans : ScanCache) (plugins : List Plugin) :
    env.configuration.testClass ∈ (complete env scans plugins).context.findings.graph.nodes :=
  mem_nodes_complete.2 (Or.inl List.mem_cons_self)

theorem candidate_mem_nodes (hf : (complete env scans plugins).failure = none)
    (hvisit : visit ∈ visits env scans plugins) :
    visit.candidate ∈ (complete env scans plugins).context.findings.graph.nodes := by
  rw [OrderedSet.mem_def, nodes_complete, ← candidates_complete hf]
  exact List.mem_map_of_mem hvisit

/-- In a run that ends well with the default plugins an inspected class makes nodes of the names it asks
for. -/
theorem mem_nodes_of_asks
    (hf : (complete env scans (Plugin.defaultSet package)).failure = none)
    (hvisit : visit ∈ visits env scans (Plugin.defaultSet package))
    (ht : visit.before.context.target? env visit.candidate = some info)
    (hasks : info.Refers env.registry package name ∨
      info.Expands env.registry (complete env scans (Plugin.defaultSet package)).context.scans
        package name ∨
      info.NeedsProxies env.registry
        (complete env scans (Plugin.defaultSet package)).context.scans name) :
    name ∈ (complete env scans (Plugin.defaultSet package)).context.findings.graph.nodes := by
  refine mem_nodes_complete.2 (Or.inr ⟨visit.candidate, visit, hvisit, rfl, ?_⟩)
  rw [offersAt_eq (Plugin.truthful_defaultSet _ _) hf hvisit ht]
  exact Plugin.mem_offers_defaultSet.2 hasks

end Run

/-! ## Runs without the class -/

namespace Run
open Environment
variable {registry : TypeRegistry} {container : ContainerInterface}
  {configuration : TestConfiguration} {added : ClassInfo} {package : String}

/-- A run with the default plugins that ends well and does not come upon a class goes the same way without
it, but for whether the class is left out. -/
theorem alike_of_unreached (hnew : added.name ∉ registry.names)
    (hmarkers : registry.ScansApart package added.name)
    (hsentinel : added.name ∉ Plugin.librarySentinels)
    (hf : (complete (inMemory (registry.register added) container configuration) {}
      (Plugin.defaultSet package)).failure = none)
    (hunreached : added.name ∉ (complete (inMemory (registry.register added) container configuration)
      {} (Plugin.defaultSet package)).context.findings.graph.nodes) :
    (complete (inMemory (registry.register added) container configuration) {}
      (Plugin.defaultSet package)).Alike (· = added.name)
        (complete (inMemory registry container configuration) {} (Plugin.defaultSet package)) := by
  -- Whatever is a node has another name, so it is resolved alike.
  have hresolve : ∀ name ∈ (complete (inMemory (registry.register added) container configuration) {}
      (Plugin.defaultSet package)).context.findings.graph.nodes,
      registry.resolve name = (registry.register added).resolve name := fun name hname =>
    (TypeRegistry.resolve_register_of_ne fun heq => hunreached (heq ▸ hname)).symm
  refine alike_complete ⟨rfl, rfl, fun sentinel hmem => ?_⟩ rfl (fun root => ?_)
    (hresolve _ (testClass_mem_nodes _ _ _)) (fun step hstep => ?_) fun visit hvisit => ?_
  · have hne : sentinel ≠ added.name := fun heq => hsentinel (heq ▸ hmem)
    exact congrArg Option.isSome (TypeRegistry.resolve_register_of_ne hne).symm
  · refine ScanCache.mem_beanArchiveRoots_fresh.trans
      (Iff.trans ?_ ScanCache.mem_beanArchiveRoots_fresh.symm)
    rw [TypeRegistry.isBeanArchive_register]
  · exact agrees_of_permits hnew hmarkers hsentinel (permits_of_mem_bootstrap rfl hstep)
      (fun hname => hunreached (mem_nodes_of_bootstrap hstep hname)) fun _ hprocess => nomatch hprocess
  · have hcandidate := candidate_mem_nodes hf hvisit
    refine ⟨fun heq => hunreached (heq ▸ hcandidate), hresolve _ hcandidate, ?_, ?_⟩
    · intro info ht point hpoint name hlook
      cases hlook with
      | test test =>
        simp [Plugin.mem_hookPoints] at hpoint
      | alternative hmarker hname =>
        obtain rfl := Plugin.process_mem_hookPoints.1 hpoint
        exact hresolve name (mem_nodes_of_asks hf hvisit ht (Or.inl (.alternative hmarker hname)))
    · intro step hstep
      obtain ⟨info, ht, point, hpoint, hpermits⟩ := permits_of_mem_steps rfl hvisit hstep
      have hasks := fun hname => hunreached (mem_nodes_of_asks hf hvisit ht hname)
      refine agrees_of_permits hnew hmarkers hsentinel hpermits
        (fun hname => hunreached (mem_nodes_of_step hvisit hstep hname)) ?_
      rintro other rfl
      obtain rfl := Plugin.process_mem_hookPoints.1 hpoint
      refine ⟨TypeRegistry.mem_of_resolve
        ((hresolve _ hcandidate).trans (Context.resolve_of_target ht)), ?_, ?_⟩
      · exact fun hexpands => hasks (Or.inr (Or.inl hexpands))
      · exact fun hneeds => hasks (Or.inr (Or.inr hneeds))

/-- A class that no marker for class paths or packages refers to and whose name is new and shows no library is
registered in addition. If discovery with the default plugins then ends well and the name is no node of the
graph, discovery without the class yields the same deployment, graph and counters. -/
theorem report_of_unreached (hnew : added.name ∉ registry.names)
    (hsentinel : added.name ∉ Plugin.librarySentinels)
    (hmarkers : registry.ScansApart package added.name) {assembler : Assembler} {report : Report}
    (h : (complete (inMemory (registry.register added) container configuration) {}
      (Plugin.defaultSet package)).report assembler = .ok report)
    (hunreached : added.name ∉ report.graph.nodes) :
    (complete (inMemory registry container configuration) {} (Plugin.defaultSet package)).report
      assembler = .ok report := by
  have hf := failure_of_report h
  obtain rfl := eq_of_report h
  have halike := alike_of_unreached hnew hmarkers hsentinel hf hunreached
  rw [← h]
  refine halike.report (fun name hname => ?_) assembler
  rintro rfl
  exact hunreached ((discovered_sublist_nodes hf).subset hname)

/-! ### A stray class -/

/-- The test leaves a class out by name, injects one that implements it, and asks for the archive of a
library. -/
def strayTest : ClassInfo where
  name := ⟨"com.example.ATest"⟩
  location := some ⟨"file:///cp/app/"⟩
  markers := [{ name := Vocabulary.ignoredClasses, late := ["org.lib.Stray"] },
    { name := Vocabulary.additionalClasspaths, value := [⟨"org.lib.L"⟩] }]
  fields := [{ name := "c", declared := .cls ⟨"com.example.C"⟩
               markers := [{ name := Vocabulary.inject }] }]

def strayRegistry : TypeRegistry :=
  (TypeRegistry.initial.addRoot ⟨"file:///cp/app/"⟩ true).registerAll
    [strayTest, libraryClass,
      { name := ⟨"com.example.C"⟩, location := some ⟨"file:///cp/app/"⟩
        interfaces := [⟨"org.lib.Stray"⟩] }]

/-- A class below a root of its own. -/
def strayClass : ClassInfo where
  name := ⟨"org.lib.Stray"⟩
  location := some ⟨"file:///cp/stray/"⟩

def strayEnvironment (registry : TypeRegistry) : Environment :=
  inMemory registry (Container.interface {}) { testClass := ⟨"com.example.ATest"⟩ }

theorem complete_stray :
    complete (strayEnvironment (strayRegistry.register strayClass)) {}
        (Plugin.defaultSet Vocabulary.frameworkPackage) =
      [⟨"com.example.ATest"⟩, ⟨"org.lib.L"⟩, ⟨"com.example.C"⟩].foldl
        (fun run name => run.visit (strayEnvironment (strayRegistry.register strayClass)) name)
        (seeded (strayEnvironment (strayRegistry.register strayClass)) {}
          (Plugin.defaultSet Vocabulary.frameworkPackage)) :=
  drain_of_isRoute (by decide +kernel) _

def strayReport : Report where
  descriptor :=
    { discovered := .ofList [⟨"com.example.ATest"⟩, ⟨"org.lib.L"⟩, ⟨"com.example.C"⟩]
      extensions := [⟨.testScope { testClass := ⟨"com.example.ATest"⟩ },
        "io.github.beanscope.testscope.TestScopeDiscovery"⟩] }
  graph :=
    { nodes := .ofList [⟨"com.example.ATest"⟩, ⟨"org.lib.L"⟩, ⟨"com.example.C"⟩]
      edges := .ofList [(⟨"com.example.ATest"⟩, ⟨"org.lib.L"⟩),
        (⟨"com.example.ATest"⟩, ⟨"com.example.C"⟩)] }
  stats := ⟨3, 3, 0⟩

theorem report_stray :
    (complete (strayEnvironment (strayRegistry.register strayClass)) {}
      (Plugin.defaultSet Vocabulary.frameworkPackage)).report {} = .ok strayReport := by
  rw [complete_stray]
  decide +kernel

/-- The stray class is left out by the test, is the interface of a class and brings a root. -/
theorem unreached_stray :
    strayClass.name ∉ strayReport.graph.nodes ∧
    strayClass.name ∈ (complete (strayEnvironment (strayRegistry.register strayClass)) {}
      (Plugin.defaultSet Vocabulary.frameworkPackage)).context.findings.ignored ∧
    (complete (strayEnvironment strayRegistry) {}
      (Plugin.defaultSet Vocabulary.frameworkPackage)).report {} = .ok strayReport := by
  have hunreached : strayClass.name ∉ strayReport.graph.nodes := by decide +kernel
  have hmarkers : strayRegistry.ScansApart Vocabulary.frameworkPackage strayClass.name := by
    intro info hinfo marker hmarker _ hname
    revert info marker
    decide +kernel
  refine ⟨hunreached, ?_, report_of_unreached (by decide +kernel) (by decide +kernel) hmarkers
    report_stray hunreached⟩
  rw [complete_stray]
  decide +kernel

end Run
end BeanDiscovery
