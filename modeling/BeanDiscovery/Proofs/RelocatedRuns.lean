import BeanDiscovery.Proofs.RelocatedMarkers
import BeanDiscovery.Proofs.TraversalCompleteness

/-!
# Runs of a framework that has moved

A run with the default plugins for another package of the framework, over classes whose framework markers have
moved there, is compared with the default run over the classes as they were. The main statement says that the
two runs find the same, and that neither of them lets a marker of the framework wait because some class
uses it.
-/
namespace BeanDiscovery
open Vocabulary

/-! ## Runs -/

/-- A plugin and one that follows it do the same when they are called. -/
theorem Plugin.isCoupling_follows (env : Environment) (package : String) :
    IsCoupling (.relocation package) env
      (fun point => ∀ marker ∈ point.markerUses, marker.IsRelocatable package)
      (Follows env package) := by
  intro plugin follower h point hpoint position progress other hcourse
  have heffect : (follower.respond (env.changed (.relocation package))
      ((ClassChange.relocation package).point point)).SameEffect env (plugin.respond env point) :=
    fun call _ => congrArg (·.perform env call) (h.respond point hpoint)
  obtain ⟨hprobes, hend⟩ := call_of_sameEffect h.probes heffect position hcourse
  refine ⟨⟨hprobes, fun next hnext => ?_⟩, hend⟩
  rw [respond_call, respond_call]
  exact h.respond next hnext

namespace Run
variable {env : Environment} {package : String} {run other : Run}

/-- The second run goes, with plugins that follow those of the first one, where the first one went. -/
structure Retraces (env : Environment) (package : String) (run other : Run) : Prop where
  plugins : List.Forall₂ (Plugin.Follows env package) run.plugins other.plugins
  progress : run.progress.SameCourse other.progress
  trail : other.trail = run.trail

/-- The whole run with the default plugins for the new package goes where the default run goes. -/
theorem retraces_complete (hcontainer : env.container.IsIndifferent package)
    (hregistry : env.registry.IsRelocatable package) (scans : ScanCache) :
    Retraces env package (complete env scans (Plugin.defaultSet frameworkPackage))
      (complete (env.relocated package) scans (Plugin.defaultSet package)) := by
  obtain ⟨hplugins, hprogress, htrail⟩ := parallel_complete hcontainer.isExtensionType
    (Plugin.isCoupling_follows env package) (fun _ => nofun)
    (fun info hinfo point hpoint marker hmarker =>
      hregistry info hinfo marker (ClassInfo.mem_markerUses_of_hookPoints hpoint hmarker))
    (Plugin.follows_defaultSet hcontainer) scans
  exact ⟨hplugins, hprogress, htrail⟩

end Run

/-! ## Names that wait because of a marker -/

namespace MarkerUse
variable {package : String} {marker : MarkerUse} {name : ClassName}

/-- A marker from outside the package of the framework has no name that a framework marker has, neither in the
old package nor in the new one. -/
theorem IsRelocatable.ne_of_foreign (h : marker.IsRelocatable package)
    (hforeign : marker.name.package ≠ frameworkPackage) (hname : name ∈ frameworkMarkers) :
    marker.name ≠ name ∧ marker.name ≠ Vocabulary.relocated name package := by
  constructor
  · rintro rfl
    exact hforeign (package_of_mem_frameworkMarkers hname)
  · intro heq
    exact h.outside (heq ▸ package_relocated hname package)

/-- A moved marker from outside the new package has none of these names either: it did not have to move. -/
theorem IsRelocatable.ne_of_foreign_relocated (h : marker.IsRelocatable package)
    (hforeign : (marker.relocated package).name.package ≠ package)
    (hname : name ∈ frameworkMarkers) :
    (marker.relocated package).name ≠ name ∧
      (marker.relocated package).name ≠ Vocabulary.relocated name package := by
  rw [relocated] at hforeign ⊢
  split
  next hmarker =>
    rw [if_pos hmarker] at hforeign
    exact absurd (package_relocated hmarker package) hforeign
  next hmarker => exact h.ne_of_foreign (fun hframework => hmarker (h.framework hframework)) hname

end MarkerUse

namespace ClassInfo
variable {registry : TypeRegistry} {memory : ScanCache} {package : String} {info : ClassInfo}
  {name : ClassName}

/-- A class without the uses of markers from outside a package. -/
def withoutForeignMarkers (package : String) (info : ClassInfo) : ClassInfo :=
  { info with markers := info.markers.filter fun marker => marker.name.package = package }

theorem marker?_withoutForeignMarkers (h : name ∈ frameworkMarkers) :
    (info.withoutForeignMarkers package).marker? (Vocabulary.relocated name package) =
      info.marker? (Vocabulary.relocated name package) := by
  refine List.find?_filter.trans (List.find?_congr fun marker _ => ?_)
  by_cases hmarker : marker.name = Vocabulary.relocated name package
  · simp [hmarker, package_relocated h]
  · simp [hmarker]

/-- A class refers to the markers from outside that it uses, and to what it refers to without them. -/
theorem Refers.foreign_or (h : info.Refers registry package name) :
    (∃ marker ∈ info.markers, marker.name.package ≠ package ∧ marker.name = name) ∨
      (info.withoutForeignMarkers package).Refers registry package name := by
  cases h with
  | marker hmarker hforeign => exact Or.inl ⟨_, hmarker, hforeign, rfl⟩
  | field hfield hfollowed hname => exact Or.inr (.field hfield hfollowed hname)
  | parameter hmethod hinjected htype hname =>
    exact Or.inr (.parameter hmethod hinjected htype hname)
  | result hmethod hinjected htype hname => exact Or.inr (.result hmethod hinjected htype hname)
  | superclass htype hraw hname => exact Or.inr (.superclass htype hraw hname)
  | additional hmarker hname =>
    exact Or.inr (.additional ((marker?_withoutForeignMarkers (by decide)).trans hmarker) hname)
  | late hmarker htext hother =>
    exact Or.inr (.late ((marker?_withoutForeignMarkers (by decide)).trans hmarker) htext hother)
  | alternative hmarker hname =>
    exact Or.inr (.alternative ((marker?_withoutForeignMarkers (by decide)).trans hmarker) hname)

theorem Expands.withoutForeignMarkers (h : info.Expands registry memory package name) :
    (info.withoutForeignMarkers package).Expands registry memory package name := by
  cases h with
  | archives hmarker hroots hne hnames hname =>
    exact .archives ((marker?_withoutForeignMarkers (by decide)).trans hmarker) hroots hne hnames hname
  | packages hmarker hbase hroot hnames hname =>
    exact .packages ((marker?_withoutForeignMarkers (by decide)).trans hmarker) hbase hroot hnames hname

theorem NeedsProxies.withoutForeignMarkers (h : info.NeedsProxies registry memory name) :
    (info.withoutForeignMarkers package).NeedsProxies registry memory name := by
  cases h with
  | archive hinfo hsentinel hroot hnames hname => exact .archive hinfo hsentinel hroot hnames hname

end ClassInfo

def Environment.AsksBesidesMarkers (env : Environment) (memory : ScanCache) (package : String)
    (origin name : ClassName) : Prop :=
  ∃ info, env.registry.resolve origin = some info ∧
    ((info.withoutForeignMarkers package).Refers env.registry package name ∨
      (info.withoutForeignMarkers package).Expands env.registry memory package name ∨
      (info.withoutForeignMarkers package).NeedsProxies env.registry memory name)

/-- What a class asks for is a marker from outside that it uses, or it asks for it besides its markers. -/
theorem Environment.AsksFor.foreign_or {env : Environment} {memory : ScanCache} {package : String}
    {origin name : ClassName} (h : env.AsksFor memory package origin name) :
    (∃ info ∈ env.registry.classes, ∃ marker ∈ info.markers,
        marker.name.package ≠ package ∧ marker.name = name) ∨
      env.AsksBesidesMarkers memory package origin name := by
  obtain ⟨info, hinfo, hrefers | hexpands | hproxies⟩ := h
  · refine hrefers.foreign_or.imp (fun hmarker => ?_) fun hrefers => ⟨info, hinfo, Or.inl hrefers⟩
    exact ⟨info, TypeRegistry.mem_of_resolve hinfo, hmarker⟩
  · exact Or.inr ⟨info, hinfo, Or.inr (Or.inl hexpands.withoutForeignMarkers)⟩
  · exact Or.inr ⟨info, hinfo, Or.inr (Or.inr hproxies.withoutForeignMarkers)⟩

namespace Run
variable {env : Environment} {package : String}

/-- A name stands in a run for another reason than that some class uses the marker of this name: it is the
test class, an additional class, or asked for besides markers by an inspected class. -/
def HasOtherSource (env : Environment) (package : String) (run : Run) (name : ClassName) : Prop :=
  name = env.configuration.testClass ∨ name ∈ env.configuration.additionalClasses ∨
    ∃ origin ∈ run.trail.inspected, env.AsksBesidesMarkers run.context.scans package origin name

theorem hasOtherSource_of_mem_nodes {scans : ScanCache} {name : ClassName}
    (h : ∀ info ∈ env.registry.classes, ∀ marker ∈ info.markers, marker.name.package ≠ package →
      marker.name ≠ name)
    (hnode : name ∈
      (complete env scans (Plugin.defaultSet package)).context.findings.graph.nodes) :
    (complete env scans (Plugin.defaultSet package)).HasOtherSource env package name := by
  refine (source_of_mem_nodes hnode).imp_right (Or.imp_right ?_)
  rintro ⟨origin, horigin, hasks⟩
  refine ⟨origin, horigin, hasks.foreign_or.resolve_left ?_⟩
  rintro ⟨info, hinfo, marker, hmarker, hforeign, hname⟩
  exact h info hinfo marker hmarker hforeign hname

end Run

/-! ## Reports -/

def Report.withLastStereotype (report : Report) (name : ClassName) : Report :=
  { report with
    descriptor :=
      { report.descriptor with
        alternativeStereotypes := report.descriptor.alternativeStereotypes.dropLast ++ [name] } }

namespace Run
variable {env : Environment} {package : String} {run other : Run}

theorem Retraces.report (h : Retraces env package run other) :
    other.report (.forPackage package) = (run.report (.forPackage frameworkPackage)).map
      (·.withLastStereotype (relocated producesAlternative package)) := by
  have hcontext : other.context = run.context := h.progress.context
  have hfailure : other.failure = run.failure := h.progress.failure
  rw [Run.report, Run.report, hfailure, hcontext, h.trail]
  cases run.failure with
  | some error => rfl
  | none =>
    simp only [Except.map, Report.withLastStereotype, Assembler.assemble, Assembler.forPackage,
      List.dropLast_concat]

/-- The framework may move to any package. The default run for the new package over the moved markers fails as
the default run did, or reports what it reported, with the last alternative stereotype from the new package.
In both runs a framework marker, by its old name or by its new one, is a node for another reason only than
that some class uses it. -/
theorem report_of_moved_framework {registry : TypeRegistry} {container : ContainerInterface}
    (hregistry : registry.IsRelocatable package) (hcontainer : container.IsIndifferent package)
    (configuration : TestConfiguration) (scans : ScanCache) :
    let env := Environment.inMemory registry container configuration
    let env' := Environment.inMemory (registry.relocated package) container configuration
    let run := complete env scans (Plugin.defaultSet frameworkPackage)
    let moved := complete env' scans (Plugin.defaultSet package)
    moved.report (.forPackage package) = (run.report (.forPackage frameworkPackage)).map
        (·.withLastStereotype (relocated producesAlternative package)) ∧
      (∀ report, run.report (.forPackage frameworkPackage) = .ok report →
        report.descriptor.alternativeStereotypes.getLast? = some producesAlternative) ∧
      ∀ marker ∈ frameworkMarkers, ∀ name ∈ [marker, relocated marker package],
        (name ∈ run.context.findings.graph.nodes → run.HasOtherSource env frameworkPackage name) ∧
          (name ∈ moved.context.findings.graph.nodes → moved.HasOtherSource env' package name) := by
  intro env env' run moved
  have henv : env' = env.relocated package :=
    Environment.inMemory_relocated registry container configuration package
  refine ⟨?_, fun report hreport => ?_, fun marker hmarker name hname => ⟨fun hnode => ?_, fun hnode => ?_⟩⟩
  · have hretraces : Retraces env package run moved := by
      rw [show moved = complete (env.relocated package) scans _ from congrArg (complete · scans _) henv]
      exact retraces_complete hcontainer hregistry scans
    exact hretraces.report
  · obtain rfl := eq_of_report hreport
    simp [Assembler.assemble, Assembler.forPackage]
  · refine hasOtherSource_of_mem_nodes (fun info hinfo use huse hforeign => ?_) hnode
    have huse : use.IsRelocatable package :=
      hregistry info hinfo use (List.mem_append_left _ (List.mem_append_left _ huse))
    rcases List.mem_pair.1 hname with rfl | rfl
    · exact (huse.ne_of_foreign hforeign hmarker).1
    · exact (huse.ne_of_foreign hforeign hmarker).2
  · refine hasOtherSource_of_mem_nodes (fun info hinfo use huse hforeign => ?_) hnode
    obtain ⟨original, horiginal, rfl⟩ := List.mem_map.1 hinfo
    obtain ⟨unmoved, hunmoved, rfl⟩ := List.mem_map.1 huse
    have huse : unmoved.IsRelocatable package :=
      hregistry original horiginal unmoved (List.mem_append_left _ (List.mem_append_left _ hunmoved))
    rcases List.mem_pair.1 hname with rfl | rfl
    · exact (huse.ne_of_foreign_relocated hforeign hmarker).1
    · exact (huse.ne_of_foreign_relocated hforeign hmarker).2

/-! ## A test that moves along -/

/-- The test asks for a class, leaves the class of a field out, and has a marker of its own. -/
def movingTest : ClassInfo where
  name := ⟨"com.example.ATest"⟩
  location := some ⟨"file:///cp/app/"⟩
  markers := [{ name := additionalClasses, value := [⟨"com.example.B"⟩] },
    { name := ⟨"com.example.Slow"⟩ }]
  fields := [{ name := "c", declared := .cls ⟨"com.example.C"⟩
               markers := [{ name := inject }, { name := ignoredClasses }] }]

def movingRegistry : TypeRegistry :=
  (TypeRegistry.initial.addRoot ⟨"file:///cp/app/"⟩ true).registerAll
    [movingTest, { name := ⟨"com.example.B"⟩, location := some ⟨"file:///cp/app/"⟩ },
      { name := ⟨"com.example.C"⟩, location := some ⟨"file:///cp/app/"⟩ }]

def moving : Environment :=
  .inMemory movingRegistry (Container.interface {}) { testClass := ⟨"com.example.ATest"⟩ }

theorem complete_moving :
    complete moving {} (Plugin.defaultSet frameworkPackage) =
      [⟨"com.example.ATest"⟩, ⟨"com.example.B"⟩, ⟨"com.example.Slow"⟩, ⟨"com.example.C"⟩].foldl
        (fun run name => run.visit moving name)
        (seeded moving {} (Plugin.defaultSet frameworkPackage)) :=
  drain_of_isRoute (by decide +kernel) _

def movingReport (stereotype : ClassName) : Report where
  descriptor :=
    { discovered := .ofList [⟨"com.example.ATest"⟩, ⟨"com.example.B"⟩]
      alternativeStereotypes := [stereotype]
      extensions := [⟨.testScope moving.configuration,
        "io.github.beanscope.testscope.TestScopeDiscovery"⟩] }
  graph :=
    { nodes := .ofList [⟨"com.example.ATest"⟩, ⟨"com.example.B"⟩, ⟨"com.example.Slow"⟩,
        ⟨"com.example.C"⟩]
      edges := .ofList [(⟨"com.example.ATest"⟩, ⟨"com.example.B"⟩),
        (⟨"com.example.ATest"⟩, ⟨"com.example.Slow"⟩),
        (⟨"com.example.ATest"⟩, ⟨"com.example.C"⟩)] }
  stats := ⟨4, 2, 2⟩

theorem report_moving :
    (complete moving {} (Plugin.defaultSet frameworkPackage)).report (.forPackage frameworkPackage) =
      .ok (movingReport producesAlternative) := by
  rw [complete_moving]
  decide +kernel

theorem moved_moving :
    (complete (.inMemory (movingRegistry.relocated "org.acme.testing") (Container.interface {})
        moving.configuration) {} (Plugin.defaultSet "org.acme.testing")).report
          (.forPackage "org.acme.testing") =
      .ok (movingReport ⟨"org.acme.testing.ProducesAlternative"⟩) := by
  have hregistry : movingRegistry.IsRelocatable "org.acme.testing" := by decide +kernel
  refine (report_of_moved_framework hregistry (Container.isIndifferent_interface {} _)
    moving.configuration {}).1.trans ?_
  refine (congrArg _ report_moving).trans ?_
  decide +kernel

end Run
end BeanDiscovery
