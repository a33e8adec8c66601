import BeanDiscovery.Proofs.Deployment
import BeanDiscovery.Proofs.ScanKeys
import BeanDiscovery.Proofs.TraversalCompleteness

/-!
# Expanded classes

A class expands to the classes below some roots and in some packages. These count as bean archives from
then on, so an expanded class is inspected and deployed when its turn comes later. A class whose turn came
before and that was skipped then is not taken again. The main statement is that this is the only way for
an expanded class to stay out of the deployment.
-/
namespace BeanDiscovery

/-- Another class comes from a root, or from a package below a root, that the class expands to. Of several
uses of a marker the first one counts. -/
inductive ClassInfo.ExpandsTo (registry : TypeRegistry) (package : String)
    (info other : ClassInfo) : Prop
  | archive {marker base root}
      (hmarker : info.marker? (Vocabulary.relocated Vocabulary.additionalClasspaths package) =
        some marker)
      (hbase : base ∈ marker.value) (hroot : registry.locationOf base = some root)
      (hother : other.location = some root) : ExpandsTo registry package info other
  | package {marker base root}
      (hmarker : info.marker? (Vocabulary.relocated Vocabulary.additionalPackages package) =
        some marker)
      (hbase : base ∈ marker.value) (hroot : registry.locationOf base = some root)
      (hother : other.location = some root) (hpackage : other.name.package = base.package) :
      ExpandsTo registry package info other

namespace TypeRegistry
variable {registry : TypeRegistry} {info : ClassInfo}

theorem mem_classNames {roots : List Url} {root : Url} (h : info ∈ registry.classes)
    (hlocation : info.location = some root) (hroot : root ∈ roots) :
    info.name ∈ registry.classNames roots := by
  refine List.mem_flatMap.2 ⟨root, hroot, ?_⟩
  rw [sortedNames, ClassName.mem_sorted]
  exact List.mem_map_of_mem (List.mem_filter.2 ⟨h, decide_eq_true hlocation⟩)

theorem mem_packageClassNames {package : String} {root : Url} (h : info ∈ registry.classes)
    (hlocation : info.location = some root) (hpackage : info.name.package = package) :
    info.name ∈ registry.packageClassNames package root := by
  rw [packageClassNames, sortedNames, ClassName.mem_sorted]
  refine List.mem_map_of_mem (List.mem_filter.2 ⟨h, ?_⟩)
  simp [hlocation, hpackage]

end TypeRegistry

namespace Plugin
variable {env : Environment} {memory : ScanCache} {package : String} {info other : ClassInfo}
  {plugins : List Plugin}

theorem mem_archiveNames_of_location (hscanner : env.scanner = env.registry.scanner)
    (hplain : env.registry.IsPlain) (hexact : memory.Exact env.scanner) {bases : List ClassName}
    (hanswered : memory.HasArchives env.registry bases) {base : ClassName} {root : Url}
    (hbase : base ∈ bases) (hroot : env.registry.locationOf base = some root)
    (hother : other ∈ env.registry.classes) (hlocation : other.location = some root) :
    other.name ∈ memory.archiveNames env.registry bases := by
  have hmem : root ∈ Context.rootsOf env.registry bases :=
    Context.mem_rootsOf.2 ⟨base, hbase, hroot⟩
  have hne : Context.rootsOf env.registry bases ≠ [] := List.ne_nil_of_mem hmem
  obtain ⟨names, hnames⟩ := Option.isSome_iff_exists.1 (hanswered hne)
  refine ScanCache.mem_namesBelow.2 ⟨hne, names, hnames, ?_⟩
  rw [hexact.classpath (Context.isPlain_of_mem_rootsOf hplain) hne hnames, hscanner]
  exact TypeRegistry.mem_classNames hother hlocation hmem

theorem mem_packageNames_of_location (hscanner : env.scanner = env.registry.scanner)
    (hplain : env.registry.IsPlain) (hexact : memory.Exact env.scanner) {bases : List ClassName}
    (hanswered : memory.HasPackages env.registry bases) {base : ClassName} {root : Url}
    (hbase : base ∈ bases) (hroot : env.registry.locationOf base = some root)
    (hother : other ∈ env.registry.classes) (hlocation : other.location = some root)
    (hpackage : other.name.package = base.package) :
    other.name ∈ memory.packageNames env.registry bases := by
  obtain ⟨names, hnames⟩ := Option.isSome_iff_exists.1 (hanswered base hbase root hroot)
  refine ScanCache.mem_packageNames.2 ⟨base, hbase, root, hroot, names, hnames, ?_⟩
  rw [hexact.package (hplain.location hroot) hnames, hscanner]
  exact TypeRegistry.mem_packageClassNames hother hlocation hpackage

end Plugin

namespace Run
variable {env : Environment} {package : String} {plugins : List Plugin} {info other : ClassInfo}
  {visit : Visit}

section Expanded
variable (hscanner : env.scanner = env.registry.scanner) (hplain : env.registry.IsPlain)
  (hmarkers : Plugin.testMarkers package ∈ plugins)
  (htruthful : ∀ plugin ∈ plugins, plugin.Truthful env.registry)
  (hf : (complete env {} plugins).failure = none)
  (hvisit : visit ∈ visits env {} plugins)
  (ht : visit.before.context.target? env visit.candidate = some info)
  (hother : other ∈ env.registry.classes) (h : info.ExpandsTo env.registry package other)
include hscanner hplain hmarkers htruthful hf hvisit ht hother h

/-- What a class expands to is offered, and counts as included or as a part of a bean archive, when the
class has been inspected. -/
theorem offered_and_covered :
    other.name ∈ visit.before.offersAt env visit.candidate ∧
      (visit.before.visit env visit.candidate).context.covers other = true := by
  have hexact := exact_complete hplain plugins
  have hprocess : HookPoint.process info ∈ info.hookPoints := Plugin.mem_hookPoints.2 (Or.inl rfl)
  have hanswered := answered_of_visit htruthful hf hvisit ht
  rw [offersAt_eq htruthful hf hvisit ht, Plugin.mem_offers_planAll, context_visit_of_target ht,
    Context.covers_iff]
  have hsteps := inspectionSteps_eq htruthful hf hvisit ht
  cases h with
  | @archive marker base root hmarker hbase hroot hlocation =>
    have hstep : .scanArchives marker.value ∈ Plugin.planAll env
        (complete env {} plugins).context.scans plugins info.hookPoints :=
      Plugin.mem_planAll.2 ⟨_, hprocess, _, hmarkers, Plugin.scanArchives_mem_plan hmarker⟩
    have hname := Plugin.mem_archiveNames_of_location hscanner hplain hexact
      (hanswered _ hstep) hbase hroot hother hlocation
    refine ⟨⟨_, hprocess, _, hmarkers, Plugin.mem_offers_testMarkers_process.2
      (Or.inl (Plugin.expands_iff.2 (Or.inl ⟨marker, hmarker, hname⟩)))⟩,
      Or.inr ⟨root, hlocation, ?_⟩⟩
    rw [hsteps]
    exact Context.mem_archiveRoots_takeAll _ hstep (Context.mem_rootsOf.2 ⟨base, hbase, hroot⟩)
  | @package marker base root hmarker hbase hroot hlocation hpackage =>
    have hstep : .scanPackages marker.value ∈ Plugin.planAll env
        (complete env {} plugins).context.scans plugins info.hookPoints :=
      Plugin.mem_planAll.2 ⟨_, hprocess, _, hmarkers, Plugin.scanPackages_mem_plan hmarker⟩
    have hname := Plugin.mem_packageNames_of_location hscanner hplain hexact
      (hanswered _ hstep) hbase hroot hother hlocation hpackage
    refine ⟨⟨_, hprocess, _, hmarkers, Plugin.mem_offers_testMarkers_process.2
      (Or.inl (Plugin.expands_iff.2 (Or.inr ⟨marker, hmarker, hname⟩)))⟩, Or.inl ?_⟩
    obtain ⟨-, hgrows⟩ := inspection_ends hf hvisit ht
    rw [context_callAll] at hgrows
    rw [← hsteps] at hstep
    exact Context.mem_included_takeAll hstep hgrows hname

end Expanded

/-- A name that a visit finds registered, not primitive, covered and not left out is inspected. -/
theorem target?_of_covers {context : Context} (hother : other ∈ env.registry.classes)
    (hprimitive : other.kind ≠ .primitive) (hcovers : context.covers other = true)
    (hignored : other.name ∉ context.findings.ignored) :
    context.target? env other.name = some other := by
  have hresolve := TypeRegistry.resolve_of_mem hother
  rw [Context.target?, Context.isIgnored, decide_eq_false hignored, if_neg Bool.false_ne_true,
    hresolve, Option.filter_eq_some_iff]
  simp [hcovers, ClassInfo.isPrimitive, hprimitive]

/-- In a run that ends well a class is inspected and not skipped if it is covered at its turn and not left
out in the end. -/
theorem isInspection_of_covers {scans : ScanCache} (hvisit : visit ∈ visits env scans plugins)
    (hother : other ∈ env.registry.classes) (hname : visit.candidate = other.name)
    (hprimitive : other.kind ≠ .primitive) (hcovers : visit.before.context.covers other = true)
    (hignored : other.name ∉ (complete env scans plugins).context.findings.ignored) :
    visit.isInspection env = true := by
  have hgrows := (visits_complete env scans plugins).grows_before hvisit
  have ht := target?_of_covers hother hprimitive hcovers
    fun hmem => hignored (hgrows.ignored _ hmem)
  rw [Visit.isInspection, hname, ht]
  rfl

/-- A class that is covered after a visit and not left out in the end is inspected, unless it was visited
before. -/
theorem isInspection_of_covers_after {scans : ScanCache} {first rest : List Visit} {turn : Visit}
    (hsplit : visits env scans plugins = first ++ visit :: rest)
    (hvisit : visit.isInspection env = true) (hturn : turn ∈ visits env scans plugins)
    (hnew : turn ∉ first) (hother : other ∈ env.registry.classes)
    (hname : turn.candidate = other.name) (hprimitive : other.kind ≠ .primitive)
    (hcovers : (visit.before.visit env visit.candidate).context.covers other = true)
    (hignored : other.name ∉ (complete env scans plugins).context.findings.ignored) :
    turn.isInspection env = true := by
  have hvisits := visits_complete env scans plugins
  rw [hsplit] at hvisits
  have hmem := hturn
  rw [hsplit, List.mem_append, List.mem_cons] at hmem
  rcases hmem.resolve_left hnew with rfl | hrest
  · exact hvisit
  · have hgrows := hvisits.grows_after.2 turn hrest
    exact isInspection_of_covers hturn hother hname hprimitive (hgrows.covers hcovers) hignored

section Turn
variable {scans : ScanCache} {turn : Visit} (hf : (complete env scans plugins).failure = none)
  (hturn : turn ∈ visits env scans plugins)
include hf hturn

/-- A registered class is deployed when its turn is an inspection and it is not left out in the end. -/
theorem mem_discovered_iff (hother : other ∈ env.registry.classes)
    (hname : turn.candidate = other.name) (hprimitive : other.kind ≠ .primitive)
    (hmarker : other.kind ≠ .marker)
    (hignored : other.name ∉ (complete env scans plugins).context.findings.ignored) :
    other.name ∈ (complete env scans plugins).context.findings.discovered ↔
      turn.isInspection env = true := by
  have hkind : env.isMarkerDefinition other.name = false := by
    rw [Environment.isMarkerDefinition, TypeRegistry.resolve_of_mem hother]
    exact decide_eq_false hmarker
  rw [mem_discovered_complete hf, ← mem_inspected_iff hf hturn, hname]
  constructor
  · rintro (htest | ⟨hinspected, -⟩)
    · rw [← hname, mem_inspected_iff hf hturn]
      refine isInspection_of_covers hturn hother hname hprimitive ?_ hignored
      exact Context.covers_iff.2 (Or.inl (htest ▸ testClass_mem_included hturn))
    · exact hinspected
  · exact fun hinspected => Or.inr ⟨hinspected, hkind⟩

end Turn

/-- A class that an inspected class expands to is deployed, unless it was taken off the worklist and
skipped before the inspected class was taken, or is left out in the end. -/
theorem deployed_of_expanded {assembler : Assembler} {report : Report}
    (hscanner : env.scanner = env.registry.scanner) (hplain : env.registry.IsPlain)
    (hmarkers : Plugin.testMarkers package ∈ plugins)
    (htruthful : ∀ plugin ∈ plugins, plugin.Truthful env.registry)
    (hreport : (complete env {} plugins).report assembler = .ok report)
    {name : ClassName} {earlier later : List ClassName}
    (htaken : (complete env {} plugins).trail.taken = earlier ++ name :: later)
    (hinspected : name ∈ (complete env {} plugins).trail.inspected)
    (hinfo : env.registry.resolve name = some info) (hother : other ∈ env.registry.classes)
    (hexpands : info.ExpandsTo env.registry package other)
    (hprimitive : other.kind ≠ .primitive) (hmarker : other.kind ≠ .marker)
    (hignored : other.name ∉ (complete env {} plugins).context.findings.ignored) :
    other.name ∈ report.descriptor.discovered ↔
      ¬ (other.name ∈ earlier ∧ other.name ∈ (complete env {} plugins).trail.skipped) := by
  have hf := failure_of_report hreport
  obtain rfl := eq_of_report hreport
  -- the expanding class is inspected in some visit, and the other class has its turn in some visit
  rw [congrArg Trail.taken (trail_complete env {} plugins)] at htaken
  obtain ⟨first, second, hsplit, rfl, hsecond⟩ := List.map_eq_append_iff.1 htaken
  obtain ⟨visit, rest, rfl, rfl, rfl⟩ := List.map_eq_cons_iff.1 hsecond
  have hvisit : visit ∈ visits env {} plugins := hsplit ▸ List.mem_append_right _ List.mem_cons_self
  rw [mem_inspected_iff hf hvisit] at hinspected
  obtain ⟨target, ht⟩ := Option.isSome_iff_exists.1 hinspected
  cases hinfo.symm.trans (Context.resolve_of_target ht)
  obtain ⟨hoffered, hcovers⟩ := offered_and_covered hscanner hplain hmarkers htruthful hf hvisit ht
    hother hexpands
  have hnode := mem_nodes_complete.2 (Or.inr ⟨_, visit, hvisit, rfl, hoffered⟩)
  rw [OrderedSet.mem_def, nodes_complete, ← candidates_complete hf] at hnode
  obtain ⟨turn, hturn, hname⟩ := List.mem_map.1 hnode
  have hdiscovered := mem_discovered_iff hf hturn hother hname hprimitive hmarker hignored
  rw [Assembler.mem_discovered_assemble, hdiscovered, and_iff_left hignored, ← hname,
    mem_skipped_iff hf hturn]
  constructor
  · rintro hinspection ⟨-, hskipped⟩
    exact Bool.false_ne_true (hskipped.symm.trans hinspection)
  · intro hnot
    by_cases hfirst : turn ∈ first
    · exact Bool.of_not_eq_false fun hskipped => hnot ⟨List.mem_map_of_mem hfirst, hskipped⟩
    · exact isInspection_of_covers_after hsplit hinspected hturn hfirst hother hname hprimitive
        hcovers hignored

theorem expanded_library :
    (complete library {} (Plugin.defaultSet Vocabulary.frameworkPackage)).report {} =
      .ok libraryReport ∧
    ⟨"org.lib.L"⟩ ∈ libraryReport.descriptor.discovered := by
  have htaken : (complete library {} (Plugin.defaultSet Vocabulary.frameworkPackage)).trail.taken =
      [] ++ ⟨"com.example.ATest"⟩ :: [⟨"org.lib.L"⟩, ⟨"com.example.C"⟩] := by
    rw [complete_library]
    decide +kernel
  have hinspected : ⟨"com.example.ATest"⟩ ∈
      (complete library {} (Plugin.defaultSet Vocabulary.frameworkPackage)).trail.inspected := by
    rw [complete_library]
    decide +kernel
  have hignored : ⟨"org.lib.L"⟩ ∉ (complete library {}
      (Plugin.defaultSet Vocabulary.frameworkPackage)).context.findings.ignored := by
    rw [complete_library]
    decide +kernel
  have hinfo : library.registry.resolve ⟨"com.example.ATest"⟩ = some libraryTest := rfl
  have hother : library.registry.resolve ⟨"org.lib.L"⟩ = some libraryClass := rfl
  have hexpands : libraryTest.ExpandsTo library.registry Vocabulary.frameworkPackage
      libraryClass := .archive rfl List.mem_cons_self rfl rfl
  refine ⟨report_library, (deployed_of_expanded rfl (by decide +kernel) (by simp [Plugin.defaultSet])
    (Plugin.truthful_defaultSet _ _) report_library htaken hinspected hinfo
    (TypeRegistry.mem_of_resolve hother) hexpands (by decide) (by decide) hignored).2 ?_⟩
  exact fun hearlier => List.not_mem_nil hearlier.1

/-! ## A class that is skipped too early -/

/-- Asks for the archive of the library. -/
def lateClass : ClassInfo where
  name := ⟨"com.example.C"⟩
  location := some ⟨"file:///cp/app/"⟩
  markers := [{ name := Vocabulary.additionalClasspaths, value := [⟨"org.lib.L"⟩] }]

/-- The test injects the class of the library before the class that asks for the library. -/
def lateLibrary : Environment where
  registry := (TypeRegistry.initial.addRoot ⟨"file:///cp/app/"⟩ true).registerAll
    [{ name := ⟨"com.example.ATest"⟩
       location := some ⟨"file:///cp/app/"⟩
       fields := [⟨"l", .cls ⟨"org.lib.L"⟩, [{ name := Vocabulary.inject }]⟩,
         ⟨"c", .cls ⟨"com.example.C"⟩, [{ name := Vocabulary.inject }]⟩] },
     lateClass, libraryClass]
  configuration := { testClass := ⟨"com.example.ATest"⟩ }

theorem complete_lateLibrary :
    complete lateLibrary {} [.standard, .testMarkers Vocabulary.frameworkPackage] =
      [⟨"com.example.ATest"⟩, ⟨"org.lib.L"⟩, ⟨"com.example.C"⟩].foldl
        (fun run name => run.visit lateLibrary name)
        (seeded lateLibrary {} [.standard, .testMarkers Vocabulary.frameworkPackage]) :=
  drain_of_isRoute (by decide +kernel) _

/-- The class of the library is skipped at its turn and not taken again. -/
def lateLibraryReport : Report where
  descriptor := { discovered := .ofList [⟨"com.example.ATest"⟩, ⟨"com.example.C"⟩] }
  graph :=
    { nodes := .ofList [⟨"com.example.ATest"⟩, ⟨"org.lib.L"⟩, ⟨"com.example.C"⟩]
      edges := .ofList [(⟨"com.example.ATest"⟩, ⟨"org.lib.L"⟩),
        (⟨"com.example.ATest"⟩, ⟨"com.example.C"⟩)] }
  stats := ⟨3, 2, 1⟩

theorem report_lateLibrary :
    (complete lateLibrary {} [.standard, .testMarkers Vocabulary.frameworkPackage]).report {} =
      .ok lateLibraryReport := by
  rw [complete_lateLibrary]
  decide +kernel

/-- Not every class that an inspected class expands to is deployed. -/
theorem not_all_expanded_deployed :
    ¬ ∀ (env : Environment) (package : String) (assembler : Assembler) (report : Report)
      (name : ClassName) (info other : ClassInfo),
      env.scanner = env.registry.scanner → env.registry.IsPlain →
      (complete env {} [.standard, .testMarkers package]).report assembler = .ok report →
      name ∈ (complete env {} [.standard, .testMarkers package]).trail.inspected →
      env.registry.resolve name = some info → other ∈ env.registry.classes →
      info.ExpandsTo env.registry package other → other.kind ≠ .primitive → other.kind ≠ .marker →
      other.name ∉ (complete env {} [.standard, .testMarkers package]).context.findings.ignored →
      other.name ∈ report.descriptor.discovered := by
  intro h
  have hinspected : ⟨"com.example.C"⟩ ∈ (complete lateLibrary {}
      [.standard, .testMarkers Vocabulary.frameworkPackage]).trail.inspected := by
    rw [complete_lateLibrary]
    decide +kernel
  have hignored : ⟨"org.lib.L"⟩ ∉ (complete lateLibrary {}
      [.standard, .testMarkers Vocabulary.frameworkPackage]).context.findings.ignored := by
    rw [complete_lateLibrary]
    decide +kernel
  have hinfo : lateLibrary.registry.resolve ⟨"com.example.C"⟩ = some lateClass := rfl
  have hother : lateLibrary.registry.resolve ⟨"org.lib.L"⟩ = some libraryClass := rfl
  have hexpands : lateClass.ExpandsTo lateLibrary.registry Vocabulary.frameworkPackage
      libraryClass := .archive rfl List.mem_cons_self rfl rfl
  have hdeployed : ⟨"org.lib.L"⟩ ∈ lateLibraryReport.descriptor.discovered :=
    h lateLibrary _ {} lateLibraryReport _ lateClass libraryClass rfl (by decide +kernel)
      report_lateLibrary hinspected hinfo (TypeRegistry.mem_of_resolve hother) hexpands (by decide)
      (by decide) hignored
  exact absurd hdeployed (by decide +kernel)

end Run
end BeanDiscovery
