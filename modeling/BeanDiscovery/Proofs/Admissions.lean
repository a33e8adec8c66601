import BeanDiscovery.Proofs.Expansions
import BeanDiscovery.Proofs.PluginRepertoire

/-!
# Why a class is inspected

A context covers a class that was included by name or lies below an archive root. Only scans add to what a
context covers, so what is covered at some moment of a run goes back to its start or to a scan that an
earlier visit made. The main statement gives the reasons why a run with the default plugins inspects a class.
-/
namespace BeanDiscovery

/-- After such a step a class is covered: the step scans below its root, or finds it in a package. -/
def HookStep.Covers (registry : TypeRegistry) (memory : ScanCache) (info : ClassInfo) :
    HookStep → Prop
  | .act (.offerPackage ref) => info.name ∈ memory.packageNames registry (ref.identities registry)
  | .act (.offerArchive ref) =>
    ∃ root ∈ Context.rootsOf registry (ref.identities registry), info.location = some root
  | .act _ => False
  | .scanArchives bases => ∃ root ∈ Context.rootsOf registry bases, info.location = some root
  | .scanPackages bases => info.name ∈ memory.packageNames registry bases

/-! ## What steps cover -/

namespace Context
variable {env : Environment} {memory : ScanCache} {info : ClassInfo}

theorem covers_enqueueAll (context : Context) (names : List ClassName) (info : ClassInfo) :
    (context.enqueueAll names).covers info = context.covers info := by
  obtain ⟨worklist, graph, h⟩ := context.enqueueAll_changes names
  rw [h]
  rfl

theorem covers_turnTo (context : Context) (turned info : ClassInfo) :
    (context.turnTo turned).covers info = context.covers info := by
  rw [turnTo]
  split <;> rfl

theorem covers_scanArchives {context : Context} {bases : List ClassName} :
    (context.scanArchives env bases).2.covers info = true ↔
      context.covers info = true ∨
        ∃ root ∈ rootsOf env.registry bases, info.location = some root := by
  rw [scanArchives]
  split
  next hroots => simp [hroots]
  next => simp only [covers_iff, OrderedSet.mem_insertAll, and_or_left, exists_or, and_comm, or_assoc]

/-- A package whose names are known covers these names. -/
theorem covers_scanPackage {context : Context} {base : ClassName}
    (h : (context.scanPackage env base).2.scans.Within memory) :
    (context.scanPackage env base).2.covers info = true ↔
      context.covers info = true ∨
        info.name ∈ (env.registry.locationOf base).elim [] (memory.namesInPackage base.package) := by
  rw [← scanPackage_eq h, scanPackage]
  split
  · simp
  · simp only [covers_iff, OrderedSet.mem_insertAll, or_assoc, or_comm, or_left_comm]

theorem covers_scanPackages {context : Context} {bases : List ClassName}
    (h : (context.scanPackages env bases).2.scans.Within memory) :
    (context.scanPackages env bases).2.covers info = true ↔
      context.covers info = true ∨ info.name ∈ memory.packageNames env.registry bases := by
  induction bases generalizing context with
  | nil => exact (or_iff_left List.not_mem_nil).symm
  | cons base bases ih =>
    have hrest := (grows_scanPackages (context.scanPackage env base).2 env bases).scans
    rw [ScanCache.packageNames, List.flatMap_cons, List.mem_append, ← or_assoc,
      ← covers_scanPackage (hrest.trans h)]
    exact ih h

theorem covers_take {context : Context} {step : HookStep}
    (h : (context.take env step).scans.Within memory) :
    (context.take env step).covers info = true ↔
      context.covers info = true ∨ step.Covers env.registry memory info := by
  cases step with
  | act action =>
    cases action with
    | offer ref =>
      rw [take, perform, covers_enqueueAll]
      exact (or_iff_left id).symm
    | offerPackage ref =>
      rw [take, perform, covers_enqueueAll]
      exact covers_scanPackages (scans_enqueueAll _ _ ▸ h)
    | offerArchive ref =>
      rw [take, perform, covers_enqueueAll]
      exact covers_scanArchives
    | ignore ref => exact (or_iff_left id).symm
    | activate group ref => exact (or_iff_left id).symm
    | register registration => exact (or_iff_left id).symm
  | scanArchives bases => exact covers_scanArchives
  | scanPackages bases => exact covers_scanPackages h

theorem covers_takeAll {context : Context} {steps : List HookStep}
    (h : (context.takeAll env steps).scans.Within memory) :
    (context.takeAll env steps).covers info = true ↔
      context.covers info = true ∨ ∃ step ∈ steps, step.Covers env.registry memory info := by
  induction steps generalizing context with
  | nil => simp [takeAll]
  | cons step steps ih =>
    have hrest := (grows_takeAll (context.take env step) env steps).scans
    rw [List.exists_mem_cons_iff, ← or_assoc, ← covers_take (hrest.trans h)]
    exact ih h

theorem covers_or_extension_of_target {context : Context} {candidate : ClassName}
    (h : context.target? env candidate = some info) :
    context.covers info = true ∨ env.container.isExtensionType info = true := by
  rw [target?] at h
  split at h
  · cases h
  · have hreason := (Option.filter_eq_some_iff.1 h).2
    rw [Bool.and_eq_true, Bool.or_eq_true] at hreason
    exact hreason.2

end Context

/-! ## What a run covers -/

namespace Run
variable {env : Environment} {scans memory : ScanCache} {plugins : List Plugin} {run final : Run}
  {candidate : ClassName} {info : ClassInfo} {package : String}

theorem covers_visit (h : (run.visit env candidate).context.scans.Within memory) :
    (run.visit env candidate).context.covers info = true ↔
      run.context.covers info = true ∨
        ∃ step ∈ Visit.steps env ⟨run, candidate⟩, step.Covers env.registry memory info := by
  cases ht : run.context.target? env candidate with
  | none =>
    rw [context_visit_of_skipped ht, Visit.steps, ht]
    simp
    rfl
  | some found =>
    have hsteps : Visit.steps env ⟨run, candidate⟩ = run.inspectionSteps env found := by
      simp [Visit.steps, ht]
    rw [context_visit_of_target ht] at h ⊢
    rw [hsteps, ← Context.covers_turnTo run.context found]
    exact Context.covers_takeAll h

/-- Before a visit a class is covered that was covered in the beginning or that an earlier visit covered. -/
theorem Visits.covers_before {first rest : List Visit} {visit : Visit}
    (h : Visits env run (first ++ visit :: rest) final)
    (hmemory : final.context.scans.Within memory) :
    visit.before.context.covers info = true ↔
      run.context.covers info = true ∨
        ∃ earlier ∈ first, ∃ step ∈ earlier.steps env, step.Covers env.registry memory info := by
  induction first generalizing run with
  | nil =>
    cases h with
    | visit hf hn hrest => simp
  | cons other first ih =>
    cases h with
    | visit hf hn hrest =>
      rw [List.exists_mem_cons_iff, ← or_assoc,
        ← covers_visit (hrest.grows.1.scans.trans hmemory)]
      exact ih hrest

/-- The default plugins scan nothing before the traversal. -/
theorem covers_seeded (h : Plugin.AreDefault package plugins) :
    (seeded env scans plugins).context.covers info = (Context.start env scans).covers info := by
  have hstart : (start env scans plugins).context.covers info =
      (Context.start env scans).covers info :=
    Context.covers_enqueueAll ((Context.start env scans).discover env.configuration.testClass)
      [env.configuration.testClass] info
  have hcall := context_call (start env scans plugins) env (.bootstrap env.configuration.testClass)
  have hseeded : (seeded env scans plugins).context.covers info =
      ((start env scans plugins).call env
        (.bootstrap env.configuration.testClass)).context.covers info :=
    Context.covers_enqueueAll _ _ _
  rw [hseeded, ← hstart, Bool.eq_iff_iff, hcall, Context.covers_takeAll (.refl _)]
  refine or_iff_left ?_
  rintro ⟨step, hstep, hcovers⟩
  cases permits_of_mem_bootstrap h hstep <;> exact hcovers

end Run

/-! ## Reasons -/

/-- A class brings another one in by a scan: the other class lies below the root of a type that the first
marker for class paths refers to, a memory of scans holds it for the package of a type that the first marker
for packages refers to, or it lies below a root of the proxy machinery and the class is the marker for
proxies. -/
inductive ClassInfo.Admits (registry : TypeRegistry) (memory : ScanCache) (package : String)
    (carrier info : ClassInfo) : Prop
  | archive {marker base root}
      (hmarker : carrier.marker? (Vocabulary.relocated Vocabulary.additionalClasspaths package) =
        some marker)
      (hbase : base ∈ marker.value) (hroot : registry.locationOf base = some root)
      (hlocation : info.location = some root)
  | package {marker base root names}
      (hmarker : carrier.marker? (Vocabulary.relocated Vocabulary.additionalPackages package) =
        some marker)
      (hbase : base ∈ marker.value) (hroot : registry.locationOf base = some root)
      (hnames : memory.packageScans.get? (ScanCache.packageKey base.package root) = some names)
      (hname : info.name ∈ names)
  | proxies {sentinel root} (hcarrier : carrier.name = Plugin.proxySupportMarker)
      (hsentinel : sentinel ∈ Plugin.proxySentinels)
      (hroot : registry.locationOf sentinel = some root) (hlocation : info.location = some root)

/-- A step that covers a class and that a hook point of an inspected class permits. -/
theorem ClassInfo.admits_of_permits {registry : TypeRegistry} {memory : ScanCache} {package : String}
    {carrier info : ClassInfo} {point : HookPoint} {step : HookStep}
    (hpoint : point ∈ carrier.hookPoints) (hpermits : point.Permits package step)
    (hcovers : step.Covers registry memory info) : carrier.Admits registry memory package info := by
  cases hpermits with
  | archives hmarker =>
    obtain rfl := Plugin.process_mem_hookPoints.1 hpoint
    obtain ⟨root, hroot, hlocation⟩ := hcovers
    obtain ⟨base, hbase, hbaseRoot⟩ := Context.mem_rootsOf.1 hroot
    exact .archive hmarker hbase hbaseRoot hlocation
  | packages hmarker =>
    obtain rfl := Plugin.process_mem_hookPoints.1 hpoint
    obtain ⟨base, hbase, root, hroot, names, hnames, hname⟩ := ScanCache.mem_packageNames.1 hcovers
    exact .package hmarker hbase hroot hnames hname
  | proxies hinfo hsentinel =>
    obtain rfl := Plugin.process_mem_hookPoints.1 hpoint
    obtain ⟨root, hroot, hlocation⟩ := hcovers
    obtain ⟨base, hbase, hbaseRoot⟩ := Context.mem_rootsOf.1 hroot
    obtain rfl := List.mem_singleton.1 hbase
    exact .proxies hinfo hsentinel hbaseRoot hlocation
  | offer => exact hcovers.elim
  | ignore => exact hcovers.elim
  | activate => exact hcovers.elim
  | register => exact hcovers.elim

namespace Run
variable {env : Environment} {scans : ScanCache} {plugins : List Plugin} {package : String}

/-- A run with the default plugins, whatever the memory of scans and the probes hold before it and however it
ends, inspects a class other than the test class for one of three reasons. The class lies below one of the
bean archives that the memory names at the beginning; it is an extension type of the container; or a class
that was inspected before brings it in by a scan. -/
theorem reason_of_inspected (hplugins : Plugin.AreDefault package plugins)
    {earlier later : List ClassInfo} {info : ClassInfo}
    (h : (complete env scans plugins).inspectedClasses env = earlier ++ info :: later)
    (htest : info.name ≠ env.configuration.testClass) :
    (∃ root ∈ (scans.beanArchiveRoots env.scanner).1, info.location = some root) ∨
    env.container.isExtensionType info = true ∨
    ∃ carrier ∈ earlier, carrier.Admits env.registry (complete env scans plugins).context.scans
      package info := by
  obtain ⟨before, visit, after, hvisits, ht, hearlier⟩ := inspectedClasses_split h
  rcases Context.covers_or_extension_of_target ht with hcovers | hextension
  · have hall := visits_complete env scans plugins
    rw [hvisits] at hall
    rw [hall.covers_before (.refl _), covers_seeded hplugins, Context.covers_iff] at hcovers
    rcases hcovers with (hname | ⟨root, hlocation, hroot⟩) | ⟨other, hother, step, hstep, hstepCovers⟩
    · exact absurd (List.mem_singleton.1 (OrderedSet.mem_ofList.1 hname)) htest
    · exact Or.inl ⟨root, OrderedSet.mem_ofList.1 hroot, hlocation⟩
    · have hmem : other ∈ visits env scans plugins := hvisits ▸ List.mem_append_left _ hother
      obtain ⟨carrier, htarget, point, hpoint, hpermits⟩ :=
        permits_of_mem_steps hplugins hmem hstep
      exact Or.inr (Or.inr ⟨carrier, hearlier other hother carrier htarget,
        ClassInfo.admits_of_permits hpoint hpermits hstepCovers⟩)
  · exact Or.inr (Or.inl hextension)

theorem inspected_library :
    (complete library {} (Plugin.defaultSet Vocabulary.frameworkPackage)).trail.inspected =
      [⟨"com.example.ATest"⟩, ⟨"org.lib.L"⟩, ⟨"com.example.C"⟩] := by
  rw [complete_library]
  decide +kernel

/-- The class of the library lies in no bean archive and is no extension; the test brings it in. -/
theorem reason_library :
    (∃ later,
      (complete library {} (Plugin.defaultSet Vocabulary.frameworkPackage)).inspectedClasses library =
        [libraryTest] ++ libraryClass :: later) ∧
    libraryClass.name ≠ library.configuration.testClass ∧
    libraryTest.Admits library.registry
      (complete library {} (Plugin.defaultSet Vocabulary.frameworkPackage)).context.scans
      Vocabulary.frameworkPackage libraryClass := by
  have hinspected :
      (complete library {} (Plugin.defaultSet Vocabulary.frameworkPackage)).inspectedClasses library =
        [libraryTest] ++ libraryClass ::
          [{ name := ⟨"com.example.C"⟩, location := some ⟨"file:///cp/app/"⟩ }] := by
    rw [inspectedClasses, inspected_library]
    rfl
  have htest : libraryClass.name ≠ library.configuration.testClass := by decide
  refine ⟨⟨_, hinspected⟩, htest, ?_⟩
  have hplugins : Plugin.AreDefault Vocabulary.frameworkPackage
      (Plugin.defaultSet Vocabulary.frameworkPackage) := rfl
  rcases reason_of_inspected hplugins hinspected htest with
    hroot | hextension | ⟨carrier, hcarrier, hadmits⟩
  · exact absurd hroot (by decide +kernel)
  · exact absurd hextension (by decide +kernel)
  · obtain rfl := List.mem_singleton.1 hcarrier
    exact hadmits

end Run
end BeanDiscovery
