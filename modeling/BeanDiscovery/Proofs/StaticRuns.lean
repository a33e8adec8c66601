import BeanDiscovery.Proofs.Registrations

/-!
# Runs that change no scope

Some markers leave classes out, and some bring in archives or packages. Where no class and no member carries
one of them, the plugins for the container's own notions and for the framework markers only offer names,
switch classes on and register extensions. The main statement is that such a run does not fail if all
extensions can be built, and that before every visit the context inspects and leaves out what it did at the
beginning.
-/
namespace BeanDiscovery

namespace Vocabulary

/-- The markers that change which classes are inspected or deployed. -/
def scopeMarkers (package : String) : List ClassName :=
  [ignoredClasses, additionalClasspaths, additionalPackages].map fun marker =>
    relocated marker package

theorem ignoredClasses_mem_scopeMarkers (package : String) :
    relocated ignoredClasses package ∈ scopeMarkers package := List.mem_cons_self

theorem additionalClasspaths_mem_scopeMarkers (package : String) :
    relocated additionalClasspaths package ∈ scopeMarkers package :=
  List.mem_cons_of_mem _ List.mem_cons_self

theorem additionalPackages_mem_scopeMarkers (package : String) :
    relocated additionalPackages package ∈ scopeMarkers package :=
  List.mem_cons_of_mem _ (List.mem_cons_of_mem _ List.mem_cons_self)

end Vocabulary

namespace ClassInfo

/-- The markers on a class and on its members. -/
def allMarkers (info : ClassInfo) : List MarkerUse :=
  info.markers ++ info.fields.flatMap (·.markers) ++ info.methods.flatMap (·.markers)

/-- Neither the class nor a member carries a marker that changes a scope. -/
def IsStatic (package : String) (info : ClassInfo) : Prop :=
  ∀ marker ∈ info.allMarkers, marker.name ∉ Vocabulary.scopeMarkers package

end ClassInfo

instance (package : String) (info : ClassInfo) : Decidable (info.IsStatic package) :=
  inferInstanceAs (Decidable (∀ marker ∈ info.allMarkers,
    marker.name ∉ Vocabulary.scopeMarkers package))

def TypeRegistry.IsStatic (package : String) (registry : TypeRegistry) : Prop :=
  ∀ info ∈ registry.classes, info.IsStatic package

instance (package : String) (registry : TypeRegistry) : Decidable (registry.IsStatic package) :=
  inferInstanceAs (Decidable (∀ info ∈ registry.classes, info.IsStatic package))

/-- A container builds all concrete extension types of a registry. -/
def ContainerInterface.BuildsAll (container : ContainerInterface) (registry : TypeRegistry) : Prop :=
  ∀ info ∈ registry.classes, info.isAbstract = false → container.isExtensionType info = true →
    ∃ extension, container.instantiate info = .ok extension

theorem MarkerUse.find?_eq_none {uses : List MarkerUse} {name : ClassName}
    (h : ∀ marker ∈ uses, marker.name ≠ name) : MarkerUse.find? uses name = none := by
  refine List.find?_eq_none.2 fun marker hmarker => ?_
  simpa using h marker hmarker

namespace ClassInfo.IsStatic
variable {package : String} {info : ClassInfo}

theorem marker?_eq_none (h : info.IsStatic package) {name : ClassName}
    (hname : name ∈ Vocabulary.scopeMarkers package) : info.marker? name = none := by
  refine MarkerUse.find?_eq_none fun marker hmarker hsame => ?_
  have hmem : marker ∈ info.allMarkers := by simp [allMarkers, hmarker]
  exact h marker hmem (hsame ▸ hname)

theorem field_hasMarker (h : info.IsStatic package) {field : FieldInfo} (hfield : field ∈ info.fields)
    {name : ClassName} (hname : name ∈ Vocabulary.scopeMarkers package) :
    field.hasMarker name = false := by
  have hnone : field.marker? name = none := by
    refine MarkerUse.find?_eq_none fun marker hmarker hsame => ?_
    have hmem : marker ∈ info.allMarkers := by
      simp only [allMarkers, List.mem_append, List.mem_flatMap]
      exact Or.inl (Or.inr ⟨field, hfield, hmarker⟩)
    exact h marker hmem (hsame ▸ hname)
  rw [FieldInfo.hasMarker, hnone]
  rfl

theorem method_hasMarker (h : info.IsStatic package) {method : MethodInfo}
    (hmethod : method ∈ info.methods) {name : ClassName}
    (hname : name ∈ Vocabulary.scopeMarkers package) : method.hasMarker name = false := by
  have hnone : method.marker? name = none := by
    refine MarkerUse.find?_eq_none fun marker hmarker hsame => ?_
    have hmem : marker ∈ info.allMarkers := by
      simp only [allMarkers, List.mem_append, List.mem_flatMap]
      exact Or.inr ⟨method, hmethod, hmarker⟩
    exact h marker hmem (hsame ▸ hname)
  rw [MethodInfo.hasMarker, hnone]
  rfl

theorem not_expands (h : info.IsStatic package) {registry : TypeRegistry} {memory : ScanCache}
    {name : ClassName} : ¬ info.Expands registry memory package name := by
  have harchives := h.marker?_eq_none (Vocabulary.additionalClasspaths_mem_scopeMarkers package)
  have hpackages := h.marker?_eq_none (Vocabulary.additionalPackages_mem_scopeMarkers package)
  rw [Plugin.expands_iff, harchives, hpackages]
  rintro (⟨marker, hmarker, -⟩ | ⟨marker, hmarker, -⟩)
  · cases hmarker
  · cases hmarker

end ClassInfo.IsStatic

/-! ## Steps that change no scope -/

/-- An offer, an activation or a registration. -/
def Action.IsStatic : Action → Prop
  | .offer _ | .activate _ _ | .register _ => True
  | .ignore _ | .offerPackage _ | .offerArchive _ => False

def HookStep.IsStatic : HookStep → Prop
  | .act action => action.IsStatic
  | .scanArchives _ | .scanPackages _ => False

namespace Context

/-- The second context inspects, leaves out and remembers what the first one does. -/
structure Keeps (earlier later : Context) : Prop where
  archiveRoots : later.archiveRoots = earlier.archiveRoots
  included : later.included = earlier.included
  ignored : later.findings.ignored = earlier.findings.ignored
  scans : later.scans = earlier.scans

theorem Keeps.refl (context : Context) : context.Keeps context := ⟨rfl, rfl, rfl, rfl⟩

theorem Keeps.trans {first second third : Context} (h : first.Keeps second)
    (h' : second.Keeps third) : first.Keeps third where
  archiveRoots := h'.archiveRoots.trans h.archiveRoots
  included := h'.included.trans h.included
  ignored := h'.ignored.trans h.ignored
  scans := h'.scans.trans h.scans

theorem keeps_enqueueAll (context : Context) (names : List ClassName) :
    context.Keeps (context.enqueueAll names) := by
  obtain ⟨worklist, graph, h⟩ := context.enqueueAll_changes names
  rw [h]
  exact ⟨rfl, rfl, rfl, rfl⟩

theorem keeps_take (context : Context) (env : Environment) {step : HookStep} (h : step.IsStatic) :
    context.Keeps (context.take env step) := by
  cases step with
  | act action =>
    cases action with
    | offer ref => exact keeps_enqueueAll context _
    | activate group ref => cases group <;> exact ⟨rfl, rfl, rfl, rfl⟩
    | register registration => exact ⟨rfl, rfl, rfl, rfl⟩
    | ignore ref => cases h
    | offerPackage ref => cases h
    | offerArchive ref => cases h
  | scanArchives bases => cases h
  | scanPackages bases => cases h

theorem keeps_takeAll (context : Context) (env : Environment) {steps : List HookStep}
    (h : ∀ step ∈ steps, step.IsStatic) : context.Keeps (context.takeAll env steps) := by
  induction steps generalizing context with
  | nil => exact .refl context
  | cons step steps ih =>
    obtain ⟨hstep, hsteps⟩ := List.forall_mem_cons.1 h
    exact (context.keeps_take env hstep).trans (ih (context.take env step) hsteps)

theorem keeps_turnTo (context : Context) (info : ClassInfo) : context.Keeps (context.turnTo info) := by
  rw [turnTo]
  split <;> exact ⟨rfl, rfl, rfl, rfl⟩

end Context

namespace Plugin
variable {env : Environment} {registry : TypeRegistry} {memory : ScanCache} {package : String}
  {info : ClassInfo}

/-- The plugin for the container's own notions changes no scope. -/
theorem isStatic_plan_standard (point : HookPoint) :
    ∀ step ∈ standard.plan env memory point, step.IsStatic := by
  intro step hstep
  cases point with
  | bootstrap test => exact (List.not_mem_nil hstep).elim
  | process info =>
    rw [plan_standard_process, List.mem_append] at hstep
    rcases hstep with hregister | hgroup
    · obtain ⟨registration, -, rfl⟩ := List.mem_map.1 hregister
      trivial
    · cases hverdict : (extensionContribution env info).verdict env.registry memory with
      | none =>
        rw [hverdict] at hgroup
        obtain ⟨group, -, rfl⟩ := List.mem_map.1 hgroup
        trivial
      | some error =>
        rw [hverdict] at hgroup
        exact (List.not_mem_nil hgroup).elim
  | field info field =>
    rw [plan_standard_field] at hstep
    split at hstep
    · obtain rfl := List.mem_singleton.1 hstep
      trivial
    · exact (List.not_mem_nil hstep).elim
  | method info method =>
    rw [plan_standard_method] at hstep
    split at hstep
    · obtain ⟨type, -, rfl⟩ := List.mem_map.1 hstep
      trivial
    · exact (List.not_mem_nil hstep).elim

theorem isStatic_activateAlternative {name : ClassName} {action : Action}
    (h : action ∈ activateAlternative registry name) : action.IsStatic := by
  rw [activateAlternative] at h
  rcases List.mem_cons.1 h with rfl | hactivate
  · trivial
  · split at hactivate
    · exact (List.not_mem_nil hactivate).elim
    · obtain rfl := List.mem_singleton.1 hactivate
      trivial

theorem isStatic_plan_testMarkers_process (h : info.IsStatic package) :
    ∀ step ∈ (testMarkers package).plan env memory (.process info), step.IsStatic := by
  have hignored := h.marker?_eq_none (Vocabulary.ignoredClasses_mem_scopeMarkers package)
  have harchives := h.marker?_eq_none (Vocabulary.additionalClasspaths_mem_scopeMarkers package)
  have hpackages := h.marker?_eq_none (Vocabulary.additionalPackages_mem_scopeMarkers package)
  intro step hstep
  rw [plan_testMarkers_process, hignored, harchives, hpackages, Option.toList_none, List.flatMap_nil,
    List.flatMap_nil, List.flatMap_nil, List.nil_append, List.nil_append, List.nil_append] at hstep
  simp only [List.mem_append] at hstep
  rcases hstep with hclasses | halternatives | hforeign | hsuperclass
  · obtain ⟨marker, -, hmem⟩ := List.mem_flatMap.1 hclasses
    obtain ⟨ref, -, rfl⟩ := List.mem_map.1 hmem
    trivial
  · obtain ⟨marker, -, hmem⟩ := List.mem_flatMap.1 halternatives
    obtain ⟨action, haction, rfl⟩ := List.mem_map.1 hmem
    obtain ⟨name, -, hname⟩ := List.mem_flatMap.1 haction
    exact isStatic_activateAlternative hname
  · obtain ⟨name, -, rfl⟩ := List.mem_map.1 hforeign
    trivial
  · obtain ⟨type, -, rfl⟩ := List.mem_map.1 hsuperclass
    trivial

/-- For a class without markers that change a scope, neither do the framework markers. -/
theorem isStatic_plan_testMarkers (h : info.IsStatic package) {point : HookPoint}
    (hpoint : point ∈ info.hookPoints) :
    ∀ step ∈ (testMarkers package).plan env memory point, step.IsStatic := by
  have hscope := Vocabulary.ignoredClasses_mem_scopeMarkers package
  rcases mem_hookPoints.1 hpoint with rfl | ⟨field, hfield, rfl⟩ | ⟨method, hmethod, rfl⟩
  · exact isStatic_plan_testMarkers_process h
  · intro step hstep
    rw [plan_testMarkers_field, h.field_hasMarker hfield hscope] at hstep
    exact (List.not_mem_nil hstep).elim
  · intro step hstep
    rw [plan_testMarkers_method, h.method_hasMarker hmethod hscope] at hstep
    exact (List.not_mem_nil hstep).elim

theorem isStatic_planAll (h : info.IsStatic package) :
    ∀ step ∈ planAll env memory [standard, testMarkers package] info.hookPoints,
      step.IsStatic := by
  intro step hstep
  obtain ⟨point, hpoint, plugin, hplugin, hmem⟩ := mem_planAll.1 hstep
  simp only [List.mem_cons, List.not_mem_nil, or_false] at hplugin
  rcases hplugin with rfl | rfl
  · exact isStatic_plan_standard point step hmem
  · exact isStatic_plan_testMarkers h hpoint step hmem

/-! ## Calls that do not fail -/

theorem verdict_extensionContribution (hbuilds : env.container.BuildsAll env.registry)
    (hinfo : info ∈ env.registry.classes) :
    (extensionContribution env info).verdict registry memory = none := by
  rw [extensionContribution]
  split
  · rfl
  next h =>
    simp only [Bool.or_eq_true, Bool.not_eq_true', not_or, Bool.not_eq_false,
      Bool.not_eq_true] at h
    obtain ⟨extension, hextension⟩ := hbuilds info hinfo h.1 h.2
    rw [hextension]
    rfl

/-- The plugins of this library do not fail for a class where the container builds all extensions. -/
theorem verdict_eq_none {plugins : List Plugin} (hbuiltIn : ∀ plugin ∈ plugins, plugin.IsBuiltIn)
    (hbuilds : env.container.BuildsAll env.registry) (hinfo : info ∈ env.registry.classes) :
    ∀ point ∈ info.hookPoints, ∀ plugin ∈ plugins, ∀ memory,
      (plugin.respond env point).verdict env.registry memory = none := by
  intro point hpoint plugin hplugin memory
  rcases (hbuiltIn plugin hplugin).verdict env point memory with hnone | ⟨other, rfl, hextension⟩
  · exact hnone
  · obtain rfl := process_mem_hookPoints.1 hpoint
    exact hextension.trans (verdict_extensionContribution hbuilds hinfo)

end Plugin

/-- The plugins of this library do not fail before the traversal. -/
theorem Run.failure_bootstrap {env : Environment} {scans : ScanCache} {plugins : List Plugin}
    (hbuiltIn : ∀ plugin ∈ plugins, plugin.IsBuiltIn) :
    ((start env scans plugins).callAll env
      [.bootstrap env.configuration.testClass]).failure = none := by
  have hstart : (start env scans plugins).Faithful env plugins :=
    ⟨rfl, Plugin.truthful_of_builtIn hbuiltIn env.registry⟩
  refine failure_callAll hstart (List.forall_mem_singleton.2 fun plugin hplugin memory => ?_) rfl
  rcases (hbuiltIn plugin hplugin).verdict env (.bootstrap env.configuration.testClass) memory with
    hnone | ⟨info, hsame, -⟩
  · exact hnone
  · cases hsame

/-! ## Runs -/

namespace Run
variable {env : Environment} {package : String} {run : Run}

/-- A run that has not failed, and whose context inspects and leaves out what it did at the beginning. -/
structure IsStatic (env : Environment) (package : String) (run : Run) : Prop where
  failure : run.failure = none
  faithful : run.Faithful env [.standard, .testMarkers package]
  keeps : (Context.start env {}).Keeps run.context

theorem isStatic_seeded (env : Environment) (package : String) :
    (seeded env {} [.standard, .testMarkers package]).IsStatic env package := by
  have htruthful := Plugin.truthful_standard_testMarkers env.registry package
  have hstart : (start env {} [.standard, .testMarkers package]).Faithful env
      [.standard, .testMarkers package] := ⟨rfl, htruthful⟩
  have hfailure : ((start env {} [.standard, .testMarkers package]).callAll env
      [.bootstrap env.configuration.testClass]).failure = none :=
    failure_bootstrap (Plugin.isBuiltIn_standard_testMarkers package)
  have hsteps := stepsAtAll_eq hstart hfailure (.refl _)
  have hcall : (Context.start env {}).Keeps ((start env {} [.standard, .testMarkers package]).callAll
      env [.bootstrap env.configuration.testClass]).context := by
    rw [context_callAll, hsteps]
    have hdiscover : (Context.start env {}).Keeps
        ((Context.start env {}).discover env.configuration.testClass) := ⟨rfl, rfl, rfl, rfl⟩
    exact hdiscover.trans (Context.keeps_enqueueAll _ [env.configuration.testClass])
  exact ⟨hfailure, faithful_seeded htruthful {}, hcall.trans (Context.keeps_enqueueAll _ _)⟩

section Static
variable (hstatic : env.registry.IsStatic package)
  (hbuilds : env.container.BuildsAll env.registry)
include hstatic hbuilds

theorem isStatic_visit (h : run.IsStatic env package) (candidate : ClassName) :
    (run.visit env candidate).IsStatic env package := by
  have hfaithful := h.faithful.visit candidate
  cases ht : run.context.target? env candidate with
  | none =>
    refine ⟨(failure_visit_of_skipped ht).trans h.failure, hfaithful, ?_⟩
    rw [context_visit_of_skipped ht]
    exact ⟨h.keeps.archiveRoots, h.keeps.included, h.keeps.ignored, h.keeps.scans⟩
  | some info =>
    have hinfo : info ∈ env.registry.classes :=
      TypeRegistry.mem_of_resolve (Context.resolve_of_target ht)
    have hturn := h.faithful.update (·.turnTo info)
    -- no call fails, so the plugins take the planned steps, and none of these changes a scope
    have hfailure := failure_callAll hturn (Plugin.verdict_eq_none
      (Plugin.isBuiltIn_standard_testMarkers package) hbuilds hinfo) h.failure
    have hsteps : run.inspectionSteps env info = _ := stepsAtAll_eq hturn hfailure (.refl _)
    have hquiet : ∀ step ∈ run.inspectionSteps env info, step.IsStatic := by
      rw [hsteps]
      exact Plugin.isStatic_planAll (hstatic info hinfo)
    have hkeeps := (h.keeps.trans (run.context.keeps_turnTo info)).trans
      ((run.context.turnTo info).keeps_takeAll env hquiet)
    refine ⟨(failure_visit_of_target ht).trans hfailure, hfaithful, ?_⟩
    rw [context_visit_of_target ht]
    exact ⟨hkeeps.archiveRoots, hkeeps.included, hkeeps.ignored, hkeeps.scans⟩

/-- A run over a static registry does not fail, and before every visit and at the end its context inspects
and leaves out what it did at the beginning. -/
theorem isStatic_complete :
    (complete env {} [.standard, .testMarkers package]).IsStatic env package ∧
      ∀ visit ∈ visits env {} [.standard, .testMarkers package],
        visit.before.IsStatic env package :=
  (visits_complete env {} [.standard, .testMarkers package]).invariant
    (fun _ candidate _ _ h => isStatic_visit hstatic hbuilds h candidate)
    (isStatic_seeded env package)

end Static

end Run
end BeanDiscovery
