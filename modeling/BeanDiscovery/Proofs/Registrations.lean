import BeanDiscovery.Proofs.TraversalCompleteness

/-!
# What a run switches on

Classes are switched on, and extensions registered, by steps that add to the end of a list, and nothing is
taken out again. Hence such a list holds at the end what the plugins planned before the traversal and then,
class by class, what they planned for the inspected classes. The main statements give these lists for the
plugins for the container's own notions and for the framework markers.
-/
namespace BeanDiscovery

namespace HookStep

/-- The classes that a step switches on in a group. -/
def activated (registry : TypeRegistry) (group : Activation) : HookStep → List ClassName
  | .act (.activate other ref) => if group = other then ref.identities registry else []
  | _ => []

/-- The extension that a step registers, if it registers one. -/
def registered : HookStep → List ExtensionRegistration
  | .act (.register registration) => [registration]
  | _ => []

theorem activated_record (registry : TypeRegistry) (step : HookStep) (findings : Findings)
    (group : Activation) :
    (step.record registry findings).activated group =
      findings.activated group ++ step.activated registry group := by
  cases step with
  | act action =>
    cases action with
    | activate other ref =>
      refine (findings.activated_activate other group _).trans ?_
      rw [activated]
      split
      · rfl
      · exact (List.append_nil _).symm
    | register registration => cases group <;> exact (List.append_nil _).symm
    | _ => exact (List.append_nil _).symm
  | _ => exact (List.append_nil _).symm

theorem extensions_record (registry : TypeRegistry) (step : HookStep) (findings : Findings) :
    (step.record registry findings).extensions = findings.extensions ++ step.registered := by
  cases step with
  | act action =>
    cases action with
    | activate group ref => cases group <;> exact (List.append_nil _).symm
    | register registration => rfl
    | _ => exact (List.append_nil _).symm
  | _ => exact (List.append_nil _).symm

end HookStep

/-! ## Lists that steps add to -/

/-- Steps only add to a list that is read off the findings, and neither the graph nor the discovered
classes have an influence on it. -/
structure Findings.Collects {α : Type} (env : Environment) (read : Findings → List α)
    (added : HookStep → List α) : Prop where
  initial : read {} = []
  take : ∀ (context : Context) step,
    read (context.take env step).findings = read context.findings ++ added step
  discover : ∀ findings name, read (findings.discover name) = read findings
  graph : ∀ findings graph, read { findings with graph } = read findings

namespace Findings.Collects
variable {α : Type} {env : Environment} {read : Findings → List α} {added : HookStep → List α}

theorem takeAll (h : Collects env read added) (context : Context) (steps : List HookStep) :
    read (context.takeAll env steps).findings = read context.findings ++ steps.flatMap added := by
  induction steps generalizing context with
  | nil => exact (List.append_nil _).symm
  | cons step steps ih =>
    rw [List.flatMap_cons, ← List.append_assoc, ← h.take]
    exact ih (context.take env step)

theorem enqueueAll (h : Collects env read added) (context : Context) (names : List ClassName) :
    read (context.enqueueAll names).findings = read context.findings := by
  obtain ⟨worklist, graph, hchanges⟩ := context.enqueueAll_changes names
  rw [hchanges]
  exact h.graph context.findings graph

theorem turnTo (h : Collects env read added) (context : Context) (info : ClassInfo) :
    read (context.turnTo info).findings = read context.findings := by
  rw [Context.turnTo]
  split
  · rfl
  · exact h.discover context.findings info.name

end Findings.Collects

namespace Context

theorem collects_activated (env : Environment) (group : Activation) :
    Findings.Collects env (·.activated group) (·.activated env.registry group) where
  initial := by cases group <;> rfl
  take := fun context step => by
    obtain ⟨ignored, graph, h⟩ := context.findings_take env step
    rw [h, ← HookStep.activated_record]
    cases group <;> rfl
  discover := fun _ _ => by cases group <;> rfl
  graph := fun _ _ => by cases group <;> rfl

theorem collects_extensions (env : Environment) :
    Findings.Collects env (·.extensions) (·.registered) where
  initial := rfl
  take := fun context step => by
    obtain ⟨ignored, graph, h⟩ := context.findings_take env step
    rw [h, ← HookStep.extensions_record env.registry]
  discover := fun _ _ => rfl
  graph := fun _ _ => rfl

end Context

namespace Run
variable {env : Environment} {scans : ScanCache} {plugins : List Plugin} {run final : Run}
  {α : Type} {read : Findings → List α} {added : HookStep → List α}

/-- From visit to visit a list grows by what the steps of the inspections add. -/
theorem Visits.collected (hcollects : Findings.Collects env read added) {visits : List Visit}
    (h : Visits env run visits final) :
    read final.context.findings = read run.context.findings ++
      (visits.filter fun visit => visit.isInspection env).flatMap fun visit =>
        (visit.before.context.target? env visit.candidate).toList.flatMap fun info =>
          (visit.before.inspectionSteps env info).flatMap added := by
  induction h with
  | stop h => exact (List.append_nil _).symm
  | @visit run candidate visits final hf hn rest ih =>
    cases ht : run.context.target? env candidate with
    | none =>
      have hskipped : ¬ Visit.isInspection env ⟨run, candidate⟩ = true := by
        simp [Visit.isInspection, ht]
      rw [ih, List.filter_cons_of_neg hskipped, context_visit_of_skipped ht]
      rfl
    | some info =>
      have hinspected : Visit.isInspection env ⟨run, candidate⟩ = true := by
        simp [Visit.isInspection, ht]
      have hvisit : read (run.visit env candidate).context.findings =
          read run.context.findings ++ (run.inspectionSteps env info).flatMap added := by
        rw [context_visit_of_target ht]
        exact (hcollects.takeAll _ _).trans (congrArg (· ++ _) (hcollects.turnTo _ _))
      rw [ih, hvisit, List.filter_cons_of_pos hinspected, List.flatMap_cons, ht, List.append_assoc]
      simp only [Option.toList_some, List.flatMap_cons, List.flatMap_nil, List.append_nil]

/-- At the end of a run that ends well a list holds what the plugins planned to add before the traversal
and for the inspected classes. -/
theorem collected_complete (hcollects : Findings.Collects env read added)
    (h : ∀ plugin ∈ plugins, plugin.Truthful env.registry)
    (hf : (complete env scans plugins).failure = none) :
    read (complete env scans plugins).context.findings =
      (Plugin.planAll env (complete env scans plugins).context.scans plugins
        [.bootstrap env.configuration.testClass]).flatMap added ++
      (complete env scans plugins).trail.inspected.flatMap fun name =>
        (env.registry.resolve name).toList.flatMap fun info =>
          (Plugin.planAll env (complete env scans plugins).context.scans plugins
            info.hookPoints).flatMap added := by
  have hseeded : read (seeded env scans plugins).context.findings =
      (Plugin.planAll env (complete env scans plugins).context.scans plugins
        [.bootstrap env.configuration.testClass]).flatMap added := by
    have hcall : read ((start env scans plugins).callAll env
        [.bootstrap env.configuration.testClass]).context.findings =
          read (start env scans plugins).context.findings ++
            ((start env scans plugins).stepsAtAll env
              [.bootstrap env.configuration.testClass]).flatMap added := by
      rw [context_callAll]
      exact hcollects.takeAll _ _
    have hstart : read (start env scans plugins).context.findings = [] :=
      (hcollects.enqueueAll ((Context.start env scans).discover env.configuration.testClass)
        [env.configuration.testClass]).trans ((hcollects.discover {} _).trans hcollects.initial)
    rw [hstart, List.nil_append, bootstrapSteps_eq h hf] at hcall
    exact (hcollects.enqueueAll _ _).trans hcall
  rw [(visits_complete env scans plugins).collected hcollects, hseeded, inspected_complete,
    List.flatMap_map]
  refine congrArg _ (List.flatMap_congr fun visit hvisit => ?_)
  obtain ⟨hmem, hinspection⟩ := List.mem_filter.1 hvisit
  obtain ⟨info, ht⟩ := Option.isSome_iff_exists.1 hinspection
  rw [ht, Context.resolve_of_target ht, Option.toList_some, List.flatMap_singleton,
    List.flatMap_singleton, inspectionSteps_eq h hf hmem ht]

end Run

/-! ## What a class switches on -/

namespace ClassInfo

/-- The alternatives that a class names, except for stereotypes, which cannot be switched on like this. Of
several uses of the marker the first one counts. -/
def namedAlternatives (registry : TypeRegistry) (package : String) (info : ClassInfo) :
    List ClassName :=
  (info.marker? (Vocabulary.relocated Vocabulary.activatedAlternatives package)).toList.flatMap
    fun marker => marker.value.filter fun name =>
      !(registry.resolve name).any (·.isAlternativeStereotype)

/-- The classes that a class switches on in a group: alternatives by name, otherwise itself if its markers
put it in the group. -/
def switchesOn (registry : TypeRegistry) (package : String) (info : ClassInfo) :
    Activation → List ClassName
  | .alternative => info.namedAlternatives registry package
  | .interceptor => if info.hasMarker Vocabulary.interceptor then [info.name] else []
  | .decorator => if info.hasMarker Vocabulary.decorator then [info.name] else []
  | .alternativeStereotype => if info.isAlternativeStereotype then [info.name] else []

end ClassInfo

namespace Plugin
variable {env : Environment} {registry : TypeRegistry} {memory : ScanCache} {package : String}
  {info : ClassInfo} {α : Type} {added : HookStep → List α}

/-- Offers, exclusions and scans add nothing. -/
structure IsRecord (added : HookStep → List α) : Prop where
  offer : ∀ ref, added (.act (.offer ref)) = []
  ignore : ∀ ref, added (.act (.ignore ref)) = []
  archives : ∀ bases, added (.scanArchives bases) = []
  packages : ∀ bases, added (.scanPackages bases) = []

theorem isRecord_activated (registry : TypeRegistry) (group : Activation) :
    IsRecord (HookStep.activated registry group) :=
  ⟨fun _ => rfl, fun _ => rfl, fun _ => rfl, fun _ => rfl⟩

theorem isRecord_registered : IsRecord HookStep.registered :=
  ⟨fun _ => rfl, fun _ => rfl, fun _ => rfl, fun _ => rfl⟩

theorem flatMap_standard_process (h : (extensionContribution env info).verdict env.registry memory =
      none) (added : HookStep → List α) :
    (standard.plan env memory (.process info)).flatMap added =
      ((info.registrations env.container).flatMap fun registration =>
        added (.act (.register registration))) ++
      (activationsOf info).flatMap fun group =>
        added (.act (.activate group (.ofClass info.name))) := by
  rw [plan_standard_process, h, Option.elim_none, List.flatMap_append, List.flatMap_map,
    List.flatMap_map]

theorem flatMap_activateAlternatives (hadded : IsRecord added) (registry : TypeRegistry)
    (names : List ClassName) :
    (names.flatMap (activateAlternative registry)).flatMap (fun action => added (.act action)) =
      (names.filter fun name => !(registry.resolve name).any (·.isAlternativeStereotype)).flatMap
        fun name => added (.act (.activate .alternative (.ofClass name))) := by
  induction names with
  | nil => rfl
  | cons name names ih =>
    rw [List.flatMap_cons, List.flatMap_append, ih, List.filter_cons, activateAlternative]
    cases (registry.resolve name).any (·.isAlternativeStereotype) <;> simp [hadded.offer]

theorem flatMap_offers (hadded : IsRecord added) (names : List ClassName) :
    ((Contribution.offers names).plan registry memory).flatMap added = [] := by
  rw [Contribution.offers, flatMap_plan_actions, List.flatMap_map]
  exact List.flatMap_eq_nil_iff.2 fun name _ => hadded.offer (.ofClass name)

theorem flatMap_scanArchives (hadded : IsRecord added) (bases : List ClassName) :
    ((Contribution.scanArchives bases .offers).plan registry memory).flatMap added = [] := by
  rw [Contribution.plan, List.flatMap_cons, hadded.archives, List.nil_append]
  exact flatMap_offers hadded _

theorem flatMap_scanPackages (hadded : IsRecord added) (bases : List ClassName) :
    ((Contribution.scanPackages bases .offers).plan registry memory).flatMap added = [] := by
  rw [Contribution.plan, List.flatMap_cons, hadded.packages, List.nil_append]
  exact flatMap_offers hadded _

theorem flatMap_testMarkers_process (hadded : IsRecord added) :
    ((testMarkers package).plan env memory (.process info)).flatMap added =
      (info.namedAlternatives env.registry package).flatMap fun name =>
        added (.act (.activate .alternative (.ofClass name))) := by
  have hnil : ∀ (β : Type) (items : List β), items.flatMap (fun _ => ([] : List α)) = [] :=
    fun _ _ => List.flatMap_eq_nil_iff.2 fun _ _ => rfl
  rw [plan_testMarkers_process, ClassInfo.namedAlternatives]
  simp only [List.flatMap_append, List.flatMap_assoc, List.flatMap_map, hadded.offer, hadded.ignore,
    flatMap_activateAlternatives hadded, flatMap_scanArchives hadded, flatMap_scanPackages hadded,
    hnil, List.append_nil, List.nil_append]

/-- At a member the two plugins only offer classes and leave classes out. -/
theorem flatMap_plan_member (hadded : IsRecord added) {point : HookPoint}
    (h : ∀ info, point ≠ .process info) :
    [standard, testMarkers package].flatMap (fun plugin =>
      (plugin.plan env memory point).flatMap added) = [] := by
  rw [List.flatMap_cons, List.flatMap_singleton]
  cases point with
  | bootstrap test => rfl
  | process info => exact absurd rfl (h info)
  | field info field =>
    rw [plan_standard_field, plan_testMarkers_field]
    split <;> split <;> simp [hadded.offer, hadded.ignore]
  | method info method =>
    rw [plan_standard_method, plan_testMarkers_method]
    split <;> split <;> simp [hadded.offer, hadded.ignore]

/-- What the two plugins plan to record for a class: its registrations, the groups it is in, and the
alternatives it names. -/
theorem flatMap_planAll (hadded : IsRecord added)
    (h : (extensionContribution env info).verdict env.registry memory = none) :
    (planAll env memory [standard, testMarkers package] info.hookPoints).flatMap added =
      ((info.registrations env.container).flatMap fun registration =>
        added (.act (.register registration))) ++
      ((activationsOf info).flatMap fun group =>
        added (.act (.activate group (.ofClass info.name)))) ++
      (info.namedAlternatives env.registry package).flatMap fun name =>
        added (.act (.activate .alternative (.ofClass name))) := by
  have hmembers : (info.fields.map (HookPoint.field info) ++
      info.methods.map (HookPoint.method info)).flatMap
        (fun point => [standard, testMarkers package].flatMap fun plugin =>
          (plugin.plan env memory point).flatMap added) = [] := by
    refine List.flatMap_eq_nil_iff.2 fun point hpoint => flatMap_plan_member hadded fun other => ?_
    rintro rfl
    simp at hpoint
  rw [planAll, ClassInfo.hookPoints]
  simp only [List.flatMap_assoc]
  rw [List.flatMap_cons, hmembers, List.append_nil, List.flatMap_cons, List.flatMap_singleton,
    flatMap_standard_process h, flatMap_testMarkers_process hadded]

theorem flatMap_activationsOf (info : ClassInfo) (f : Activation → List α) :
    (activationsOf info).flatMap f =
      (if info.hasMarker Vocabulary.interceptor then f .interceptor else []) ++
      (if info.hasMarker Vocabulary.decorator then f .decorator else []) ++
      (if info.isAlternativeStereotype then f .alternativeStereotype else []) := by
  have hsingle : ∀ (condition : Bool) (group : Activation),
      (if condition then [group] else []).flatMap f = if condition then f group else [] :=
    fun condition group => by cases condition <;> simp
  rw [activationsOf, List.flatMap_append, List.flatMap_append, hsingle, hsingle, hsingle]

/-- The two plugins plan to switch on what a class switches on, in this order. -/
theorem activated_planAll
    (h : (extensionContribution env info).verdict env.registry memory = none)
    (group : Activation) :
    (planAll env memory [standard, testMarkers package] info.hookPoints).flatMap
        (·.activated env.registry group) = info.switchesOn env.registry package group := by
  have hregistrations : ((info.registrations env.container).flatMap fun registration =>
      (HookStep.act (.register registration)).activated env.registry group) = [] :=
    List.flatMap_eq_nil_iff.2 fun _ _ => rfl
  refine (flatMap_planAll (isRecord_activated env.registry group) h).trans ?_
  rw [hregistrations, List.nil_append, flatMap_activationsOf]
  cases group with
  | alternative => simp [HookStep.activated, ClassRef.identities, ClassInfo.switchesOn]
  | interceptor => simp [HookStep.activated, ClassRef.identities, ClassInfo.switchesOn]
  | decorator => simp [HookStep.activated, ClassRef.identities, ClassInfo.switchesOn]
  | alternativeStereotype => simp [HookStep.activated, ClassRef.identities, ClassInfo.switchesOn]

/-- The two plugins plan to register what the container makes of a class. -/
theorem registered_planAll
    (h : (extensionContribution env info).verdict env.registry memory = none) :
    (planAll env memory [standard, testMarkers package] info.hookPoints).flatMap (·.registered) =
      info.registrations env.container := by
  refine (flatMap_planAll isRecord_registered h).trans ?_
  simp [HookStep.registered]

end Plugin

namespace Run
variable {env : Environment} {scans : ScanCache} {package : String}

/-- In a run that ends well, an inspected class was built if it had to be. -/
theorem verdict_extensionContribution_of_inspected {plugins : List Plugin}
    (h : ∀ plugin ∈ plugins, plugin.Truthful env.registry) (hstandard : Plugin.standard ∈ plugins)
    (hf : (complete env scans plugins).failure = none) {name : ClassName}
    (hname : name ∈ (complete env scans plugins).trail.inspected)
    {info : ClassInfo} (hinfo : env.registry.resolve name = some info) :
    (Plugin.extensionContribution env info).verdict env.registry
      (complete env scans plugins).context.scans = none := by
  obtain ⟨visit, hvisit, rfl, other, ht⟩ := mem_inspected.1 hname
  cases hinfo.symm.trans (Context.resolve_of_target ht)
  have hverdict := verdict_of_visit h hf hvisit ht (.process info)
    (Plugin.mem_hookPoints.2 (Or.inl rfl)) .standard hstandard
  rwa [Plugin.verdict_standard_process] at hverdict

/-- A run of the two plugins that ends well switches on what its inspected classes switch on, in the order
of inspection. -/
theorem activated_complete (hf : (complete env scans [.standard, .testMarkers package]).failure = none)
    (group : Activation) :
    (complete env scans [.standard, .testMarkers package]).context.findings.activated group =
      (complete env scans [.standard, .testMarkers package]).trail.inspected.flatMap fun name =>
        (env.registry.resolve name).toList.flatMap fun info =>
          info.switchesOn env.registry package group := by
  refine (collected_complete (Context.collects_activated env group)
    (Plugin.truthful_standard_testMarkers env.registry package) hf).trans ?_
  refine List.flatMap_congr fun name hname => List.flatMap_congr fun info hinfo => ?_
  exact Plugin.activated_planAll (verdict_extensionContribution_of_inspected
    (Plugin.truthful_standard_testMarkers env.registry package) List.mem_cons_self hf hname
    (Option.mem_toList.1 hinfo)) group

theorem extensions_complete
    (hf : (complete env scans [.standard, .testMarkers package]).failure = none) :
    (complete env scans [.standard, .testMarkers package]).context.findings.extensions =
      (complete env scans [.standard, .testMarkers package]).trail.inspected.flatMap fun name =>
        (env.registry.resolve name).toList.flatMap fun info =>
          info.registrations env.container := by
  refine (collected_complete (Context.collects_extensions env)
    (Plugin.truthful_standard_testMarkers env.registry package) hf).trans ?_
  refine List.flatMap_congr fun name hname => List.flatMap_congr fun info hinfo => ?_
  exact Plugin.registered_planAll (verdict_extensionContribution_of_inspected
    (Plugin.truthful_standard_testMarkers env.registry package) List.mem_cons_self hf hname
    (Option.mem_toList.1 hinfo))

end Run
end BeanDiscovery
