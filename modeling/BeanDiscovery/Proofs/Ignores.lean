import BeanDiscovery.Proofs.Counters
import BeanDiscovery.Proofs.VisitSteps

/-!
# Names that are left out

Plugins may leave a name out of the deployment before the traversal and during any visit. The context
gathers these names, so that the names left out at some moment are those of the steps taken up to it. The
main statements say that a name which is left out before its visit is never inspected: no plugin is called
for it, and the graph has no edge that leads from it.
-/
namespace BeanDiscovery

/-- The names that a step leaves out. -/
def HookStep.ignored (registry : TypeRegistry) : HookStep → List ClassName
  | .act (.ignore ref) => ref.identities registry
  | _ => []

/-- The steps that the plugins take during a visit. -/
def Visit.steps (env : Environment) (visit : Visit) : List HookStep :=
  (visit.before.context.target? env visit.candidate).toList.flatMap
    (visit.before.inspectionSteps env)

namespace Context
variable {env : Environment} {name : ClassName}

theorem ignored_enqueueAll (context : Context) (names : List ClassName) :
    (context.enqueueAll names).findings.ignored = context.findings.ignored := by
  obtain ⟨worklist, graph, h⟩ := context.enqueueAll_changes names
  rw [h]

theorem ignored_scanArchives (context : Context) (env : Environment) (bases : List ClassName) :
    (context.scanArchives env bases).2.findings.ignored = context.findings.ignored := by
  obtain ⟨roots, scans, h⟩ := context.scanArchives_changes env bases
  rw [h]

theorem ignored_scanPackages (context : Context) (env : Environment) (bases : List ClassName) :
    (context.scanPackages env bases).2.findings.ignored = context.findings.ignored := by
  obtain ⟨included, scans, h⟩ := context.scanPackages_changes env bases
  rw [h]

theorem mem_ignored_take {context : Context} {step : HookStep} :
    name ∈ (context.take env step).findings.ignored ↔
      name ∈ context.findings.ignored ∨ name ∈ step.ignored env.registry := by
  have hnothing : name ∈ context.findings.ignored ↔
      name ∈ context.findings.ignored ∨ name ∈ ([] : List ClassName) := by simp
  cases step with
  | act action =>
    cases action with
    | offer ref =>
      rw [take, perform, ignored_enqueueAll]
      exact hnothing
    | offerPackage ref =>
      rw [take, perform, ignored_enqueueAll, ignored_scanPackages]
      exact hnothing
    | offerArchive ref =>
      rw [take, perform, ignored_enqueueAll, ignored_scanArchives]
      exact hnothing
    | ignore ref => exact OrderedSet.mem_insertAll
    | activate group ref => cases group <;> exact hnothing
    | register registration => exact hnothing
  | scanArchives bases =>
    rw [take, ignored_scanArchives]
    exact hnothing
  | scanPackages bases =>
    rw [take, ignored_scanPackages]
    exact hnothing

theorem mem_ignored_takeAll {context : Context} {steps : List HookStep} :
    name ∈ (context.takeAll env steps).findings.ignored ↔
      name ∈ context.findings.ignored ∨ name ∈ steps.flatMap (·.ignored env.registry) := by
  induction steps generalizing context with
  | nil => simp [takeAll]
  | cons step steps ih =>
    rw [List.flatMap_cons, List.mem_append, ← or_assoc, ← mem_ignored_take]
    exact ih

theorem ignored_turnTo (context : Context) (info : ClassInfo) :
    (context.turnTo info).findings.ignored = context.findings.ignored := by
  rw [turnTo]
  split <;> rfl

end Context

namespace Run
variable {env : Environment} {scans : ScanCache} {plugins : List Plugin} {run final : Run}
  {candidate name : ClassName}

/-- The names that are left out before the traversal and during some visits. -/
def ignoredDuring (env : Environment) (scans : ScanCache) (plugins : List Plugin)
    (earlier : List Visit) : List ClassName :=
  ((start env scans plugins).steps env (.bootstrap env.configuration.testClass) ++
    earlier.flatMap (Visit.steps env)).flatMap (·.ignored env.registry)

/-- Whenever the name is taken off the worklist, it was left out before. -/
def IgnoredInTime (env : Environment) (scans : ScanCache) (plugins : List Plugin)
    (name : ClassName) : Prop :=
  ∀ first visit rest, visits env scans plugins = first ++ visit :: rest → visit.candidate = name →
    name ∈ ignoredDuring env scans plugins first

/-! ## What is left out at a moment of a run -/

theorem mem_ignored_visit :
    name ∈ (run.visit env candidate).context.findings.ignored ↔
      name ∈ run.context.findings.ignored ∨
        name ∈ (Visit.steps env ⟨run, candidate⟩).flatMap (·.ignored env.registry) := by
  cases h : run.context.target? env candidate with
  | none => simp [Visit.steps, h, context_visit_of_skipped h, Context.settle]
  | some info =>
    have hsteps : Visit.steps env ⟨run, candidate⟩ = run.inspectionSteps env info := by
      simp [Visit.steps, h]
    rw [hsteps, context_visit_of_target h, ← Context.ignored_turnTo run.context info]
    exact Context.mem_ignored_takeAll

theorem mem_ignored_seeded :
    name ∈ (seeded env scans plugins).context.findings.ignored ↔
      name ∈ ignoredDuring env scans plugins [] := by
  have hcall := context_call (start env scans plugins) env (.bootstrap env.configuration.testClass)
  have hfresh : (start env scans plugins).context.findings.ignored = .empty :=
    Context.ignored_enqueueAll ((Context.start env scans).discover env.configuration.testClass)
      [env.configuration.testClass]
  have hseeded : (seeded env scans plugins).context.findings.ignored =
      ((start env scans plugins).call env
        (.bootstrap env.configuration.testClass)).context.findings.ignored :=
    Context.ignored_enqueueAll _ _
  rw [hseeded, hcall, Context.mem_ignored_takeAll, hfresh, ignoredDuring, List.flatMap_nil,
    List.append_nil]
  simp [OrderedSet.mem_def]

/-- Before a visit the names are left out that its run and the visits up to it leave out. -/
theorem Visits.mem_ignored_before {first rest : List Visit} {visit : Visit}
    (h : Visits env run (first ++ visit :: rest) final) :
    name ∈ visit.before.context.findings.ignored ↔
      name ∈ run.context.findings.ignored ∨
        name ∈ (first.flatMap (Visit.steps env)).flatMap (·.ignored env.registry) := by
  induction first generalizing run with
  | nil =>
    cases h with
    | visit hf hn hrest => simp
  | cons other first ih =>
    cases h with
    | visit hf hn hrest =>
      rw [ih hrest, mem_ignored_visit, List.flatMap_cons, List.flatMap_append, List.mem_append,
        or_assoc]

theorem Visits.mem_ignored_final {visits : List Visit} (h : Visits env run visits final) :
    name ∈ final.context.findings.ignored ↔
      name ∈ run.context.findings.ignored ∨
        name ∈ (visits.flatMap (Visit.steps env)).flatMap (·.ignored env.registry) := by
  induction h with
  | stop h => simp
  | visit hf hn rest ih =>
    rw [ih, mem_ignored_visit, List.flatMap_cons, List.flatMap_append, List.mem_append, or_assoc]

theorem mem_ignoredDuring {earlier : List Visit} :
    name ∈ ignoredDuring env scans plugins earlier ↔
      name ∈ (seeded env scans plugins).context.findings.ignored ∨
        name ∈ (earlier.flatMap (Visit.steps env)).flatMap (·.ignored env.registry) := by
  rw [mem_ignored_seeded, ignoredDuring, ignoredDuring, List.flatMap_nil, List.append_nil,
    List.flatMap_append, List.mem_append]

theorem mem_ignored_before {first rest : List Visit} {visit : Visit}
    (h : visits env scans plugins = first ++ visit :: rest) :
    name ∈ visit.before.context.findings.ignored ↔
      name ∈ ignoredDuring env scans plugins first := by
  have hvisits := visits_complete env scans plugins
  rw [h] at hvisits
  rw [hvisits.mem_ignored_before, mem_ignoredDuring]

theorem mem_ignored_complete :
    name ∈ (complete env scans plugins).context.findings.ignored ↔
      name ∈ ignoredDuring env scans plugins (visits env scans plugins) := by
  rw [(visits_complete env scans plugins).mem_ignored_final, mem_ignoredDuring]

theorem ignoredInTime_iff :
    IgnoredInTime env scans plugins name ↔
      ∀ visit ∈ visits env scans plugins, visit.candidate = name →
        name ∈ visit.before.context.findings.ignored := by
  constructor
  · intro h visit hvisit hcandidate
    obtain ⟨first, rest, hsplit⟩ := List.append_of_mem hvisit
    exact (mem_ignored_before hsplit).2 (h first visit rest hsplit hcandidate)
  · intro h first visit rest hsplit hcandidate
    have hvisit : visit ∈ visits env scans plugins := by simp [hsplit]
    exact (mem_ignored_before hsplit).1 (h visit hvisit hcandidate)

/-! ## Names that are left out in time -/

/-- A name that is left out is not inspected. -/
theorem target?_of_ignored {visit : Visit}
    (h : visit.candidate ∈ visit.before.context.findings.ignored) :
    visit.before.context.target? env visit.candidate = none := by
  have hignored : visit.before.context.isIgnored visit.candidate = true := decide_eq_true h
  rw [Context.target?, if_pos hignored]

theorem notMem_inspected (h : IgnoredInTime env scans plugins name) :
    name ∉ (complete env scans plugins).trail.inspected := by
  intro hmem
  rw [trail_complete] at hmem
  obtain ⟨visit, hvisit, hcandidate⟩ := List.mem_map.1 hmem
  obtain ⟨hvisit, hinspection⟩ := List.mem_filter.1 hvisit
  have hignored := ignoredInTime_iff.1 h visit hvisit hcandidate
  rw [← hcandidate] at hignored
  rw [Visit.isInspection, target?_of_ignored hignored] at hinspection
  cases hinspection

/-- All edges lead from inspected names. -/
theorem mem_inspected_of_edge {source target : ClassName}
    (h : (source, target) ∈ (complete env scans plugins).context.findings.graph.edges) :
    source ∈ (complete env scans plugins).trail.inspected := by
  have hfirst := (recorded_complete env scans plugins).mem_edges.1 h
  have hoffer := List.mem_of_find?_eq_some (Offer.find?_eq_some_iff_mem_firsts.2 hfirst)
  rw [trail_complete]
  rcases List.mem_append.1 hoffer with hseed | hvisits
  · obtain ⟨other, -, heq⟩ := List.mem_map.1 hseed
    cases heq
  · obtain ⟨visit, hvisit, hmem⟩ := List.mem_flatMap.1 hvisits
    obtain ⟨other, hother, heq⟩ := List.mem_map.1 hmem
    cases heq
    refine List.mem_map.2 ⟨visit, List.mem_filter.2 ⟨hvisit, ?_⟩, rfl⟩
    cases ht : visit.before.context.target? env visit.candidate with
    | none =>
      rw [offersAt_of_skipped ht] at hother
      cases hother
    | some info => simp [Visit.isInspection, ht]

/-! ## The account -/

/-- A call adds the entry of its hook point, and answers. -/
theorem account_call {point called : HookPoint} {position : Nat} {plugin : Plugin}
    {progress : Progress} {entry : Entry} (hentry : entry.event = .called called)
    (h : entry ∈ (plugin.call env point position progress).2.account) :
    entry ∈ progress.account ∨ called = point := by
  unfold Plugin.call at h
  split at h
  · exact Or.inl h
  · rcases List.mem_append.1 h with hanswer | hrest
    · obtain ⟨answer, -, rfl⟩ := List.mem_map.1 (List.mem_reverse.1 hanswer)
      cases hentry
    · rcases List.mem_cons.1 hrest with rfl | hold
      · exact Or.inr (Event.called.inj hentry).symm
      · exact Or.inl hold

theorem account_callEach {point called : HookPoint} {position : Nat} {list : List Plugin}
    {progress : Progress} {entry : Entry} (hentry : entry.event = .called called)
    (h : entry ∈ (Plugin.callEach env point position list progress).2.account) :
    entry ∈ progress.account ∨ called = point := by
  induction list generalizing position progress with
  | nil => exact Or.inl h
  | cons plugin list ih =>
    rcases ih h with hcall | hpoint
    · exact account_call hentry hcall
    · exact Or.inr hpoint

theorem account_callAll {called : HookPoint} {points : List HookPoint} {entry : Entry}
    (hentry : entry.event = .called called)
    (h : entry ∈ (run.callAll env points).progress.account) :
    entry ∈ run.progress.account ∨ called ∈ points := by
  induction points generalizing run with
  | nil => exact Or.inl h
  | cons point points ih =>
    rcases ih h with hcall | hrest
    · rcases account_callEach hentry hcall with hold | rfl
      · exact Or.inl hold
      · exact Or.inr List.mem_cons_self
    · exact Or.inr (List.mem_cons_of_mem _ hrest)

theorem subject_of_mem_hookPoints {info : ClassInfo} {point : HookPoint}
    (h : point ∈ info.hookPoints) : point.subject = info.name := by
  rcases List.mem_cons.1 h with rfl | h
  · rfl
  · rcases List.mem_append.1 h with h | h
    · obtain ⟨field, -, rfl⟩ := List.mem_map.1 h
      rfl
    · obtain ⟨method, -, rfl⟩ := List.mem_map.1 h
      rfl

/-- Plugins are called for inspected names alone, but for the call before the traversal. -/
def CallsInspected (run : Run) : Prop :=
  ∀ entry ∈ run.progress.account, ∀ point, entry.event = .called point →
    point.stage ≠ .bootstrap → point.subject ∈ run.trail.inspected

theorem callsInspected_visit (h : run.CallsInspected) (env : Environment) (candidate : ClassName) :
    (run.visit env candidate).CallsInspected := by
  intro entry hentry point hpoint hstage
  cases ht : run.context.target? env candidate with
  | none =>
    rw [visit_of_skipped ht] at hentry
    rw [trail_visit_of_skipped ht]
    exact h entry hentry point hpoint hstage
  | some info =>
    rw [visit_of_target ht] at hentry
    rw [trail_visit_of_target ht]
    have hcalls : entry ∈
        ((run.update (·.turnTo info)).callAll env info.hookPoints).progress.account := hentry
    rcases account_callAll hpoint hcalls with hold | hnew
    · exact List.mem_append_left _ (h entry hold point hpoint hstage)
    · rw [subject_of_mem_hookPoints hnew, Context.name_of_target ht]
      exact List.mem_append_right _ (List.mem_singleton_self candidate)

theorem callsInspected_complete (env : Environment) (scans : ScanCache) (plugins : List Plugin) :
    (complete env scans plugins).CallsInspected := by
  have hseeded : (seeded env scans plugins).CallsInspected := by
    intro entry hentry point hpoint hstage
    rcases account_callEach hpoint hentry with hold | rfl
    · exact (List.not_mem_nil hold).elim
    · exact absurd rfl hstage
  exact ((visits_complete env scans plugins).invariant (P := CallsInspected)
    (fun _ candidate _ _ h => callsInspected_visit h env candidate) hseeded).1

end Run
end BeanDiscovery
