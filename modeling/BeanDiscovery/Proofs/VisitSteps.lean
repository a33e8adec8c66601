import BeanDiscovery.Proofs.PluginPlans
import BeanDiscovery.Proofs.Visits

/-!
# The steps of a whole run

What holds of a run at its beginning and is kept by every visit holds before every visit and at the end.
The main statements say that the context grows from visit to visit and that a run which ends well takes in
every visit the steps its plugins planned.
-/
namespace BeanDiscovery

namespace Context

theorem grows_turnTo (context : Context) (info : ClassInfo) :
    context.Grows (context.turnTo info) := by
  rw [turnTo]
  split <;> exact ⟨fun _ => id, fun _ => id, fun _ => id, .refl _⟩

end Context

namespace Run
variable {env : Environment} {scans : ScanCache} {plugins : List Plugin} {run final : Run}
  {candidate : ClassName} {info : ClassInfo}

theorem grows_inspect (run : Run) (env : Environment) (info : ClassInfo) :
    run.context.Grows (run.inspect env info).context := by
  rw [context_inspect]
  have hturn := run.context.grows_turnTo info
  have htake := (run.context.turnTo info).grows_takeAll env (run.inspectionSteps env info)
  have hgrows := hturn.trans htake
  exact ⟨hgrows.archiveRoots, hgrows.included, hgrows.ignored, hgrows.scans⟩

theorem grows_visit (run : Run) (env : Environment) (candidate : ClassName) :
    run.context.Grows (run.visit env candidate).context := by
  cases h : run.context.target? env candidate with
  | none =>
    rw [context_visit_of_skipped h]
    exact ⟨fun _ => id, fun _ => id, fun _ => id, .refl _⟩
  | some info =>
    have hgrows := run.grows_inspect env info
    rw [context_inspect] at hgrows
    rw [context_visit_of_target h]
    exact ⟨hgrows.archiveRoots, hgrows.included, hgrows.ignored, hgrows.scans⟩

theorem visit_of_target (h : run.context.target? env candidate = some info) :
    run.visit env candidate =
      { run.inspect env info with
        trail :=
          { run.trail with
            taken := run.trail.taken ++ [candidate]
            inspected := run.trail.inspected ++ [candidate] } }.update (·.settle candidate) := by
  simp only [visit, h]

theorem visit_of_skipped (h : run.context.target? env candidate = none) :
    run.visit env candidate =
      { run with
        trail :=
          { run.trail with
            taken := run.trail.taken ++ [candidate]
            skipped := run.trail.skipped ++ [candidate] } }.update (·.settle candidate) := by
  simp only [visit, h]

theorem failure_visit_of_target (h : run.context.target? env candidate = some info) :
    (run.visit env candidate).failure =
      ((run.update (·.turnTo info)).callAll env info.hookPoints).failure := by
  simp only [visit, h]
  rfl

theorem failure_visit_of_skipped (h : run.context.target? env candidate = none) :
    (run.visit env candidate).failure = run.failure := by
  simp only [visit, h]
  rfl

/-! ## From visit to visit -/

/-- What every visit keeps holds before each visit and at the end. -/
theorem Visits.invariant {P : Run → Prop} {visits : List Visit} (h : Visits env run visits final)
    (hvisit : ∀ run candidate, run.failure = none → run.worklist.next? = some candidate → P run →
      P (run.visit env candidate))
    (hrun : P run) : P final ∧ ∀ visit ∈ visits, P visit.before := by
  induction h with
  | stop h => exact ⟨hrun, fun _ hmem => (List.not_mem_nil hmem).elim⟩
  | visit hf hn rest ih =>
    obtain ⟨hfinal, hbefore⟩ := ih (hvisit _ _ hf hn hrun)
    exact ⟨hfinal, List.forall_mem_cons.2 ⟨hrun, hbefore⟩⟩

/-- What every call keeps of the plugins is kept at one hook point after the other. -/
theorem plugins_callAll {P : List Plugin → Prop}
    (hcall : ∀ (run : Run) (point : HookPoint), P run.plugins → P (run.call env point).plugins)
    (h : P run.plugins) (points : List HookPoint) : P (run.callAll env points).plugins := by
  induction points generalizing run with
  | nil => exact h
  | cons point points ih => exact ih (hcall run point h)

theorem plugins_visit {P : List Plugin → Prop}
    (hcall : ∀ (run : Run) (point : HookPoint), P run.plugins → P (run.call env point).plugins)
    (h : P run.plugins) (candidate : ClassName) : P (run.visit env candidate).plugins := by
  cases ht : run.context.target? env candidate with
  | none =>
    rw [visit_of_skipped ht]
    exact h
  | some info =>
    have hturned : P (run.update (·.turnTo info)).plugins := h
    rw [visit_of_target ht]
    exact plugins_callAll hcall hturned info.hookPoints

/-- What every call keeps of the plugins holds of them before every visit and at the end. -/
theorem plugins_complete {P : List Plugin → Prop}
    (hcall : ∀ (run : Run) (point : HookPoint), P run.plugins → P (run.call env point).plugins)
    (h : P plugins) (scans : ScanCache) :
    P (complete env scans plugins).plugins ∧
      ∀ visit ∈ visits env scans plugins, P visit.before.plugins := by
  have hstart : P (start env scans plugins).plugins := h
  exact (visits_complete env scans plugins).invariant (P := fun run => P run.plugins)
    (fun _ candidate _ _ hrun => plugins_visit hcall hrun candidate)
    (hcall _ (.bootstrap env.configuration.testClass) hstart)

/-- The visits after some visits are those of the run that these left. -/
theorem Visits.of_append {first rest : List Visit} {visit : Visit}
    (h : Visits env run (first ++ visit :: rest) final) :
    visit.before.failure = none ∧
      Visits env (visit.before.visit env visit.candidate) rest final := by
  induction first generalizing run with
  | nil =>
    cases h with
    | visit hf _ hrest => exact ⟨hf, hrest⟩
  | cons other first ih =>
    cases h with
    | visit _ _ hrest => exact ih hrest

/-- A relation between two runs that every visit of the first one keeps, when the second one visits the
same name, leads from their beginnings to their ends. The second run may have another environment. -/
theorem Visits.drain_of_partner {env' : Environment} {R : Run → Run → Prop} {visits : List Visit}
    (h : Visits env run visits final)
    (hfailure : ∀ run other, R run other → other.failure = run.failure)
    (hnext : ∀ run other, R run other → other.worklist.next? = run.worklist.next?)
    (hvisit : ∀ visit ∈ visits, ∀ other, R visit.before other →
      R (visit.before.visit env visit.candidate) (other.visit env' visit.candidate))
    {other : Run} (hrun : R run other) (hc : other.worklist.Consistent) :
    R final (drain env' other hc) := by
  induction h generalizing other with
  | @stop run hstop =>
    rw [← hfailure run other hrun, ← hnext run other hrun] at hstop
    rwa [drain_of_halted hc hstop]
  | @visit run candidate visits final hf hn rest ih =>
    obtain ⟨hfirst, hrest⟩ := List.forall_mem_cons.1 hvisit
    rw [drain_of_next? candidate hc ((hfailure run other hrun).trans hf)
      ((hnext run other hrun).trans hn)]
    exact ih hrest (hfirst other hrun) _

/-- A run that makes the visits of another one up to a visit in which it fails ends with this visit. -/
theorem Visits.drain_of_failure {env' : Environment} {first rest : List Visit} {visit : Visit}
    (h : Visits env run (first ++ visit :: rest) final)
    (hfirst : ∀ earlier ∈ first, earlier.before.visit env' earlier.candidate =
      earlier.before.visit env earlier.candidate)
    (hfails : (visit.before.visit env' visit.candidate).failure.isSome = true)
    (hc : run.worklist.Consistent) :
    drain env' run hc = visit.before.visit env' visit.candidate := by
  induction first generalizing run with
  | nil =>
    cases h with
    | @visit _ candidate _ _ hf hn _ =>
      rw [drain_of_next? candidate hc hf hn]
      exact drain_of_halted _ (Or.inl hfails)
  | cons earlier first ih =>
    obtain ⟨hsame, hothers⟩ := List.forall_mem_cons.1 hfirst
    cases h with
    | @visit _ candidate _ _ hf hn hrest =>
      rw [← hsame] at hrest
      rw [drain_of_next? candidate hc hf hn]
      exact ih hrest hothers _

theorem Visits.failure_start {visits : List Visit} (h : Visits env run visits final)
    (hf : final.failure = none) : run.failure = none := by
  cases h with
  | stop _ => exact hf
  | visit hbefore _ _ => exact hbefore

theorem Visits.grows {visits : List Visit} (h : Visits env run visits final) :
    run.context.Grows final.context ∧
      ∀ visit ∈ visits, run.context.Grows visit.before.context :=
  h.invariant (P := fun later => run.context.Grows later.context)
    (fun later candidate _ _ hgrows => hgrows.trans (later.grows_visit env candidate)) (.refl _)

/-- A visit leaves its context to all visits after it and to the end of the run. -/
theorem Visits.grows_after {first rest : List Visit} {visit : Visit}
    (h : Visits env run (first ++ visit :: rest) final) :
    (visit.before.visit env visit.candidate).context.Grows final.context ∧
      ∀ later ∈ rest, (visit.before.visit env visit.candidate).context.Grows later.before.context :=
  h.of_append.2.grows

theorem Visits.grows_before {visits : List Visit} (h : Visits env run visits final) {visit : Visit}
    (hvisit : visit ∈ visits) : visit.before.context.Grows final.context := by
  obtain ⟨first, rest, rfl⟩ := List.append_of_mem hvisit
  exact (visit.before.grows_visit env visit.candidate).trans h.grows_after.1

theorem grows_seeded (env : Environment) (scans : ScanCache) (plugins : List Plugin) :
    (start env scans plugins).context.Grows (seeded env scans plugins).context :=
  (grows_callAll (start env scans plugins) env [.bootstrap env.configuration.testClass]).trans
    (Context.grows_enqueueAll _ _)

/-- The test class is included throughout a run. -/
theorem testClass_mem_included {visit : Visit} (hvisit : visit ∈ visits env scans plugins) :
    env.configuration.testClass ∈ visit.before.context.included := by
  have hstart : env.configuration.testClass ∈ (start env scans plugins).context.included :=
    (Context.grows_enqueueAll ((Context.start env scans).discover env.configuration.testClass)
      [env.configuration.testClass]).included _ (OrderedSet.mem_ofList.2 List.mem_cons_self)
  have hgrows := (visits_complete env scans plugins).grows.2 visit hvisit
  exact hgrows.included _ ((grows_seeded env scans plugins).included _ hstart)

/-! ## Planned steps -/

theorem faithful_seeded (h : ∀ plugin ∈ plugins, plugin.Truthful env.registry)
    (scans : ScanCache) : (seeded env scans plugins).Faithful env plugins := by
  have hstart : (start env scans plugins).Faithful env plugins := ⟨rfl, h⟩
  exact (hstart.call (.bootstrap env.configuration.testClass)).update _

theorem faithful_before (h : ∀ plugin ∈ plugins, plugin.Truthful env.registry) {visit : Visit}
    (hvisit : visit ∈ visits env scans plugins) : visit.before.Faithful env plugins :=
  ((visits_complete env scans plugins).invariant
    (fun _ candidate _ _ hfaithful => hfaithful.visit candidate)
    (faithful_seeded h scans)).2 visit hvisit

/-- What the calls for an inspected class remember is kept to the end. -/
theorem scans_of_inspection {visit : Visit} (hvisit : visit ∈ visits env scans plugins)
    (ht : visit.before.context.target? env visit.candidate = some info) :
    ((visit.before.update (·.turnTo info)).callAll env info.hookPoints).context.scans.Within
      (complete env scans plugins).context.scans := by
  obtain ⟨first, rest, hsplit⟩ := List.append_of_mem hvisit
  have hvisits := visits_complete env scans plugins
  rw [hsplit] at hvisits
  have hgrows := hvisits.grows_after.1.scans
  rwa [context_visit_of_target ht, ← context_inspect] at hgrows

/-- In a run that ends well the calls for an inspected class do not fail, and what they remember is kept
to the end. -/
theorem inspection_ends (hf : (complete env scans plugins).failure = none) {visit : Visit}
    (hvisit : visit ∈ visits env scans plugins)
    (ht : visit.before.context.target? env visit.candidate = some info) :
    ((visit.before.update (·.turnTo info)).callAll env info.hookPoints).failure = none ∧
      ((visit.before.update (·.turnTo info)).callAll env info.hookPoints).context.scans.Within
        (complete env scans plugins).context.scans := by
  obtain ⟨first, rest, hsplit⟩ := List.append_of_mem hvisit
  have hvisits := visits_complete env scans plugins
  rw [hsplit] at hvisits
  have hafter : (visit.before.visit env visit.candidate).failure = none :=
    hvisits.of_append.2.failure_start hf
  rw [failure_visit_of_target ht] at hafter
  exact ⟨hafter, scans_of_inspection hvisit ht⟩

/-- In a run that ends well every inspection takes the steps that the plugins plan for its class. -/
theorem inspectionSteps_eq (h : ∀ plugin ∈ plugins, plugin.Truthful env.registry)
    (hf : (complete env scans plugins).failure = none) {visit : Visit}
    (hvisit : visit ∈ visits env scans plugins)
    (ht : visit.before.context.target? env visit.candidate = some info) :
    visit.before.inspectionSteps env info =
      Plugin.planAll env (complete env scans plugins).context.scans plugins info.hookPoints := by
  obtain ⟨hafter, hgrows⟩ := inspection_ends hf hvisit ht
  exact stepsAtAll_eq ((faithful_before h hvisit).update _) hafter hgrows

/-- In a run that ends well no plugin fails for an inspected class. -/
theorem verdict_of_visit (h : ∀ plugin ∈ plugins, plugin.Truthful env.registry)
    (hf : (complete env scans plugins).failure = none) {visit : Visit}
    (hvisit : visit ∈ visits env scans plugins)
    (ht : visit.before.context.target? env visit.candidate = some info) :
    ∀ point ∈ info.hookPoints, ∀ plugin ∈ plugins, (plugin.respond env point).verdict env.registry
      (complete env scans plugins).context.scans = none := by
  obtain ⟨hafter, hgrows⟩ := inspection_ends hf hvisit ht
  exact verdict_of_callAll ((faithful_before h hvisit).update _) hafter hgrows

/-- At the end of a run that ends well every scan that the plugins planned for an inspected class is
remembered. -/
theorem answered_of_visit (h : ∀ plugin ∈ plugins, plugin.Truthful env.registry)
    (hf : (complete env scans plugins).failure = none) {visit : Visit}
    (hvisit : visit ∈ visits env scans plugins)
    (ht : visit.before.context.target? env visit.candidate = some info) :
    ∀ step ∈ Plugin.planAll env (complete env scans plugins).context.scans plugins info.hookPoints,
      step.Answered env.registry (complete env scans plugins).context.scans := by
  obtain ⟨-, hgrows⟩ := inspection_ends hf hvisit ht
  rw [context_callAll] at hgrows
  rw [← inspectionSteps_eq h hf hvisit ht]
  exact Context.answered_takeAll hgrows

/-- What a class offers in a run that ends well is what its plugins plan to offer. -/
theorem offersAt_eq (h : ∀ plugin ∈ plugins, plugin.Truthful env.registry)
    (hf : (complete env scans plugins).failure = none) {visit : Visit}
    (hvisit : visit ∈ visits env scans plugins)
    (ht : visit.before.context.target? env visit.candidate = some info) :
    visit.before.offersAt env visit.candidate =
      (Plugin.planAll env (complete env scans plugins).context.scans plugins
        info.hookPoints).flatMap
          (·.offers env.registry (complete env scans plugins).context.scans) := by
  obtain ⟨-, hgrows⟩ := inspection_ends hf hvisit ht
  rw [context_callAll] at hgrows
  rw [← inspectionSteps_eq h hf hvisit ht, offersAt, ht]
  exact Context.offeredByAll_eq hgrows

private theorem flatMap_offers_subset (registry : TypeRegistry) (memory : ScanCache)
    {steps others : List HookStep} (h : steps ⊆ others) :
    steps.flatMap (·.offers registry memory) ⊆ others.flatMap (·.offers registry memory) := by
  intro name hname
  obtain ⟨step, hstep, hname⟩ := List.mem_flatMap.1 hname
  exact List.mem_flatMap.2 ⟨step, h hstep, hname⟩

/-- A class offers nothing but what its plugins plan to offer, even in a run that fails. -/
theorem offersAt_subset (h : ∀ plugin ∈ plugins, plugin.Truthful env.registry) {visit : Visit}
    (hvisit : visit ∈ visits env scans plugins)
    (ht : visit.before.context.target? env visit.candidate = some info) :
    visit.before.offersAt env visit.candidate ⊆
      (Plugin.planAll env (complete env scans plugins).context.scans plugins
        info.hookPoints).flatMap
          (·.offers env.registry (complete env scans plugins).context.scans) := by
  have hmemory := scans_of_inspection hvisit ht
  have hsteps := stepsAtAll_subset ((faithful_before h hvisit).update _) hmemory
  rw [context_callAll] at hmemory
  have hoffers := flatMap_offers_subset env.registry
    (complete env scans plugins).context.scans hsteps
  rw [← Context.offeredByAll_eq hmemory] at hoffers
  rw [offersAt, ht]
  exact hoffers

theorem grows_bootstrap (env : Environment) (scans : ScanCache) (plugins : List Plugin) :
    ((start env scans plugins).callAll env [.bootstrap env.configuration.testClass]).context.Grows
      (complete env scans plugins).context :=
  (Context.grows_enqueueAll _ _).trans (visits_complete env scans plugins).grows.1

/-- In a run that ends well the plugins take the steps before the traversal that they plan. -/
theorem bootstrapSteps_eq (h : ∀ plugin ∈ plugins, plugin.Truthful env.registry)
    (hf : (complete env scans plugins).failure = none) :
    (start env scans plugins).stepsAtAll env [.bootstrap env.configuration.testClass] =
      Plugin.planAll env (complete env scans plugins).context.scans plugins
        [.bootstrap env.configuration.testClass] := by
  have hcall : ((start env scans plugins).callAll env
      [.bootstrap env.configuration.testClass]).failure = none :=
    (visits_complete env scans plugins).failure_start hf
  have hfaithful : (start env scans plugins).Faithful env plugins := ⟨rfl, h⟩
  exact stepsAtAll_eq hfaithful hcall (grows_bootstrap env scans plugins).scans

/-- What is offered before the traversal: the test class, what the plugins plan to offer, and the
additional classes. -/
theorem seedOffers_eq (h : ∀ plugin ∈ plugins, plugin.Truthful env.registry)
    (hf : (complete env scans plugins).failure = none) :
    seedOffers env scans plugins = env.configuration.testClass ::
      ((Plugin.planAll env (complete env scans plugins).context.scans plugins
        [.bootstrap env.configuration.testClass]).flatMap
          (·.offers env.registry (complete env scans plugins).context.scans) ++
        env.configuration.additionalClasses) := by
  have hmemory := (grows_bootstrap env scans plugins).scans
  rw [context_callAll] at hmemory
  rw [← bootstrapSteps_eq h hf, ← Context.offeredByAll_eq hmemory, stepsAtAll, stepsAtAll,
    List.append_nil]
  rfl

theorem seedOffers_subset (h : ∀ plugin ∈ plugins, plugin.Truthful env.registry) (scans : ScanCache) :
    seedOffers env scans plugins ⊆ env.configuration.testClass ::
      ((Plugin.planAll env (complete env scans plugins).context.scans plugins
        [.bootstrap env.configuration.testClass]).flatMap
          (·.offers env.registry (complete env scans plugins).context.scans) ++
        env.configuration.additionalClasses) := by
  have hmemory := (grows_bootstrap env scans plugins).scans
  have hfaithful : (start env scans plugins).Faithful env plugins := ⟨rfl, h⟩
  have hsteps := stepsAtAll_subset hfaithful hmemory
  rw [context_callAll] at hmemory
  have hoffers := flatMap_offers_subset env.registry
    (complete env scans plugins).context.scans hsteps
  rw [← Context.offeredByAll_eq hmemory, stepsAtAll, stepsAtAll, List.append_nil] at hoffers
  exact List.cons_subset_cons _ (List.append_subset.2
    ⟨List.subset_append_of_subset_left _ hoffers, List.subset_append_right _ _⟩)

end Run
end BeanDiscovery
