import BeanDiscovery.Run

/-! # The traversal

Starting from the test class, a run takes the oldest waiting name, inspects its class or skips the
name, and settles it, until no name waits. A class is inspected when it is not left out, can be loaded,
is not primitive, and either comes from a place whose classes are inspected or is an extension type.
The traversal ends because every name is settled once and only classes of the registry are inspected,
while a skipped name brings no new ones. -/
namespace BeanDiscovery

/-- How many names were taken off the worklist, and what became of them. -/
structure DiscoveryStats where
  processed : Nat
  inspected : Nat
  skipped : Nat
  deriving DecidableEq, Inhabited

def Trail.stats (trail : Trail) : DiscoveryStats :=
  ⟨trail.taken.length, trail.inspected.length, trail.skipped.length⟩

namespace Context

/-- The class to inspect for a name, if it is to be inspected. -/
def target? (context : Context) (env : Environment) (candidate : ClassName) : Option ClassInfo :=
  if context.isIgnored candidate then none
  else (env.registry.resolve candidate).filter fun info =>
    !info.isPrimitive && (context.covers info || env.container.isExtensionType info)

/-- Turns to a class and records it, unless it is a marker definition. -/
def turnTo (context : Context) (info : ClassInfo) : Context :=
  let context := { context with current := some info.name }
  if info.isMarkerDefinition then context else context.discover info.name

def turnAway (context : Context) : Context := { context with current := none }

theorem resolve_of_target {context : Context} {env : Environment} {candidate : ClassName}
    {info : ClassInfo} (h : context.target? env candidate = some info) :
    env.registry.resolve candidate = some info := by
  rw [target?] at h
  split at h
  · cases h
  · exact (Option.filter_eq_some_iff.1 h).1

theorem name_of_target {context : Context} {env : Environment} {candidate : ClassName}
    {info : ClassInfo} (h : context.target? env candidate = some info) : info.name = candidate :=
  TypeRegistry.name_of_resolve (resolve_of_target h)

theorem mem_names_of_target {context : Context} {env : Environment} {candidate : ClassName}
    {info : ClassInfo} (h : context.target? env candidate = some info) :
    candidate ∈ env.registry.names :=
  TypeRegistry.resolve_isSome.1 (by rw [resolve_of_target h]; rfl)

@[simp] theorem frontier_turnTo (context : Context) (info : ClassInfo) :
    (context.turnTo info).frontier = context.frontier.turnTo (some info.name) := by
  rw [turnTo]
  split <;> rfl

@[simp] theorem frontier_turnAway (context : Context) :
    context.turnAway.frontier = context.frontier.turnTo none := rfl

end Context

namespace Run

/-- Turns to a class and calls the plugins for it. -/
def inspect (run : Run) (env : Environment) (info : ClassInfo) : Run :=
  ((run.update (·.turnTo info)).callAll env info.hookPoints).update (·.turnAway)

/-- Takes a name that waits, inspects its class or skips it, and settles the name. -/
def visit (run : Run) (env : Environment) (candidate : ClassName) : Run :=
  let trail := { run.trail with taken := run.trail.taken ++ [candidate] }
  let run := match run.context.target? env candidate with
    | some info =>
      { run.inspect env info with
        trail := { trail with inspected := trail.inspected ++ [candidate] } }
    | none => { run with trail := { trail with skipped := trail.skipped ++ [candidate] } }
  run.update (·.settle candidate)

/-! ## What a visit does -/

/-- The steps that the plugins take while a class is inspected. -/
def inspectionSteps (run : Run) (env : Environment) (info : ClassInfo) : List HookStep :=
  (run.update (·.turnTo info)).stepsAtAll env info.hookPoints

/-- The names that the plugins ask to let wait during a visit, whether or not they are known. -/
def offersAt (run : Run) (env : Environment) (candidate : ClassName) : List ClassName :=
  match run.context.target? env candidate with
  | some info => (run.context.turnTo info).offeredByAll env (run.inspectionSteps env info)
  | none => []

theorem context_inspect (run : Run) (env : Environment) (info : ClassInfo) :
    (run.inspect env info).context =
      ((run.context.turnTo info).takeAll env (run.inspectionSteps env info)).turnAway :=
  congrArg Context.turnAway (context_callAll (run.update (·.turnTo info)) env info.hookPoints)

variable {run : Run} {env : Environment} {candidate : ClassName} {info : ClassInfo}

theorem context_visit_of_target (h : run.context.target? env candidate = some info) :
    (run.visit env candidate).context =
      ((run.context.turnTo info).takeAll env
        (run.inspectionSteps env info)).turnAway.settle candidate := by
  rw [← context_inspect]
  simp only [visit, h]
  rfl

theorem context_visit_of_skipped (h : run.context.target? env candidate = none) :
    (run.visit env candidate).context = run.context.settle candidate := by
  simp only [visit, h]
  rfl

theorem trail_visit_of_target (h : run.context.target? env candidate = some info) :
    (run.visit env candidate).trail =
      { run.trail with
        taken := run.trail.taken ++ [candidate]
        inspected := run.trail.inspected ++ [candidate] } := by
  simp only [visit, h]
  rfl

theorem trail_visit_of_skipped (h : run.context.target? env candidate = none) :
    (run.visit env candidate).trail =
      { run.trail with
        taken := run.trail.taken ++ [candidate]
        skipped := run.trail.skipped ++ [candidate] } := by
  simp only [visit, h]
  rfl

theorem offersAt_of_skipped (h : run.context.target? env candidate = none) :
    run.offersAt env candidate = [] := by
  simp only [offersAt, h]

/-- A visit turns to the name, lets what is offered wait, turns away and settles the name. -/
theorem frontier_visit (hc : run.context.current = none) (env : Environment)
    (candidate : ClassName) :
    (run.visit env candidate).context.frontier =
      (((run.context.frontier.turnTo (some candidate)).offerAll
        (run.offersAt env candidate)).turnTo none).settle candidate := by
  cases h : run.context.target? env candidate with
  | none =>
    have hturn : (run.context.frontier.turnTo (some candidate)).turnTo none =
        run.context.frontier := by
      unfold Frontier.turnTo Context.frontier
      rw [hc]
    rw [context_visit_of_skipped h, offersAt_of_skipped h, Context.frontier_settle]
    exact congrArg (·.settle candidate) hturn.symm
  | some info =>
    simp only [context_visit_of_target h, offersAt, h, Context.frontier_settle,
      Context.frontier_turnAway, Context.frontier_takeAll, Context.frontier_turnTo,
      Context.name_of_target h]

theorem worklist_visit (run : Run) (env : Environment) (candidate : ClassName) :
    (run.visit env candidate).worklist =
      (run.worklist.enqueueAll (run.offersAt env candidate)).settle candidate := by
  cases h : run.context.target? env candidate with
  | none =>
    rw [offersAt_of_skipped h]
    exact congrArg (·.worklist) (context_visit_of_skipped h)
  | some info =>
    have hsteps := congrArg Frontier.worklist (Context.frontier_takeAll (run.context.turnTo info)
      env (run.inspectionSteps env info))
    rw [Frontier.worklist_offerAll, Context.frontier_turnTo] at hsteps
    simp only [offersAt, h]
    exact (congrArg (·.worklist) (context_visit_of_target h)).trans
      (congrArg (·.settle candidate) hsteps)

/-- A visited name is settled and no other one is. -/
theorem processed_visit (run : Run) (env : Environment) (candidate : ClassName) :
    (run.visit env candidate).worklist.processed = run.worklist.processed.insert candidate := by
  rw [worklist_visit, Worklist.processed_settle, Worklist.processed_enqueueAll]

theorem consistent_visit (hc : run.worklist.Consistent) (env : Environment)
    (candidate : ClassName) : (run.visit env candidate).worklist.Consistent := by
  rw [worklist_visit]
  exact (hc.enqueueAll _).settle candidate

/-! ## The end of the traversal -/

/-- The registered names that were not settled yet. -/
def unsettled (run : Run) (env : Environment) : Nat :=
  run.worklist.processed.missing env.registry.names

theorem unsettled_visit_le (run : Run) (env : Environment) (candidate : ClassName) :
    (run.visit env candidate).unsettled env ≤ run.unsettled env := by
  rw [unsettled, processed_visit]
  exact OrderedSet.missing_insert_le _ _ _

theorem unsettled_visit_lt (hc : run.worklist.Consistent) (hp : candidate ∈ run.worklist.pending)
    (h : run.context.target? env candidate = some info) :
    (run.visit env candidate).unsettled env < run.unsettled env := by
  rw [unsettled, processed_visit]
  exact OrderedSet.missing_insert_lt (Context.mem_names_of_target h) (hc.disjoint candidate hp)

theorem size_visit_lt_of_skipped (hc : run.worklist.Consistent)
    (hp : candidate ∈ run.worklist.pending) (h : run.context.target? env candidate = none) :
    (run.visit env candidate).worklist.pending.size < run.worklist.pending.size := by
  rw [worklist_visit, offersAt_of_skipped h]
  exact hc.size_settle_lt hp

/-- A visit settles a registered name, or leaves fewer names waiting. -/
theorem visit_decreases (hc : run.worklist.Consistent) (env : Environment)
    (h : run.worklist.next? = some candidate) :
    Prod.Lex (· < ·) (· < ·)
      ((run.visit env candidate).unsettled env, (run.visit env candidate).worklist.pending.size)
      (run.unsettled env, run.worklist.pending.size) := by
  have hp := Worklist.mem_pending_of_next? h
  cases ht : run.context.target? env candidate with
  | some info => exact Prod.Lex.left _ _ (unsettled_visit_lt hc hp ht)
  | none =>
    rcases Nat.lt_or_eq_of_le (unsettled_visit_le run env candidate) with hlt | heq
    · exact Prod.Lex.left _ _ hlt
    · rw [heq]
      exact Prod.Lex.right _ (size_visit_lt_of_skipped hc hp ht)

/-- Visits one waiting name after the other until none waits or the run has failed. -/
def drain (env : Environment) (run : Run) (hc : run.worklist.Consistent) : Run :=
  if run.failure.isSome then run
  else
    match hn : run.worklist.next? with
    | none => run
    | some candidate =>
      have := visit_decreases hc env hn
      drain env (run.visit env candidate) (consistent_visit hc env candidate)
termination_by (run.unsettled env, run.worklist.pending.size)
decreasing_by exact this

theorem drain_of_halted (hc : run.worklist.Consistent)
    (h : run.failure.isSome = true ∨ run.worklist.next? = none) : drain env run hc = run := by
  rw [drain]
  split
  · rfl
  next hf =>
    have hn := h.resolve_left hf
    split
    · rfl
    next other ho => cases hn.symm.trans ho

theorem drain_of_next? (candidate : ClassName) (hc : run.worklist.Consistent)
    (hf : run.failure = none) (hn : run.worklist.next? = some candidate) :
    drain env run hc =
      drain env (run.visit env candidate) (consistent_visit hc env candidate) := by
  rw [drain, hf, if_neg (by simp)]
  split
  next ho => cases hn.symm.trans ho
  next other ho =>
    cases hn.symm.trans ho
    rfl

/-! ## A whole run -/

/-- A run at its beginning: the test class is recorded and waits. -/
def start (env : Environment) (scans : ScanCache) (plugins : List Plugin) : Run where
  plugins
  progress :=
    { context := ((Context.start env scans).discover env.configuration.testClass).enqueue
        env.configuration.testClass }

/-- A run before the traversal: the plugins were called once, and the additional classes of the test
were offered last. -/
def seeded (env : Environment) (scans : ScanCache) (plugins : List Plugin) : Run :=
  ((start env scans plugins).call env (.bootstrap env.configuration.testClass)).update
    fun context => context.enqueueAll env.configuration.additionalClasses

/-- The names that are asked to wait before the traversal. -/
def seedOffers (env : Environment) (scans : ScanCache) (plugins : List Plugin) : List ClassName :=
  let run := start env scans plugins
  env.configuration.testClass ::
    (run.context.offeredByAll env (run.steps env (.bootstrap env.configuration.testClass)) ++
      env.configuration.additionalClasses)

theorem frontier_start (env : Environment) (scans : ScanCache) (plugins : List Plugin) :
    (start env scans plugins).context.frontier =
      Frontier.offer {} env.configuration.testClass :=
  Context.frontier_enqueue ((Context.start env scans).discover env.configuration.testClass)
    env.configuration.testClass

theorem frontier_seeded (env : Environment) (scans : ScanCache) (plugins : List Plugin) :
    (seeded env scans plugins).context.frontier =
      Frontier.offerAll {} (seedOffers env scans plugins) := by
  have hcall := context_call (start env scans plugins) env
    (.bootstrap env.configuration.testClass)
  refine (Context.frontier_enqueueAll _ _).trans ?_
  rw [← context, hcall, Context.frontier_takeAll, frontier_start]
  exact (Frontier.offerAll_append _ _ _).symm

theorem consistent_seeded (env : Environment) (scans : ScanCache) (plugins : List Plugin) :
    (seeded env scans plugins).worklist.Consistent := by
  have h := congrArg Frontier.worklist (frontier_seeded env scans plugins)
  rw [Frontier.worklist_offerAll] at h
  change (seeded env scans plugins).context.frontier.worklist.Consistent
  rw [h]
  exact Worklist.consistent_empty.enqueueAll _

/-- The whole run. -/
def complete (env : Environment) (scans : ScanCache) (plugins : List Plugin) : Run :=
  drain env (seeded env scans plugins) (consistent_seeded env scans plugins)

end Run
end BeanDiscovery
