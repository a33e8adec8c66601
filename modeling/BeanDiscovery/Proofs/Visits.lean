import BeanDiscovery.Bootstrap
import BeanDiscovery.Proofs.Exploration

/-!
# The visits of a run

A run is a finite sequence of visits, each to the name that the visits before it left at the front of
the worklist. This module follows a run visit by visit. The main statements give the account of taken,
inspected and skipped names, and the invariant that ties the worklist and the graph to the log of all
offers, from the seeds to the end of the run.
-/
namespace BeanDiscovery

/-- A round of the traversal: the run before it and the name taken off the worklist. -/
structure Visit where
  before : Run
  candidate : ClassName

namespace Visit

/-- Whether the class of the name is inspected, and not skipped. -/
def isInspection (env : Environment) (visit : Visit) : Bool :=
  (visit.before.context.target? env visit.candidate).isSome

/-- The offers that the plugins make, all for the name under inspection. -/
def offers (env : Environment) (visit : Visit) : List Offer :=
  (visit.before.offersAt env visit.candidate).map fun name => ⟨some visit.candidate, name⟩

/-- The names that wait after the visit and did not wait before it. -/
def arrivals (env : Environment) (visit : Visit) : List ClassName :=
  (visit.before.visit env visit.candidate).worklist.pending.toList.filter
    fun name => decide (name ∉ visit.before.worklist.pending)

end Visit

namespace Run
open Offer

/-- The traversal leads from one run to another by visits, and stops once no name waits or the run has
failed. -/
inductive Visits (env : Environment) : Run → List Visit → Run → Prop where
  | stop {run} (h : run.failure.isSome = true ∨ run.worklist.next? = none) : Visits env run [] run
  | visit {run candidate visits final} (hf : run.failure = none)
      (hn : run.worklist.next? = some candidate)
      (rest : Visits env (run.visit env candidate) visits final) :
      Visits env run (⟨run, candidate⟩ :: visits) final

/-- The visits of the traversal from a run on. -/
def visitsFrom (env : Environment) (run : Run) (hc : run.worklist.Consistent) : List Visit :=
  if run.failure.isSome then []
  else
    match hn : run.worklist.next? with
    | none => []
    | some candidate =>
      have := visit_decreases hc env hn
      ⟨run, candidate⟩ :: visitsFrom env (run.visit env candidate) (consistent_visit hc env candidate)
termination_by (run.unsettled env, run.worklist.pending.size)
decreasing_by exact this

/-- The visits of a whole run. -/
def visits (env : Environment) (scans : ScanCache) (plugins : List Plugin) : List Visit :=
  visitsFrom env (seeded env scans plugins) (consistent_seeded env scans plugins)

/-- The names that begin to wait, in order: before the traversal, then visit by visit. -/
def enqueued (env : Environment) (scans : ScanCache) (plugins : List Plugin) : List ClassName :=
  (seeded env scans plugins).worklist.pending.toList ++
    (visits env scans plugins).flatMap (Visit.arrivals env)

def seedLog (env : Environment) (scans : ScanCache) (plugins : List Plugin) : List Offer :=
  (seedOffers env scans plugins).map fun name => ⟨none, name⟩

/-- All offers of a whole run, in order. -/
def offers (env : Environment) (scans : ScanCache) (plugins : List Plugin) : List Offer :=
  seedLog env scans plugins ++ (visits env scans plugins).flatMap (Visit.offers env)

variable {env : Environment} {run final : Run} {candidate : ClassName}

theorem visitsFrom_of_halted (hc : run.worklist.Consistent)
    (h : run.failure.isSome = true ∨ run.worklist.next? = none) : visitsFrom env run hc = [] := by
  rw [visitsFrom]
  split
  · rfl
  next hf =>
    have hn := h.resolve_left hf
    split
    · rfl
    next other ho => cases hn.symm.trans ho

theorem visitsFrom_of_next? (candidate : ClassName) (hc : run.worklist.Consistent)
    (hf : run.failure = none) (hn : run.worklist.next? = some candidate) :
    visitsFrom env run hc =
      ⟨run, candidate⟩ ::
        visitsFrom env (run.visit env candidate) (consistent_visit hc env candidate) := by
  rw [visitsFrom, hf, if_neg (by simp)]
  split
  next ho => cases hn.symm.trans ho
  next other ho =>
    cases hn.symm.trans ho
    rfl

/-- Whether the traversal visits some names, one after the other, and then stops. -/
def isRoute (env : Environment) : Run → List ClassName → Bool
  | run, [] => run.failure.isSome || run.worklist.next?.isNone
  | run, name :: names =>
    run.failure.isNone && run.worklist.next? = some name && isRoute env (run.visit env name) names

theorem drain_of_isRoute {names : List ClassName} (h : isRoute env run names = true)
    (hc : run.worklist.Consistent) :
    drain env run hc = names.foldl (fun run name => run.visit env name) run := by
  induction names generalizing run with
  | nil =>
    simp only [isRoute, Bool.or_eq_true, Option.isNone_iff_eq_none] at h
    exact drain_of_halted hc h
  | cons name names ih =>
    simp only [isRoute, Bool.and_eq_true, Option.isNone_iff_eq_none, decide_eq_true_eq] at h
    obtain ⟨⟨hf, hn⟩, hrest⟩ := h
    rw [drain_of_next? name hc hf hn]
    exact ih hrest _

theorem visits_drain (env : Environment) (run : Run) (hc : run.worklist.Consistent) :
    Visits env run (visitsFrom env run hc) (drain env run hc) := by
  fun_induction drain env run hc with
  | case1 run hc hf =>
    rw [visitsFrom, if_pos hf]
    exact .stop (Or.inl hf)
  | case2 run hc hf hn =>
    rw [visitsFrom, if_neg hf]
    split
    · exact .stop (Or.inr hn)
    next h => cases hn.symm.trans h
  | case3 run hc hf candidate hn _ ih =>
    rw [visitsFrom, if_neg hf]
    split
    next h => cases hn.symm.trans h
    next other h =>
      cases hn.symm.trans h
      exact .visit (by simpa using hf) hn ih

/-- A whole run ends after finitely many visits. -/
theorem visits_complete (env : Environment) (scans : ScanCache) (plugins : List Plugin) :
    Visits env (seeded env scans plugins) (visits env scans plugins)
      (complete env scans plugins) :=
  visits_drain env _ _

/-- A run that was not broken off leaves no name waiting. -/
theorem Visits.next?_final {visits : List Visit} (h : Visits env run visits final)
    (hf : final.failure = none) : final.worklist.next? = none := by
  induction h with
  | stop h => exact h.resolve_left (by simp [hf])
  | visit _ _ _ ih => exact ih hf

/-! ## The account -/

theorem trail_seeded (env : Environment) (scans : ScanCache) (plugins : List Plugin) :
    (seeded env scans plugins).trail = {} := rfl

theorem trail_visit (run : Run) (env : Environment) (candidate : ClassName) :
    (run.visit env candidate).trail =
      { taken := run.trail.taken ++ [candidate]
        inspected := run.trail.inspected ++
          if Visit.isInspection env ⟨run, candidate⟩ then [candidate] else []
        skipped := run.trail.skipped ++
          if !Visit.isInspection env ⟨run, candidate⟩ then [candidate] else [] } := by
  cases h : run.context.target? env candidate with
  | none => simp [trail_visit_of_skipped h, Visit.isInspection, h]
  | some info => simp [trail_visit_of_target h, Visit.isInspection, h]

/-- The account of a run is the account of its visits. -/
theorem Visits.trail_final {visits : List Visit} (h : Visits env run visits final) :
    final.trail =
      { taken := run.trail.taken ++ visits.map (·.candidate)
        inspected := run.trail.inspected ++
          (visits.filter fun visit => visit.isInspection env).map (·.candidate)
        skipped := run.trail.skipped ++
          (visits.filter fun visit => !visit.isInspection env).map (·.candidate) } := by
  induction h with
  | stop h => simp
  | @visit run candidate visits final hf hn rest ih =>
    rw [ih, trail_visit]
    cases ht : Visit.isInspection env ⟨run, candidate⟩ <;> simp [ht]

/-! ## The log -/

theorem current_visit (hcurrent : run.context.current = none) (env : Environment)
    (candidate : ClassName) : (run.visit env candidate).context.current = none :=
  congrArg Frontier.current (frontier_visit hcurrent env candidate)

theorem recorded_visit {log : List Offer} (h : run.context.frontier.Recorded log)
    (hcurrent : run.context.current = none) (hn : run.worklist.next? = some candidate) :
    (run.visit env candidate).context.frontier.Recorded
      (log ++ Visit.offers env ⟨run, candidate⟩) := by
  rw [frontier_visit hcurrent]
  exact h.visit hn (run.offersAt env candidate)

theorem toList_processed_visit (hc : run.worklist.Consistent)
    (hn : run.worklist.next? = some candidate) :
    (run.visit env candidate).worklist.processed.toList =
      run.worklist.processed.toList ++ [candidate] := by
  rw [processed_visit, OrderedSet.toList_insert_of_notMem
    (hc.disjoint candidate (Worklist.mem_pending_of_next? hn))]

/-- After a visit the names wait that waited behind the visited one, then those offered first. -/
theorem pending_visit {log : List Offer} (h : run.context.frontier.Recorded log)
    (hcurrent : run.context.current = none) (hn : run.worklist.next? = some candidate)
    {news : List Offer} (hnews : firsts (log ++ Visit.offers env ⟨run, candidate⟩) =
      firsts log ++ news) :
    (run.visit env candidate).worklist.pending.toList =
      run.worklist.pending.toList.tail ++ names news := by
  obtain ⟨rest, hrest⟩ := Queue.front?_eq_some.1 hn
  have hrecorded : (run.visit env candidate).context.frontier.Recorded
      (log ++ Visit.offers env ⟨run, candidate⟩) := recorded_visit h hcurrent hn
  have horder := hrecorded.order
  rw [hnews, names_append, ← h.order] at horder
  change (run.visit env candidate).worklist.processed.toList ++
    (run.visit env candidate).worklist.pending.toList =
      run.worklist.processed.toList ++ run.worklist.pending.toList ++ names news at horder
  rw [toList_processed_visit h.consistent hn, hrest, List.append_assoc, List.append_assoc] at horder
  rw [hrest]
  exact (List.cons.inj (List.append_cancel_left horder)).2

/-- The names offered first during a visit are those that begin to wait. -/
theorem arrivals_visit {log : List Offer} (h : run.context.frontier.Recorded log)
    (hcurrent : run.context.current = none) (hn : run.worklist.next? = some candidate) :
    names (firsts (log ++ Visit.offers env ⟨run, candidate⟩)) =
      names (firsts log) ++ Visit.arrivals env ⟨run, candidate⟩ := by
  obtain ⟨news, hnews, -⟩ := firsts_append log (Visit.offers env ⟨run, candidate⟩)
  have hnodup := nodup_names_firsts (log ++ Visit.offers env ⟨run, candidate⟩)
  rw [hnews, names_append, ← h.order, List.nodup_append] at hnodup
  have hold : ∀ name ∈ run.worklist.pending.toList.tail,
      ¬ decide (name ∉ run.worklist.pending) = true :=
    fun name hname hd => of_decide_eq_true hd (List.mem_of_mem_tail hname)
  have hfresh : ∀ name ∈ names news, decide (name ∉ run.worklist.pending) = true :=
    fun name hname => decide_eq_true fun hp =>
      hnodup.2.2 name (List.mem_append_right _ hp) name hname rfl
  rw [hnews, names_append, Visit.arrivals, pending_visit h hcurrent hn hnews, List.filter_append,
    List.filter_eq_nil_iff.2 hold, List.filter_eq_self.2 hfresh, List.nil_append]

/-- Every visit keeps the worklist and the graph in step with the log. -/
theorem Visits.recorded_final {visits : List Visit} (h : Visits env run visits final)
    {log : List Offer} (hr : run.context.frontier.Recorded log)
    (hcurrent : run.context.current = none) :
    final.context.frontier.Recorded (log ++ visits.flatMap (Visit.offers env)) := by
  induction h generalizing log with
  | stop h =>
    rw [List.flatMap_nil, List.append_nil]
    exact hr
  | visit hf hn rest ih =>
    rw [List.flatMap_cons, ← List.append_assoc]
    exact ih (recorded_visit hr hcurrent hn) (current_visit hcurrent _ _)

theorem Visits.names_firsts {visits : List Visit} (h : Visits env run visits final)
    {log : List Offer} (hr : run.context.frontier.Recorded log)
    (hcurrent : run.context.current = none) :
    names (firsts (log ++ visits.flatMap (Visit.offers env))) =
      names (firsts log) ++ visits.flatMap (Visit.arrivals env) := by
  induction h generalizing log with
  | stop h => simp
  | visit hf hn rest ih =>
    rw [List.flatMap_cons, List.flatMap_cons, ← List.append_assoc, ← List.append_assoc,
      ← arrivals_visit hr hcurrent hn]
    exact ih (recorded_visit hr hcurrent hn) (current_visit hcurrent _ _)

/-- The visited names are settled in the order of the visits. -/
theorem Visits.processed_final {visits : List Visit} (h : Visits env run visits final)
    (hc : run.worklist.Consistent) :
    final.worklist.processed.toList =
      run.worklist.processed.toList ++ visits.map (·.candidate) := by
  induction h with
  | stop h => simp
  | @visit run candidate visits final hf hn rest ih =>
    rw [ih (consistent_visit hc env candidate), toList_processed_visit hc hn, List.append_assoc]
    rfl

/-! ## From the seeds to the end -/

theorem recorded_seeded (env : Environment) (scans : ScanCache) (plugins : List Plugin) :
    (seeded env scans plugins).context.frontier.Recorded (seedLog env scans plugins) := by
  rw [frontier_seeded]
  exact Frontier.Recorded.initial.offerAll (fun _ h => nomatch h) _

theorem current_seeded (env : Environment) (scans : ScanCache) (plugins : List Plugin) :
    (seeded env scans plugins).context.current = none :=
  (congrArg Frontier.current (frontier_seeded env scans plugins)).trans
    (Frontier.current_offerAll _ _)

theorem processed_seeded (env : Environment) (scans : ScanCache) (plugins : List Plugin) :
    (seeded env scans plugins).worklist.processed = .empty := by
  have h := congrArg Frontier.worklist (frontier_seeded env scans plugins)
  rw [Frontier.worklist_offerAll] at h
  exact (congrArg Worklist.processed h).trans (Worklist.processed_enqueueAll _ _)

/-- The seeds are the names offered before the traversal. -/
theorem pending_seeded (env : Environment) (scans : ScanCache) (plugins : List Plugin) :
    (seeded env scans plugins).worklist.pending.toList =
      names (firsts (seedLog env scans plugins)) := by
  have h := (recorded_seeded env scans plugins).order
  change (seeded env scans plugins).worklist.processed.toList ++
    (seeded env scans plugins).worklist.pending.toList = _ at h
  rwa [processed_seeded] at h

/-- At the end of a run the worklist and the graph agree with the log of all offers. -/
theorem recorded_complete (env : Environment) (scans : ScanCache) (plugins : List Plugin) :
    (complete env scans plugins).context.frontier.Recorded (offers env scans plugins) :=
  (visits_complete env scans plugins).recorded_final (recorded_seeded env scans plugins)
    (current_seeded env scans plugins)

/-- The nodes of the graph are the offered names in the order of their first offers. -/
theorem nodes_complete (env : Environment) (scans : ScanCache) (plugins : List Plugin) :
    (complete env scans plugins).context.findings.graph.nodes.toList =
      names (firsts (offers env scans plugins)) :=
  (recorded_complete env scans plugins).nodes

theorem enqueued_eq (env : Environment) (scans : ScanCache) (plugins : List Plugin) :
    enqueued env scans plugins = names (firsts (offers env scans plugins)) := by
  rw [enqueued, pending_seeded]
  exact ((visits_complete env scans plugins).names_firsts (recorded_seeded env scans plugins)
    (current_seeded env scans plugins)).symm

theorem trail_complete (env : Environment) (scans : ScanCache) (plugins : List Plugin) :
    (complete env scans plugins).trail =
      { taken := (visits env scans plugins).map (·.candidate)
        inspected := ((visits env scans plugins).filter
          fun visit => visit.isInspection env).map (·.candidate)
        skipped := ((visits env scans plugins).filter
          fun visit => !visit.isInspection env).map (·.candidate) } := by
  have htrail := (visits_complete env scans plugins).trail_final
  rw [trail_seeded] at htrail
  exact htrail

/-- A run that ends well has visited every name that ever waited, in the order of first offers. -/
theorem candidates_complete {scans : ScanCache} {plugins : List Plugin}
    (hf : (complete env scans plugins).failure = none) :
    (visits env scans plugins).map (·.candidate) = names (firsts (offers env scans plugins)) := by
  have hvisits := visits_complete env scans plugins
  have horder := (recorded_complete env scans plugins).order
  have hpending : (complete env scans plugins).worklist.pending.toList = [] :=
    List.head?_eq_none_iff.1 (hvisits.next?_final hf)
  have hprocessed := hvisits.processed_final (consistent_seeded env scans plugins)
  rw [processed_seeded] at hprocessed
  change (complete env scans plugins).worklist.processed.toList ++
    (complete env scans plugins).worklist.pending.toList = _ at horder
  rw [hpending, List.append_nil, hprocessed] at horder
  exact horder

/-! ## Reports -/

theorem report_of_failure {run : Run} (h : run.failure = none) (assembler : Assembler) :
    run.report assembler = .ok
      { descriptor := assembler.assemble run.context.findings
        graph := run.context.findings.graph
        stats := run.trail.stats } := by
  rw [report, h]

theorem error_of_failure {run : Run} {error : DiscoveryError} (h : run.failure = some error)
    (assembler : Assembler) : run.report assembler = .error error := by
  rw [report, h]

theorem failure_of_report {run : Run} {assembler : Assembler} {report : Report}
    (h : run.report assembler = .ok report) : run.failure = none := by
  rw [Run.report] at h
  split at h
  · cases h
  · assumption

theorem eq_of_report {run : Run} {assembler : Assembler} {report : Report}
    (h : run.report assembler = .ok report) :
    report =
      { descriptor := assembler.assemble run.context.findings
        graph := run.context.findings.graph
        stats := run.trail.stats } := by
  have hf := failure_of_report h
  rw [Run.report, hf] at h
  exact (Except.ok.inj h).symm

/-! ## A run in a circle -/

/-- Offers the types of fields; at a qualifier it leaves out one class that was inspected and one that
still waits. -/
def circlePlugin : Plugin where
  name := "field-types"
  respond := fun _ => fun
    | .process info =>
      if info.isMarkerDefinition then
        .actions [.ignore (.ofClass ⟨"com.example.B"⟩), .ignore (.ofName ⟨"com.example.D"⟩)]
      else .done
    | .field _ field => .act (.offer (.ofType field.declared)) .done
    | _ => .done

def circleClass (name : String) (types : List TypeRef) : ClassInfo where
  name := ⟨name⟩
  location := some ⟨"file:///cp/app/"⟩
  fields := types.map fun declared => { name := "f", declared }

/-- The test and a class of its fields refer to each other. -/
def circle : Environment where
  registry := (TypeRegistry.initial.addRoot ⟨"file:///cp/app/"⟩ true).registerAll
    [circleClass "com.example.ATest" [.cls ⟨"com.example.B"⟩, .cls ⟨"org.lib.Missing"⟩,
        .array (.cls ⟨"com.example.Q"⟩), .cls ⟨"com.example.D"⟩, .cls ⟨"com.example.E"⟩],
      circleClass "com.example.B" [.parameterized ⟨"com.example.ATest"⟩ [.cls ⟨"com.example.B"⟩]],
      (circleClass "com.example.Q" []).withKind .marker,
      circleClass "com.example.D" [], circleClass "com.example.E" []]
  configuration := { testClass := ⟨"com.example.ATest"⟩ }

theorem complete_circle :
    complete circle {} [circlePlugin] =
      [⟨"com.example.ATest"⟩, ⟨"com.example.B"⟩, ⟨"org.lib.Missing"⟩, ⟨"com.example.Q"⟩,
        ⟨"com.example.D"⟩, ⟨"com.example.E"⟩].foldl (fun run name => run.visit circle name)
        (seeded circle {} [circlePlugin]) :=
  drain_of_isRoute (by decide +kernel) _

/-- The class that was left out after its inspection is still a node with an edge, but not deployed. -/
def circleReport : Report where
  descriptor := { discovered := .ofList [⟨"com.example.ATest"⟩, ⟨"com.example.E"⟩] }
  graph :=
    { nodes := .ofList [⟨"com.example.ATest"⟩, ⟨"com.example.B"⟩, ⟨"org.lib.Missing"⟩,
        ⟨"com.example.Q"⟩, ⟨"com.example.D"⟩, ⟨"com.example.E"⟩]
      edges := .ofList [(⟨"com.example.ATest"⟩, ⟨"com.example.B"⟩),
        (⟨"com.example.ATest"⟩, ⟨"org.lib.Missing"⟩), (⟨"com.example.ATest"⟩, ⟨"com.example.Q"⟩),
        (⟨"com.example.ATest"⟩, ⟨"com.example.D"⟩), (⟨"com.example.ATest"⟩, ⟨"com.example.E"⟩)] }
  stats := ⟨6, 4, 2⟩

theorem report_circle : (complete circle {} [circlePlugin]).report {} = .ok circleReport := by
  rw [complete_circle]
  decide +kernel

end Run
end BeanDiscovery
