import BeanDiscovery.Proofs.Ignores

/-!
# Runs that spare a name

A run is compared with one whose plugins do the same but never leave out a certain name. Nothing but the
visit of the name looks at whether it is left out, so the two runs agree up to the set of names that are
left out, unless the name was left out before its visit. The main statement says what becomes of a name
that plugins leave out at any moment of a run.
-/
namespace BeanDiscovery

/-- The elements outside a set that has `a` are those outside the rest of the set, without `a`. -/
theorem OrderedSet.filter_notMem_eq_erase {α : Type} [DecidableEq α] {t : OrderedSet α} {a : α}
    (s : OrderedSet α) (h : a ∈ t) :
    s.filter (fun b => decide (b ∉ t)) = (s.filter fun b => decide (b ∉ t.erase a)).erase a := by
  apply ext
  rw [toList_erase, toList_filter, toList_filter, (s.nodup.filter _).erase_eq_filter,
    List.filter_filter]
  apply List.filter_congr
  intro b _
  by_cases hb : b = a
  · simp [hb, h]
  · simp [hb]

/-! ## Plugins that spare a name -/

/-- The actions that do what an action does but never leave a name out. -/
def Action.sparing (registry : TypeRegistry) (name : ClassName) : Action → List Action
  | .ignore ref =>
    ((ref.identities registry).filter fun other => decide (other ≠ name)).map
      fun other => .ignore (.ofClass other)
  | action => [action]

def Contribution.sparing (registry : TypeRegistry) (name : ClassName) : Contribution → Contribution
  | .done => .done
  | .fail error => .fail error
  | .act action rest => (action.sparing registry name).foldr .act (rest.sparing registry name)
  | .scanArchives bases next =>
    .scanArchives bases fun names => (next names).sparing registry name
  | .scanPackages bases next =>
    .scanPackages bases fun names => (next names).sparing registry name
  | .consult sentinel next => .consult sentinel fun answer => (next answer).sparing registry name
  | .note answer rest => .note answer (rest.sparing registry name)

/-- The plugin that does the same but never leaves a name out. -/
def Plugin.sparing (name : ClassName) (plugin : Plugin) : Plugin :=
  { plugin with
    respond := fun env point => (plugin.respond env point).sparing env.registry name }

/-- The same context, in which a name is not left out. -/
def Context.sparing (name : ClassName) (context : Context) : Context :=
  { context with
    findings := { context.findings with ignored := context.findings.ignored.erase name } }

def Progress.sparing (name : ClassName) (progress : Progress) : Progress :=
  { progress with context := progress.context.sparing name }

def Call.sparing (name : ClassName) (call : Call) : Call :=
  { call with context := call.context.sparing name }

/-- The same run, in which a name is not left out and the plugins spare it. -/
def Run.sparing (name : ClassName) (run : Run) : Run :=
  { run with plugins := run.plugins.map (·.sparing name), progress := run.progress.sparing name }

/-! ## Steps -/

namespace Context
variable {env : Environment} {name : ClassName}

theorem enqueue_sparing (context : Context) (name other : ClassName) :
    (context.sparing name).enqueue other = (context.enqueue other).sparing name := by
  rw [enqueue, enqueue]
  change (if context.worklist.knows other then _ else _) = _
  split <;> rfl

theorem enqueueAll_sparing (context : Context) (name : ClassName) (names : List ClassName) :
    (context.sparing name).enqueueAll names = (context.enqueueAll names).sparing name :=
  enqueueAll_comm (fun context other => enqueue_sparing context name other) context names

theorem scanArchives_sparing (context : Context) (env : Environment) (name : ClassName)
    (bases : List ClassName) :
    (context.sparing name).scanArchives env bases =
      ((context.scanArchives env bases).1, (context.scanArchives env bases).2.sparing name) := by
  rw [scanArchives, scanArchives]
  split <;> rfl

theorem scanPackage_sparing (context : Context) (env : Environment) (name base : ClassName) :
    (context.sparing name).scanPackage env base =
      ((context.scanPackage env base).1, (context.scanPackage env base).2.sparing name) := by
  rw [scanPackage, scanPackage]
  split <;> rfl

theorem scanPackages_sparing (context : Context) (env : Environment) (name : ClassName)
    (bases : List ClassName) :
    (context.sparing name).scanPackages env bases =
      ((context.scanPackages env bases).1, (context.scanPackages env bases).2.sparing name) := by
  induction bases generalizing context with
  | nil => rfl
  | cons base bases ih => simp only [scanPackages, scanPackage_sparing, ih]

theorem turnTo_sparing (context : Context) (name : ClassName) (info : ClassInfo) :
    (context.sparing name).turnTo info = (context.turnTo info).sparing name := by
  rw [turnTo, turnTo]
  split <;> rfl

/-- Names that are left out one by one. -/
theorem foldl_ignore (context : Context) (env : Environment) (names : List ClassName) :
    (names.map fun other => Action.ignore (.ofClass other)).foldl
        (fun context action => context.perform env action) context =
      { context with findings := context.findings.ignore names } := by
  induction names generalizing context with
  | nil => rfl
  | cons other names ih => exact ih _

/-- The actions that spare a name do what the action does, but for the name. -/
theorem perform_sparing (context : Context) (env : Environment) (name : ClassName)
    (action : Action) :
    (action.sparing env.registry name).foldl (fun context action => context.perform env action)
      (context.sparing name) = (context.perform env action).sparing name := by
  cases action with
  | offer ref => exact enqueueAll_sparing context name _
  | offerPackage ref =>
    change (context.sparing name).perform env (.offerPackage ref) = _
    rw [perform, scanPackages_sparing]
    exact enqueueAll_sparing _ name _
  | offerArchive ref =>
    change (context.sparing name).perform env (.offerArchive ref) = _
    rw [perform, scanArchives_sparing]
    exact enqueueAll_sparing _ name _
  | ignore ref =>
    have herase := OrderedSet.erase_insertAll context.findings.ignored
      (ref.identities env.registry) name
    rw [Action.sparing, foldl_ignore, perform]
    simp only [sparing, Findings.ignore, herase]
  | activate group ref => cases group <;> rfl
  | register registration => rfl

/-- Whether a name is inspected does not change, unless it was left out. -/
theorem target?_sparing {context : Context} {candidate : ClassName}
    (h : candidate = name → name ∉ context.findings.ignored) :
    (context.sparing name).target? env candidate = context.target? env candidate := by
  have hignored : (context.sparing name).isIgnored candidate = context.isIgnored candidate := by
    apply decide_eq_decide.2
    change candidate ∈ context.findings.ignored.erase name ↔ candidate ∈ context.findings.ignored
    rw [OrderedSet.mem_erase]
    constructor
    · exact And.right
    · intro hmem
      refine ⟨?_, hmem⟩
      rintro rfl
      exact h rfl hmem
  rw [target?, target?, hignored]
  rfl

end Context

/-! ## Calls -/

namespace Contribution

theorem perform_foldr_act (env : Environment) (actions : List Action) (rest : Contribution) (call : Call) :
    (actions.foldr .act rest).perform env call =
      rest.perform env
        { call with
          context := actions.foldl (fun context action => context.perform env action)
            call.context } := by
  induction actions generalizing call with
  | nil => rfl
  | cons action actions ih => exact ih _

theorem perform_sparing (env : Environment) (name : ClassName) (contribution : Contribution)
    (call : Call) :
    (contribution.sparing env.registry name).perform env (call.sparing name) =
      (contribution.perform env call).sparing name := by
  induction contribution generalizing call with
  | done => rfl
  | fail error => rfl
  | act action rest ih =>
    refine Eq.trans ?_ (ih { call with context := call.context.perform env action })
    rw [sparing, perform_foldr_act, Call.sparing, Context.perform_sparing]
    rfl
  | scanArchives bases next ih =>
    refine Eq.trans ?_ (ih _ { call with context := (call.context.scanArchives env bases).2 })
    rw [sparing, perform, Call.sparing, Context.scanArchives_sparing]
    rfl
  | scanPackages bases next ih =>
    refine Eq.trans ?_ (ih _ { call with context := (call.context.scanPackages env bases).2 })
    rw [sparing, perform, Call.sparing, Context.scanPackages_sparing]
    rfl
  | consult sentinel next ih =>
    exact ih _
      { call with probes := (LibraryProbe.askAmong env.registry sentinel call.probes).2 }
  | note answer rest ih => exact ih { call with answers := call.answers ++ [answer] }

end Contribution

namespace Plugin

theorem call_sparing (env : Environment) (point : HookPoint) (name : ClassName) (plugin : Plugin)
    (position : Nat) (progress : Progress) :
    (plugin.sparing name).call env point position (progress.sparing name) =
      ((plugin.call env point position progress).1.sparing name,
        (plugin.call env point position progress).2.sparing name) := by
  have hperform := Contribution.perform_sparing env name (plugin.respond env point)
    { context := progress.context, probes := plugin.probes }
  by_cases hfailed : progress.failure.isSome = true
  · have hfailed' : (progress.sparing name).failure.isSome = true := hfailed
    rw [call_of_failure hfailed, call_of_failure hfailed']
  · have hfailed' : ¬ (progress.sparing name).failure.isSome = true := hfailed
    rw [call, call, if_neg hfailed, if_neg hfailed']
    exact congrArg (fun call : Call => ({ plugin.sparing name with probes := call.probes },
      progress.after position point call)) hperform

theorem callEach_sparing (env : Environment) (point : HookPoint) (name : ClassName)
    (plugins : List Plugin) (position : Nat) (progress : Progress) :
    callEach env point position (plugins.map (·.sparing name)) (progress.sparing name) =
      ((callEach env point position plugins progress).1.map (·.sparing name),
        (callEach env point position plugins progress).2.sparing name) := by
  induction plugins generalizing position progress with
  | nil => rfl
  | cons plugin plugins ih => simp only [List.map_cons, callEach, call_sparing, ih]

end Plugin

/-! ## Runs -/

namespace Run
variable {env : Environment} {scans : ScanCache} {plugins : List Plugin} {run : Run}
  {candidate name : ClassName}

theorem call_sparing (run : Run) (env : Environment) (name : ClassName) (point : HookPoint) :
    (run.sparing name).call env point = (run.call env point).sparing name := by
  have hcalls := Plugin.callEach_sparing env point name run.plugins 0 run.progress
  rw [call, sparing, hcalls]
  rfl

theorem callAll_sparing (run : Run) (env : Environment) (name : ClassName)
    (points : List HookPoint) :
    (run.sparing name).callAll env points = (run.callAll env points).sparing name := by
  induction points generalizing run with
  | nil => rfl
  | cons point points ih =>
    rw [callAll, List.foldl_cons, call_sparing]
    exact ih (run.call env point)

theorem inspect_sparing (run : Run) (env : Environment) (name : ClassName) (info : ClassInfo) :
    (run.sparing name).inspect env info = (run.inspect env info).sparing name := by
  have hturn : (run.sparing name).update (·.turnTo info) =
      (run.update (·.turnTo info)).sparing name := by
    simp only [update, sparing, Progress.sparing, Context.turnTo_sparing]
  rw [inspect, hturn, callAll_sparing]
  rfl

/-- A visit does not look at whether a name is left out, unless it is the visit of the name. -/
theorem visit_sparing (h : candidate = name → name ∉ run.context.findings.ignored) :
    (run.sparing name).visit env candidate = (run.visit env candidate).sparing name := by
  have htarget : (run.sparing name).context.target? env candidate =
      run.context.target? env candidate := Context.target?_sparing h
  cases ht : run.context.target? env candidate with
  | none =>
    rw [visit_of_skipped ht, visit_of_skipped (htarget.trans ht)]
    rfl
  | some info =>
    rw [visit_of_target ht, visit_of_target (htarget.trans ht), inspect_sparing]
    rfl

theorem start_sparing (env : Environment) (scans : ScanCache) (plugins : List Plugin)
    (name : ClassName) :
    start env scans (plugins.map (·.sparing name)) = (start env scans plugins).sparing name := by
  have hcontext := Context.enqueue_sparing
    ((Context.start env scans).discover env.configuration.testClass) name
    env.configuration.testClass
  have hfresh : ((Context.start env scans).discover env.configuration.testClass).sparing name =
      (Context.start env scans).discover env.configuration.testClass := rfl
  rw [hfresh] at hcontext
  simp only [start, sparing, Progress.sparing, ← hcontext]

theorem seeded_sparing (env : Environment) (scans : ScanCache) (plugins : List Plugin)
    (name : ClassName) :
    seeded env scans (plugins.map (·.sparing name)) = (seeded env scans plugins).sparing name := by
  rw [seeded, start_sparing, call_sparing]
  simp only [seeded, update, sparing, Progress.sparing, Context.enqueueAll_sparing]

/-- A name that was not left out in time is not left out before any visit of its own. -/
theorem notMem_ignored_of_late (hf : (complete env scans plugins).failure = none)
    (h : ¬ IgnoredInTime env scans plugins name) :
    ∀ visit ∈ visits env scans plugins, visit.candidate = name →
      name ∉ visit.before.context.findings.ignored := by
  rw [ignoredInTime_iff] at h
  simp only [not_forall] at h
  obtain ⟨late, hlate, hname, hignored⟩ := h
  -- No name is visited twice, so the visit at hand is the late one.
  intro visit hvisit hcandidate
  have hsame : visit = late :=
    List.inj_on_of_nodup_map (nodup_taken hf) hvisit hlate (hcandidate.trans hname.symm)
  rw [hsame]
  exact hignored

/-- The run of the plugins that spare a name is the run of the plugins, unless the name was left out in
time. -/
theorem complete_sparing (hf : (complete env scans plugins).failure = none)
    (h : ¬ IgnoredInTime env scans plugins name) :
    complete env scans (plugins.map (·.sparing name)) =
      (complete env scans plugins).sparing name := by
  have hlate := notMem_ignored_of_late hf h
  -- The two runs are followed visit by visit; only the visit of the name could tell them apart.
  refine (visits_complete env scans plugins).drain_of_partner
    (R := fun run other => other = run.sparing name) ?_ ?_ ?_
    (seeded_sparing env scans plugins name) _
  · rintro run other rfl
    rfl
  · rintro run other rfl
    rfl
  · rintro visit hvisit other rfl
    exact visit_sparing (hlate visit hvisit)

/-! ## Reports -/

/-- Where a name was left out in the end, sparing it can add it to the deployment and changes nothing else
of a report. -/
theorem report_sparing {assembler : Assembler} {report : Report}
    (hreport : run.report assembler = .ok report) (h : name ∈ run.context.findings.ignored) :
    ∃ spared, (run.sparing name).report assembler = .ok spared ∧
      report =
        { spared with
          descriptor :=
            { spared.descriptor with discovered := spared.descriptor.discovered.erase name } } ∧
      (name ∈ spared.descriptor.discovered ↔ name ∈ run.context.findings.discovered) := by
  have hf := failure_of_report hreport
  have hfailure : (run.sparing name).failure = none := hf
  have hdiscovered := OrderedSet.filter_notMem_eq_erase run.context.findings.discovered h
  refine ⟨{ descriptor := assembler.assemble (run.sparing name).context.findings
            graph := run.context.findings.graph
            stats := run.trail.stats }, ?_, ?_, ?_⟩
  · rw [Run.report, hfailure]
    rfl
  · rw [eq_of_report hreport, Assembler.assemble, hdiscovered]
    rfl
  · have hspared : name ∉ (run.sparing name).context.findings.ignored := by
      change name ∉ run.context.findings.ignored.erase name
      simp
    rw [Assembler.mem_discovered_assemble]
    exact ⟨And.left, fun hmem => ⟨hmem, hspared⟩⟩

/-- What becomes of a name that plugins leave out, before the traversal or during any visit of a run
that ends well. It is not deployed. If it was left out whenever it was taken off the worklist, the
plugins are never called for it, but for the call before the traversal, and no edge of the graph leads
from it. Otherwise the run is, but for the names that are left out, the run of the plugins that never
leave it out: the same calls, graph, counters and lists, and the same discovered classes; the name is
then deployed if it is one of them. -/
theorem left_out_of_report {assembler : Assembler} {report : Report}
    (hreport : (complete env scans plugins).report assembler = .ok report)
    (hignored : name ∈ ignoredDuring env scans plugins (visits env scans plugins)) :
    name ∉ report.descriptor.discovered ∧
    (IgnoredInTime env scans plugins name →
      (∀ entry ∈ (complete env scans plugins).progress.account, ∀ point,
        entry.event = .called point → point.stage ≠ .bootstrap → point.subject ≠ name) ∧
      ∀ target, (name, target) ∉ report.graph.edges) ∧
    (¬ IgnoredInTime env scans plugins name →
      complete env scans (plugins.map (·.sparing name)) =
        (complete env scans plugins).sparing name ∧
      ∃ spared, (complete env scans (plugins.map (·.sparing name))).report assembler = .ok spared ∧
        report =
          { spared with
            descriptor :=
              { spared.descriptor with
                discovered := spared.descriptor.discovered.erase name } } ∧
        (name ∈ spared.descriptor.discovered ↔
          name ∈ (complete env scans plugins).context.findings.discovered)) := by
  have hf := failure_of_report hreport
  have hfinal := mem_ignored_complete.2 hignored
  have heq := eq_of_report hreport
  refine ⟨?_, ?_, ?_⟩
  · rw [heq, Assembler.mem_discovered_assemble]
    exact fun hmem => hmem.2 hfinal
  · intro hearly
    have hinspected := notMem_inspected hearly
    constructor
    · intro entry hentry point hpoint hstage hsubject
      apply hinspected
      rw [← hsubject]
      exact callsInspected_complete env scans plugins entry hentry point hpoint hstage
    · intro target hedge
      rw [heq] at hedge
      exact hinspected (mem_inspected_of_edge hedge)
  · intro hlate
    have hspared := complete_sparing hf hlate
    rw [hspared]
    exact ⟨rfl, report_sparing hreport hfinal⟩

/-- The visits of the circle, each with the names that are left out before it. -/
def circleVisits : List (ClassName × List ClassName) :=
  [(⟨"com.example.ATest"⟩, []), (⟨"com.example.B"⟩, []), (⟨"org.lib.Missing"⟩, []),
    (⟨"com.example.Q"⟩, []), (⟨"com.example.D"⟩, [⟨"com.example.B"⟩, ⟨"com.example.D"⟩]),
    (⟨"com.example.E"⟩, [⟨"com.example.B"⟩, ⟨"com.example.D"⟩])]

theorem visits_circle :
    (visits circle {} [circlePlugin]).map (fun visit =>
      (visit.candidate, visit.before.context.findings.ignored.toList)) = circleVisits := by
  rw [visits,
    visitsFrom_of_next? ⟨"com.example.ATest"⟩ _ (by decide +kernel) (by decide +kernel),
    visitsFrom_of_next? ⟨"com.example.B"⟩ _ (by decide +kernel) (by decide +kernel),
    visitsFrom_of_next? ⟨"org.lib.Missing"⟩ _ (by decide +kernel) (by decide +kernel),
    visitsFrom_of_next? ⟨"com.example.Q"⟩ _ (by decide +kernel) (by decide +kernel),
    visitsFrom_of_next? ⟨"com.example.D"⟩ _ (by decide +kernel) (by decide +kernel),
    visitsFrom_of_next? ⟨"com.example.E"⟩ _ (by decide +kernel) (by decide +kernel),
    visitsFrom_of_halted _ (by decide +kernel)]
  decide +kernel

theorem ignoredInTime_circle {name : ClassName} :
    IgnoredInTime circle {} [circlePlugin] name ↔
      ∀ visit ∈ circleVisits, visit.1 = name → name ∈ visit.2 := by
  rw [ignoredInTime_iff, ← visits_circle, List.forall_mem_map]
  rfl

/-- The class that was left out while it waited offers nothing. The one that was left out after its
inspection was discovered, and is deployed when the plugin spares it. -/
theorem left_out_circle :
    ⟨"com.example.D"⟩ ∉ circleReport.descriptor.discovered ∧
    (∀ target, (⟨"com.example.D"⟩, target) ∉ circleReport.graph.edges) ∧
    ⟨"com.example.B"⟩ ∉ circleReport.descriptor.discovered ∧
    ∃ spared, (complete circle {} [circlePlugin.sparing ⟨"com.example.B"⟩]).report {} = .ok spared ∧
      spared.graph = circleReport.graph ∧ spared.stats = circleReport.stats ∧
      ⟨"com.example.B"⟩ ∈ spared.descriptor.discovered := by
  have hignored : ∀ name ∈ [⟨"com.example.B"⟩, ⟨"com.example.D"⟩],
      name ∈ ignoredDuring circle {} [circlePlugin] (visits circle {} [circlePlugin]) := by
    intro name hname
    rw [← mem_ignored_complete, complete_circle]
    revert name
    decide +kernel
  have hearly : IgnoredInTime circle {} [circlePlugin] ⟨"com.example.D"⟩ := by
    rw [ignoredInTime_circle]
    decide +kernel
  have hlate : ¬ IgnoredInTime circle {} [circlePlugin] ⟨"com.example.B"⟩ := by
    rw [ignoredInTime_circle]
    decide +kernel
  have hdiscovered : ⟨"com.example.B"⟩ ∈
      (complete circle {} [circlePlugin]).context.findings.discovered := by
    rw [complete_circle]
    decide +kernel
  obtain ⟨hD, hsilent, -⟩ := left_out_of_report report_circle (hignored ⟨"com.example.D"⟩ (by simp))
  obtain ⟨hB, -, hspared⟩ := left_out_of_report report_circle (hignored ⟨"com.example.B"⟩ (by simp))
  obtain ⟨-, spared, hreport, heq, hmem⟩ := hspared hlate
  exact ⟨hD, (hsilent hearly).2, hB, spared, hreport, (congrArg (·.graph) heq).symm,
    (congrArg (·.stats) heq).symm, hmem.2 hdiscovered⟩

end Run
end BeanDiscovery
