import BeanDiscovery.Proofs.Replays
import BeanDiscovery.Proofs.VisitSteps

/-!
# A discovery made twice

A bootstrap keeps its memory of scans and its plugins with their probes from one discovery to the next. When
the same discovery is made again, all that it can ask for is remembered, whatever the memory and the probes
held before. The main statement says that the second outcome is the first one and that only the count of
hits goes up.
-/
namespace BeanDiscovery

namespace Context

/-- With the bean archives remembered, a start differs in the memory alone. -/
theorem start_again {env : Environment} {scans memory : ScanCache}
    (h : memory.archives = (start env scans).scans.archives) :
    start env memory = (start env scans).withScans (memory.withHits (memory.cacheHits + 1)) := by
  have hknown : memory.archives = some (scans.beanArchiveRoots env.scanner).1 :=
    h.trans (ScanCache.archives_beanArchiveRoots scans env.scanner)
  rw [start, ScanCache.beanArchiveRoots_of_known hknown]
  rfl

end Context

namespace Run
variable {env : Environment} {scans memory : ScanCache} {plugins later : List Plugin}
  {run final : Run} {candidate : ClassName} {info : ClassInfo}

/-- The same run with another memory and other plugins behind it. -/
def withMemory (run : Run) (scans : ScanCache) (plugins : List Plugin) : Run :=
  { run with plugins, progress := run.progress.withScans scans }

/-- What a run has learned is known to a memory and to plugins. -/
structure Kept (memory : ScanCache) (later : List Plugin) (run : Run) : Prop where
  scans : run.context.scans.Within memory
  archives : run.context.scans.archives = memory.archives
  plugins : List.Forall₂ Plugin.Settles run.plugins later

theorem kept_self (run : Run) : run.Kept run.context.scans run.plugins :=
  ⟨.refl _, rfl, List.forall₂_same.2 fun plugin _ => .refl plugin⟩

/-! ## What was learned before -/

/-- What a run had learned before a call it still knows after it. -/
theorem kept_of_call {point : HookPoint} (h : (run.call env point).Kept memory later) :
    run.Kept memory later where
  scans := (Plugin.grows_callEach env point 0 run.plugins run.progress).scans.trans h.scans
  archives := by
    rw [← h.archives, context_call, Context.archives_takeAll]
  plugins := Plugin.settles_of_callEach h.plugins

theorem kept_of_callAll {points : List HookPoint} (h : (run.callAll env points).Kept memory later) :
    run.Kept memory later := by
  induction points generalizing run with
  | nil => exact h
  | cons point points ih => exact kept_of_call (ih h)

theorem kept_of_inspect (h : (run.inspect env info).Kept memory later) : run.Kept memory later := by
  have hcalls : ((run.update (·.turnTo info)).callAll env info.hookPoints).Kept memory later :=
    ⟨h.scans, h.archives, h.plugins⟩
  have hturn := kept_of_callAll hcalls
  have hscans : (run.context.turnTo info).scans = run.context.scans := by
    rw [Context.turnTo]
    split <;> rfl
  exact ⟨hscans ▸ hturn.scans, hscans ▸ hturn.archives, hturn.plugins⟩

theorem kept_of_visit (h : (run.visit env candidate).Kept memory later) :
    run.Kept memory later := by
  cases ht : run.context.target? env candidate with
  | none =>
    rw [visit_of_skipped ht] at h
    exact ⟨h.scans, h.archives, h.plugins⟩
  | some info =>
    rw [visit_of_target ht] at h
    exact kept_of_inspect ⟨h.scans, h.archives, h.plugins⟩

/-- What is known at the end of a run was known after each of its visits. -/
theorem Visits.kept {visits : List Visit} (h : Visits env run visits final)
    (hfinal : final.Kept memory later) :
    run.Kept memory later ∧
      ∀ visit ∈ visits, (visit.before.visit env visit.candidate).Kept memory later := by
  induction h with
  | stop h => exact ⟨hfinal, fun _ hmem => (List.not_mem_nil hmem).elim⟩
  | visit hf hn rest ih =>
    obtain ⟨hafter, hvisits⟩ := ih hfinal
    exact ⟨kept_of_visit hafter, List.forall_mem_cons.2 ⟨hafter, hvisits⟩⟩

/-! ## The same again -/

theorem call_again {point : HookPoint} (h : (run.call env point).Kept memory later) (hits : Nat) :
    ∃ hits', (run.withMemory (memory.withHits hits) later).call env point =
      (run.call env point).withMemory (memory.withHits hits') later := by
  obtain ⟨hits', hcalls⟩ := Plugin.callEach_again h.scans h.plugins hits
  refine ⟨hits', ?_⟩
  rw [call, withMemory, hcalls]
  rfl

theorem callAll_again {points : List HookPoint} (h : (run.callAll env points).Kept memory later)
    (hits : Nat) :
    ∃ hits', (run.withMemory (memory.withHits hits) later).callAll env points =
      (run.callAll env points).withMemory (memory.withHits hits') later := by
  induction points generalizing run hits with
  | nil => exact ⟨hits, rfl⟩
  | cons point points ih =>
    obtain ⟨between, hfirst⟩ := call_again (kept_of_callAll h) hits
    obtain ⟨hits', hrest⟩ := ih h between
    refine ⟨hits', ?_⟩
    rw [callAll, List.foldl_cons, hfirst]
    exact hrest

theorem inspect_again (h : (run.inspect env info).Kept memory later) (hits : Nat) :
    ∃ hits', (run.withMemory (memory.withHits hits) later).inspect env info =
      (run.inspect env info).withMemory (memory.withHits hits') later := by
  have hturn : (run.withMemory (memory.withHits hits) later).update (·.turnTo info) =
      (run.update (·.turnTo info)).withMemory (memory.withHits hits) later := by
    simp only [update, withMemory, Progress.withScans, Context.turnTo_withScans]
  have hkept : ((run.update (·.turnTo info)).callAll env info.hookPoints).Kept memory later :=
    ⟨h.scans, h.archives, h.plugins⟩
  obtain ⟨hits', hcalls⟩ := callAll_again hkept hits
  refine ⟨hits', ?_⟩
  rw [inspect, hturn, hcalls]
  rfl

/-- A visit that is made again. -/
theorem visit_again (h : (run.visit env candidate).Kept memory later) (hits : Nat) :
    ∃ hits', (run.withMemory (memory.withHits hits) later).visit env candidate =
      (run.visit env candidate).withMemory (memory.withHits hits') later := by
  have htarget : (run.withMemory (memory.withHits hits) later).context.target? env candidate =
      run.context.target? env candidate := rfl
  cases ht : run.context.target? env candidate with
  | none =>
    refine ⟨hits, ?_⟩
    rw [visit_of_skipped ht, visit_of_skipped (htarget.trans ht)]
    rfl
  | some info =>
    rw [visit_of_target ht] at h
    have hkept : (run.inspect env info).Kept memory later := ⟨h.scans, h.archives, h.plugins⟩
    obtain ⟨hits', hinspect⟩ := inspect_again hkept hits
    refine ⟨hits', ?_⟩
    rw [visit_of_target ht, visit_of_target (htarget.trans ht), hinspect]
    rfl

/-- The start of a run with the memory that was left by a run from the same start. -/
theorem start_again (h : (start env scans plugins).Kept memory later) :
    ∃ hits, start env memory later =
      (start env scans plugins).withMemory (memory.withHits hits) later := by
  have hoffer := Context.scans_enqueueAll
    ((Context.start env scans).discover env.configuration.testClass) [env.configuration.testClass]
  have harchives : memory.archives = (Context.start env scans).scans.archives :=
    h.archives.symm.trans (congrArg (·.archives) hoffer)
  refine ⟨memory.cacheHits + 1, ?_⟩
  have hcontext := Context.enqueue_withScans
    ((Context.start env scans).discover env.configuration.testClass)
    (memory.withHits (memory.cacheHits + 1)) env.configuration.testClass
  rw [start, Context.start_again harchives]
  exact congrArg (fun context : Context => ({ plugins := later, progress := { context } } : Run))
    hcontext

theorem seeded_again (h : (seeded env scans plugins).Kept memory later) :
    ∃ hits, seeded env memory later =
      (seeded env scans plugins).withMemory (memory.withHits hits) later := by
  have hscans := Context.scans_enqueueAll
    ((start env scans plugins).call env (.bootstrap env.configuration.testClass)).context
    env.configuration.additionalClasses
  have hcall : ((start env scans plugins).call env
      (.bootstrap env.configuration.testClass)).Kept memory later :=
    ⟨hscans ▸ h.scans, hscans ▸ h.archives, h.plugins⟩
  obtain ⟨between, hstart⟩ := start_again (kept_of_call hcall)
  obtain ⟨hits, hboot⟩ := call_again hcall between
  refine ⟨hits, ?_⟩
  rw [seeded, hstart, hboot]
  simp only [seeded, update, withMemory, Progress.withScans, Context.enqueueAll_withScans]

/-- A run that is made again with the memory and the plugins that it left differs in the count of hits
alone. -/
theorem complete_again (env : Environment) (scans : ScanCache) (plugins : List Plugin) :
    let first := complete env scans plugins
    ∃ hits, complete env first.context.scans first.plugins =
      first.withMemory (first.context.scans.withHits hits) first.plugins := by
  intro first
  have hvisits : Visits env (seeded env scans plugins) (visits env scans plugins) first :=
    visits_complete env scans plugins
  -- All that the first run learned is kept in what it left, so each of its visits can be made again.
  obtain ⟨hseeded, hkept⟩ := hvisits.kept (kept_self first)
  refine hvisits.drain_of_partner
    (R := fun run other => ∃ hits,
      other = run.withMemory (first.context.scans.withHits hits) first.plugins) ?_ ?_ ?_
    (seeded_again hseeded) _
  · rintro run other ⟨hits, rfl⟩
    rfl
  · rintro run other ⟨hits, rfl⟩
    rfl
  · rintro visit hvisit other ⟨hits, rfl⟩
    exact visit_again (hkept visit hvisit) hits

end Run

/-- A discovery that is made twice with the same registry and the same container, whatever earlier
discoveries have left in the memory of scans and in the probes of the plugins, has the same account of
calls and the same report, or fails with the same error, both times. The second one scans nothing, and
leaves everything as it found it but for the count of hits. -/
theorem Bootstrap.discover_again (bootstrap : Bootstrap) (registry : TypeRegistry)
    (scanner : Scanner) (configuration : TestConfiguration) :
    let first := bootstrap.discover registry scanner configuration
    let second := first.2.discover registry scanner configuration
    second.1 = first.1 ∧
      second.2.scans.physicalScans = first.2.scans.physicalScans ∧
      second.2 =
        { first.2 with
          scans := { first.2.scans with cacheHits := second.2.scans.cacheHits } } := by
  intro first second
  obtain ⟨hits, hagain⟩ := Run.complete_again
    { registry, scanner, container := bootstrap.container.interface, configuration }
    bootstrap.scans bootstrap.plugins
  have hsecond : second = (first.1, { first.2 with scans := first.2.scans.withHits hits }) :=
    congrArg (fun run : Run =>
      ((⟨run.progress.account.reverse, run.report bootstrap.assembler⟩ : Outcome),
        { bootstrap with scans := run.context.scans, plugins := run.plugins })) hagain
  rw [hsecond]
  exact ⟨rfl, rfl, rfl⟩

end BeanDiscovery
