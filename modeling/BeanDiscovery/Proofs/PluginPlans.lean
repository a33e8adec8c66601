import BeanDiscovery.Proofs.ScanMemory
import BeanDiscovery.Traversal

/-!
# The plans of plugins

A contribution is a program that waits for answers: names that a scan finds, and whether a library is
there. Where the answers are known, from a memory that remembers the scans and from the registry, the
steps of the program are a fixed list, its plan. The main statements say that a call takes exactly the
steps of the plan, and that the inspection of a class takes the plans of all plugins at all hook points
of the class.
-/
namespace BeanDiscovery

/-! ## Probes that tell the truth -/

namespace LibraryProbe
variable {registry : TypeRegistry}

/-- What the probe knows is what the registry says. -/
def Truthful (registry : TypeRegistry) (probe : LibraryProbe) : Prop :=
  ∀ answer, probe.answer = some answer → answer = registry.isPresent probe.sentinel

theorem Truthful.ask {probe : LibraryProbe} (h : probe.Truthful registry) :
    (probe.ask registry).1 = registry.isPresent probe.sentinel ∧
      (probe.ask registry).2.Truthful registry := by
  have hanswer : (probe.ask registry).1 = registry.isPresent probe.sentinel := by
    cases ha : probe.answer with
    | none => rw [LibraryProbe.ask, ha]
    | some answer =>
      rw [ask_of_answer ha]
      exact h answer ha
  refine ⟨hanswer, fun answer ha => ?_⟩
  rw [answer_ask, hanswer] at ha
  rw [sentinel_ask]
  exact (Option.some.inj ha).symm

theorem truthful_askAmong {probes : List LibraryProbe} (h : ∀ probe ∈ probes, probe.Truthful registry)
    (sentinel : ClassName) :
    (askAmong registry sentinel probes).1 = registry.isPresent sentinel ∧
      ∀ probe ∈ (askAmong registry sentinel probes).2, probe.Truthful registry := by
  induction probes with
  | nil =>
    have hfresh : ({ sentinel } : LibraryProbe).Truthful registry := fun _ ha => by cases ha
    exact ⟨hfresh.ask.1, List.forall_mem_singleton.2 hfresh.ask.2⟩
  | cons probe probes ih =>
    obtain ⟨hprobe, hprobes⟩ := List.forall_mem_cons.1 h
    rw [askAmong]
    split
    next hsentinel =>
      exact ⟨hsentinel ▸ hprobe.ask.1, List.forall_mem_cons.2 ⟨hprobe.ask.2, hprobes⟩⟩
    next => exact ⟨(ih hprobes).1, List.forall_mem_cons.2 ⟨hprobe, (ih hprobes).2⟩⟩

end LibraryProbe

/-! ## Contributions -/

namespace Contribution

/-- The steps of a contribution whose answers are known. -/
def plan (registry : TypeRegistry) (memory : ScanCache) : Contribution → List HookStep
  | .done => []
  | .fail _ => []
  | .act action rest => .act action :: rest.plan registry memory
  | .scanArchives bases next =>
    .scanArchives bases :: (next (memory.archiveNames registry bases)).plan registry memory
  | .scanPackages bases next =>
    .scanPackages bases :: (next (memory.packageNames registry bases)).plan registry memory
  | .consult sentinel next => (next (registry.isPresent sentinel)).plan registry memory
  | .note _ rest => rest.plan registry memory

/-- How a contribution ends whose answers are known. -/
def verdict (registry : TypeRegistry) (memory : ScanCache) : Contribution → Option DiscoveryError
  | .done => none
  | .fail error => some error
  | .act _ rest => rest.verdict registry memory
  | .scanArchives bases next =>
    (next (memory.archiveNames registry bases)).verdict registry memory
  | .scanPackages bases next =>
    (next (memory.packageNames registry bases)).verdict registry memory
  | .consult sentinel next => (next (registry.isPresent sentinel)).verdict registry memory
  | .note _ rest => rest.verdict registry memory

variable {env : Environment} {memory : ScanCache}

theorem grows_perform (env : Environment) (contribution : Contribution) (call : Call) :
    call.context.Grows (contribution.perform env call).context := by
  rw [context_perform]
  exact Context.grows_takeAll _ _ _

/-- A contribution takes the steps of its plan and ends with its verdict, and leaves truthful probes. -/
theorem perform_eq (contribution : Contribution) (call : Call) (hfailure : call.failure = none)
    (hprobes : ∀ probe ∈ call.probes, probe.Truthful env.registry)
    (hmemory : (contribution.perform env call).context.scans.Within memory) :
    contribution.steps env call = contribution.plan env.registry memory ∧
      (contribution.perform env call).failure = contribution.verdict env.registry memory ∧
      ∀ probe ∈ (contribution.perform env call).probes, probe.Truthful env.registry := by
  induction contribution generalizing call with
  | done => exact ⟨rfl, hfailure, hprobes⟩
  | fail error => exact ⟨rfl, rfl, hprobes⟩
  | act action rest ih =>
    obtain ⟨hsteps, hrest⟩ :=
      ih { call with context := call.context.perform env action } hfailure hprobes hmemory
    exact ⟨congrArg _ hsteps, hrest⟩
  | scanArchives bases next ih =>
    have hnames : (call.context.scanArchives env bases).1 =
        memory.archiveNames env.registry bases :=
      Context.scanArchives_eq ((grows_perform env (next (call.context.scanArchives env bases).1)
        { call with context := (call.context.scanArchives env bases).2 }).scans.trans hmemory)
    obtain ⟨hsteps, hrest⟩ := ih (call.context.scanArchives env bases).1
      { call with context := (call.context.scanArchives env bases).2 } hfailure hprobes hmemory
    rw [plan, verdict, ← hnames]
    exact ⟨congrArg _ hsteps, hrest⟩
  | scanPackages bases next ih =>
    have hnames : (call.context.scanPackages env bases).1 =
        memory.packageNames env.registry bases :=
      Context.scanPackages_eq ((grows_perform env (next (call.context.scanPackages env bases).1)
        { call with context := (call.context.scanPackages env bases).2 }).scans.trans hmemory)
    obtain ⟨hsteps, hrest⟩ := ih (call.context.scanPackages env bases).1
      { call with context := (call.context.scanPackages env bases).2 } hfailure hprobes hmemory
    rw [plan, verdict, ← hnames]
    exact ⟨congrArg _ hsteps, hrest⟩
  | consult sentinel next ih =>
    obtain ⟨hanswer, hafter⟩ := LibraryProbe.truthful_askAmong hprobes sentinel
    rw [plan, verdict, ← hanswer]
    exact ih _ { call with probes := _ } hfailure hafter hmemory
  | note answer rest ih =>
    exact ih { call with answers := call.answers ++ [answer] } hfailure hprobes hmemory

/-! ## Plans of composed contributions -/

/-- The second of two contributions plans its steps unless the first one fails. -/
theorem plan_append (registry : TypeRegistry) (memory : ScanCache) (first second : Contribution) :
    (first ++ second).plan registry memory = first.plan registry memory ++
      (first.verdict registry memory).elim (second.plan registry memory) fun _ => [] := by
  change (first.append second).plan registry memory = _
  induction first with
  | done => rfl
  | fail error => rfl
  | act action rest ih => exact congrArg _ ih
  | scanArchives bases next ih => exact congrArg _ (ih _)
  | scanPackages bases next ih => exact congrArg _ (ih _)
  | consult sentinel next ih => exact ih _
  | note answer rest ih => exact ih

theorem verdict_append (registry : TypeRegistry) (memory : ScanCache)
    (first second : Contribution) :
    (first ++ second).verdict registry memory =
      (first.verdict registry memory).or (second.verdict registry memory) := by
  change (first.append second).verdict registry memory = _
  induction first with
  | done => rfl
  | fail error => rfl
  | act action rest ih => exact ih
  | scanArchives bases next ih => exact ih _
  | scanPackages bases next ih => exact ih _
  | consult sentinel next ih => exact ih _
  | note answer rest ih => exact ih

@[simp] theorem plan_actions (registry : TypeRegistry) (memory : ScanCache) (steps : List Action) :
    (actions steps).plan registry memory = steps.map .act := by
  induction steps with
  | nil => rfl
  | cons step steps ih => exact congrArg _ ih

@[simp] theorem verdict_actions (registry : TypeRegistry) (memory : ScanCache)
    (steps : List Action) : (actions steps).verdict registry memory = none := by
  induction steps with
  | nil => rfl
  | cons step steps ih => exact ih

/-- Contributions one after the other fail when one of them does. -/
theorem verdict_sequence {registry : TypeRegistry} {memory : ScanCache}
    {contributions : List Contribution} :
    (sequence contributions).verdict registry memory = none ↔
      ∀ contribution ∈ contributions, contribution.verdict registry memory = none := by
  induction contributions with
  | nil => exact ⟨fun _ _ hmem => (List.not_mem_nil hmem).elim, fun _ => rfl⟩
  | cons contribution contributions ih =>
    rw [List.forall_mem_cons, ← ih, ← Option.or_eq_none_iff, ← verdict_append]
    exact Iff.rfl

theorem plan_sequence {registry : TypeRegistry} {memory : ScanCache}
    {contributions : List Contribution}
    (h : (sequence contributions).verdict registry memory = none) :
    (sequence contributions).plan registry memory =
      contributions.flatMap (·.plan registry memory) := by
  induction contributions with
  | nil => rfl
  | cons contribution contributions ih =>
    obtain ⟨hfirst, hrest⟩ := List.forall_mem_cons.1 (verdict_sequence.1 h)
    have happend := plan_append registry memory contribution (sequence contributions)
    rw [hfirst, Option.elim_none, ih (verdict_sequence.2 hrest)] at happend
    exact happend

end Contribution

/-! ## Plugins -/

namespace Plugin
variable {env : Environment} {memory : ScanCache} {point : HookPoint}

def Truthful (registry : TypeRegistry) (plugin : Plugin) : Prop :=
  ∀ probe ∈ plugin.probes, probe.Truthful registry

/-- The steps that a plugin plans at a hook point. -/
def plan (env : Environment) (memory : ScanCache) (point : HookPoint) (plugin : Plugin) :
    List HookStep := (plugin.respond env point).plan env.registry memory

/-- The steps that plugins plan at hook points, point by point. -/
def planAll (env : Environment) (memory : ScanCache) (plugins : List Plugin)
    (points : List HookPoint) : List HookStep :=
  points.flatMap fun point => plugins.flatMap (plan env memory point)

/-- What holds of the answers of some plugins holds of plugins that answer like them. -/
theorem forall_respond_iff {plugins others : List Plugin}
    (h : plugins.map (·.respond) = others.map (·.respond))
    {P : (Environment → HookPoint → Contribution) → Prop} :
    (∀ plugin ∈ plugins, P plugin.respond) ↔ ∀ plugin ∈ others, P plugin.respond := by
  rw [← List.forall_mem_map (P := P), h, List.forall_mem_map]

theorem respond_call (env : Environment) (point : HookPoint) (position : Nat) (plugin : Plugin)
    (progress : Progress) :
    (plugin.call env point position progress).1.respond = plugin.respond := by
  rw [call]
  split <;> rfl

theorem Truthful.call {plugin : Plugin} (h : plugin.Truthful env.registry) (point : HookPoint)
    (position : Nat) (progress : Progress) :
    (plugin.call env point position progress).1.Truthful env.registry := by
  rw [Plugin.call]
  split
  · exact h
  · exact (Contribution.perform_eq (plugin.respond env point)
      { context := progress.context, probes := plugin.probes } rfl h (.refl _)).2.2

/-- A call takes the planned steps and fails when its contribution does. -/
theorem call_eq {plugin : Plugin} (h : plugin.Truthful env.registry) (position : Nat)
    {progress : Progress} (hf : progress.failure = none)
    (hmemory : (plugin.call env point position progress).2.context.scans.Within memory) :
    plugin.steps env point progress = plugin.plan env memory point ∧
      (plugin.call env point position progress).2.failure =
        (plugin.respond env point).verdict env.registry memory := by
  have hrunning : ¬ progress.failure.isSome = true := by simp [hf]
  rw [call, if_neg hrunning] at hmemory ⊢
  rw [steps, if_neg hrunning, plan]
  obtain ⟨hsteps, hverdict, -⟩ := Contribution.perform_eq (plugin.respond env point)
    { context := progress.context, probes := plugin.probes } rfl h hmemory
  exact ⟨hsteps, hverdict⟩

theorem respond_callEach (env : Environment) (point : HookPoint) (position : Nat)
    (plugins : List Plugin) (progress : Progress) :
    (callEach env point position plugins progress).1.map (·.respond) =
      plugins.map (·.respond) := by
  induction plugins generalizing position progress with
  | nil => rfl
  | cons plugin plugins ih =>
    rw [callEach, List.map_cons, List.map_cons, ih, respond_call]

theorem truthful_callEach {plugins : List Plugin}
    (h : ∀ plugin ∈ plugins, plugin.Truthful env.registry) (point : HookPoint) (position : Nat)
    (progress : Progress) :
    ∀ plugin ∈ (callEach env point position plugins progress).1, plugin.Truthful env.registry := by
  induction plugins generalizing position progress with
  | nil => exact h
  | cons plugin plugins ih =>
    obtain ⟨hplugin, hplugins⟩ := List.forall_mem_cons.1 h
    exact List.forall_mem_cons.2 ⟨hplugin.call point position progress, ih hplugins _ _⟩

theorem grows_callEach (env : Environment) (point : HookPoint) (position : Nat)
    (plugins : List Plugin) (progress : Progress) :
    progress.context.Grows (callEach env point position plugins progress).2.context := by
  rw [context_callEach]
  exact Context.grows_takeAll _ _ _

theorem failure_of_callEach {position : Nat} {plugins : List Plugin} {progress : Progress}
    (hf : (callEach env point position plugins progress).2.failure = none) :
    progress.failure = none := by
  cases hfailed : progress.failure with
  | none => rfl
  | some error =>
    rw [callEach_of_failure (by simp [hfailed]), hfailed] at hf
    cases hf

/-- Plugins that are called without a failure take the steps they plan, one plugin after the other. -/
theorem stepsOfEach_eq {plugins : List Plugin}
    (h : ∀ plugin ∈ plugins, plugin.Truthful env.registry) (position : Nat) {progress : Progress}
    (hf : (callEach env point position plugins progress).2.failure = none)
    (hmemory : (callEach env point position plugins progress).2.context.scans.Within memory) :
    stepsOfEach env point position plugins progress = plugins.flatMap (plan env memory point) := by
  induction plugins generalizing position progress with
  | nil => rfl
  | cons plugin plugins ih =>
    obtain ⟨hplugin, hplugins⟩ := List.forall_mem_cons.1 h
    have hbefore := failure_of_callEach hf
    have hgrows := grows_callEach env point (position + 1) plugins
      (plugin.call env point position progress).2
    obtain ⟨hsteps, -⟩ := call_eq hplugin position hbefore (hgrows.scans.trans hmemory)
    rw [stepsOfEach, List.flatMap_cons, hsteps]
    exact congrArg _ (ih hplugins (position + 1) hf hmemory)

/-- A call takes planned steps or none. -/
theorem steps_subset {plugin : Plugin} (h : plugin.Truthful env.registry) (position : Nat)
    {progress : Progress}
    (hmemory : (plugin.call env point position progress).2.context.scans.Within memory) :
    plugin.steps env point progress ⊆ plugin.plan env memory point := by
  cases hf : progress.failure with
  | none =>
    rw [(call_eq h position hf hmemory).1]
    exact List.Subset.refl _
  | some error =>
    rw [steps, if_pos (by simp [hf])]
    exact List.nil_subset _

/-- Plugins take no steps but planned ones, whether or not one of them fails. -/
theorem stepsOfEach_subset {plugins : List Plugin}
    (h : ∀ plugin ∈ plugins, plugin.Truthful env.registry) (position : Nat) {progress : Progress}
    (hmemory : (callEach env point position plugins progress).2.context.scans.Within memory) :
    stepsOfEach env point position plugins progress ⊆ plugins.flatMap (plan env memory point) := by
  induction plugins generalizing position progress with
  | nil => exact List.Subset.refl _
  | cons plugin plugins ih =>
    obtain ⟨hplugin, hplugins⟩ := List.forall_mem_cons.1 h
    have hgrows := grows_callEach env point (position + 1) plugins
      (plugin.call env point position progress).2
    have hfirst := steps_subset hplugin position (hgrows.scans.trans hmemory)
    rw [stepsOfEach, List.flatMap_cons]
    exact List.append_subset.2 ⟨List.subset_append_of_subset_left _ hfirst,
      List.subset_append_of_subset_right _ (ih hplugins (position + 1) hmemory)⟩

/-- Plugins that are called without a failure have contributions that do not fail. -/
theorem verdict_of_callEach {plugins : List Plugin}
    (h : ∀ plugin ∈ plugins, plugin.Truthful env.registry) (position : Nat) {progress : Progress}
    (hf : (callEach env point position plugins progress).2.failure = none)
    (hmemory : (callEach env point position plugins progress).2.context.scans.Within memory) :
    ∀ plugin ∈ plugins, (plugin.respond env point).verdict env.registry memory = none := by
  induction plugins generalizing position progress with
  | nil => exact fun _ hmem => (List.not_mem_nil hmem).elim
  | cons plugin plugins ih =>
    obtain ⟨hplugin, hplugins⟩ := List.forall_mem_cons.1 h
    have hbefore := failure_of_callEach hf
    have hafter : (plugin.call env point position progress).2.failure = none :=
      failure_of_callEach hf
    have hgrows := grows_callEach env point (position + 1) plugins
      (plugin.call env point position progress).2
    obtain ⟨-, hverdict⟩ := call_eq hplugin position hbefore (hgrows.scans.trans hmemory)
    exact List.forall_mem_cons.2
      ⟨hverdict.symm.trans hafter, ih hplugins (position + 1) hf hmemory⟩

/-- Plugins whose contributions do not fail do not fail when they are called. -/
theorem failure_callEach {plugins : List Plugin}
    (h : ∀ plugin ∈ plugins, plugin.Truthful env.registry)
    (hverdict : ∀ plugin ∈ plugins, ∀ memory,
      (plugin.respond env point).verdict env.registry memory = none)
    (position : Nat) {progress : Progress} (hf : progress.failure = none) :
    (callEach env point position plugins progress).2.failure = none := by
  induction plugins generalizing position progress with
  | nil => exact hf
  | cons plugin plugins ih =>
    obtain ⟨hplugin, hplugins⟩ := List.forall_mem_cons.1 h
    obtain ⟨hfirst, hrest⟩ := List.forall_mem_cons.1 hverdict
    obtain ⟨-, hcall⟩ := call_eq hplugin position hf
      (.refl (plugin.call env point position progress).2.context.scans)
    exact ih hplugins hrest (position + 1) (hcall.trans (hfirst _))

end Plugin

/-! ## Runs -/

namespace Run
variable {env : Environment} {memory : ScanCache} {plugins : List Plugin} {run final : Run}

/-- The plugins of a run answer as they did at its beginning, and their probes tell the truth. -/
structure Faithful (env : Environment) (plugins : List Plugin) (run : Run) : Prop where
  respond : run.plugins.map (·.respond) = plugins.map (·.respond)
  truthful : ∀ plugin ∈ run.plugins, plugin.Truthful env.registry

theorem Faithful.update (h : run.Faithful env plugins) (f : Context → Context) :
    (run.update f).Faithful env plugins := ⟨h.respond, h.truthful⟩

theorem Faithful.call (h : run.Faithful env plugins) (point : HookPoint) :
    (run.call env point).Faithful env plugins :=
  ⟨(Plugin.respond_callEach _ _ _ _ _).trans h.respond,
    Plugin.truthful_callEach h.truthful point 0 run.progress⟩

theorem Faithful.callAll (h : run.Faithful env plugins) (points : List HookPoint) :
    (run.callAll env points).Faithful env plugins := by
  induction points generalizing run with
  | nil => exact h
  | cons point points ih => exact ih (h.call point)

theorem Faithful.visit (h : run.Faithful env plugins) (candidate : ClassName) :
    (run.visit env candidate).Faithful env plugins := by
  cases ht : run.context.target? env candidate with
  | none =>
    simp only [Run.visit, ht]
    exact ⟨h.respond, h.truthful⟩
  | some info =>
    have hinspect : (run.inspect env info).Faithful env plugins :=
      ((h.update _).callAll info.hookPoints).update _
    simp only [Run.visit, ht]
    exact ⟨hinspect.respond, hinspect.truthful⟩

theorem Faithful.forall_respond (h : run.Faithful env plugins)
    {P : (Environment → HookPoint → Contribution) → Prop} :
    (∀ plugin ∈ run.plugins, P plugin.respond) ↔ ∀ plugin ∈ plugins, P plugin.respond :=
  Plugin.forall_respond_iff h.respond

/-- The plans of the plugins are the same throughout a run. -/
theorem Faithful.flatMap_plan (h : run.Faithful env plugins) (point : HookPoint) :
    run.plugins.flatMap (Plugin.plan env memory point) =
      plugins.flatMap (Plugin.plan env memory point) := by
  have hplan : ∀ list : List Plugin, list.flatMap (Plugin.plan env memory point) =
      (list.map (·.respond)).flatMap fun respond =>
        (respond env point).plan env.registry memory := fun list => by
    rw [List.flatMap_map]
    rfl
  rw [hplan, hplan, h.respond]

theorem grows_callAll (run : Run) (env : Environment) (points : List HookPoint) :
    run.context.Grows (run.callAll env points).context := by
  rw [context_callAll]
  exact Context.grows_takeAll _ _ _

theorem failure_of_callAll {points : List HookPoint} (hf : (run.callAll env points).failure = none) :
    run.failure = none := by
  cases hfailed : run.failure with
  | none => rfl
  | some error =>
    rw [callAll_of_failure (by simp [hfailed]), hfailed] at hf
    cases hf

/-- Calls that do not fail take the planned steps. -/
theorem stepsAtAll_eq (h : run.Faithful env plugins) {points : List HookPoint}
    (hf : (run.callAll env points).failure = none)
    (hmemory : (run.callAll env points).context.scans.Within memory) :
    run.stepsAtAll env points = Plugin.planAll env memory plugins points := by
  induction points generalizing run with
  | nil => rfl
  | cons point points ih =>
    have hfirst : (run.call env point).failure = none := failure_of_callAll hf
    have hgrows := grows_callAll (run.call env point) env points
    have hsteps := Plugin.stepsOfEach_eq h.truthful 0 hfirst (hgrows.scans.trans hmemory)
    rw [stepsAtAll, Plugin.planAll, List.flatMap_cons, ← h.flatMap_plan, ← hsteps]
    exact congrArg _ (ih (h.call point) hf hmemory)

theorem stepsAtAll_subset (h : run.Faithful env plugins) {points : List HookPoint}
    (hmemory : (run.callAll env points).context.scans.Within memory) :
    run.stepsAtAll env points ⊆ Plugin.planAll env memory plugins points := by
  induction points generalizing run with
  | nil => exact List.Subset.refl _
  | cons point points ih =>
    have hgrows := grows_callAll (run.call env point) env points
    have hsteps := Plugin.stepsOfEach_subset h.truthful 0 (hgrows.scans.trans hmemory)
    rw [h.flatMap_plan] at hsteps
    rw [stepsAtAll, Plugin.planAll, List.flatMap_cons]
    exact List.append_subset.2 ⟨List.subset_append_of_subset_left _ hsteps,
      List.subset_append_of_subset_right _ (ih (h.call point) hmemory)⟩

/-- Calls that do not fail come from contributions that do not fail. -/
theorem verdict_of_callAll (h : run.Faithful env plugins) {points : List HookPoint}
    (hf : (run.callAll env points).failure = none)
    (hmemory : (run.callAll env points).context.scans.Within memory) :
    ∀ point ∈ points, ∀ plugin ∈ plugins,
      (plugin.respond env point).verdict env.registry memory = none := by
  induction points generalizing run with
  | nil => exact fun _ hmem => (List.not_mem_nil hmem).elim
  | cons point points ih =>
    have hfirst : (run.call env point).failure = none := failure_of_callAll hf
    have hgrows := grows_callAll (run.call env point) env points
    have hverdict := Plugin.verdict_of_callEach h.truthful 0 hfirst (hgrows.scans.trans hmemory)
    rw [h.forall_respond (P := fun respond => (respond env point).verdict env.registry memory =
      none)] at hverdict
    exact List.forall_mem_cons.2 ⟨hverdict, ih (h.call point) hf hmemory⟩

theorem failure_callAll (h : run.Faithful env plugins) {points : List HookPoint}
    (hverdict : ∀ point ∈ points, ∀ plugin ∈ plugins, ∀ memory,
      (plugin.respond env point).verdict env.registry memory = none)
    (hf : run.failure = none) : (run.callAll env points).failure = none := by
  induction points generalizing run with
  | nil => exact hf
  | cons point points ih =>
    obtain ⟨hpoint, hpoints⟩ := List.forall_mem_cons.1 hverdict
    rw [← h.forall_respond (P := fun respond => ∀ memory,
      (respond env point).verdict env.registry memory = none)] at hpoint
    exact ih (h.call point) hpoints (Plugin.failure_callEach h.truthful hpoint 0 hf)

end Run
end BeanDiscovery
