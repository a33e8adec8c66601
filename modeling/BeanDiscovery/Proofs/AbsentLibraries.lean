import BeanDiscovery.Proofs.BuiltInPlugins
import BeanDiscovery.Proofs.ProbeHistories
import BeanDiscovery.Proofs.RepeatedRuns

/-!
# Plugins of absent libraries

Discoveries are made one after the other with the same plugins, each with a registry of its own. The main
statement says that a plugin whose library was absent when it first asked for it might as well be missing
from the list, in every one of the discoveries.
-/
namespace BeanDiscovery

/-- What a list holds at an index is related to what a related list holds there. -/
theorem exists_of_forall₂_of_getElem? {α β : Type*} {R : α → β → Prop} {items : List α}
    {others : List β} (h : List.Forall₂ R items others) {index : Nat} {item : α}
    (hitem : items[index]? = some item) : ∃ other, others[index]? = some other ∧ R item other := by
  induction h generalizing index with
  | nil => cases hitem
  | @cons _ other _ _ hfirst _ ih =>
    cases index with
    | zero => exact ⟨other, rfl, Option.some.inj hitem ▸ hfirst⟩
    | succ index => exact ih hitem

/-! ## Contributions that wait for a library -/

namespace Contribution
open LibraryProbe
variable {sentinels : List ClassName}

/-- A contribution that only asks for some libraries as long as the answer is no. -/
def IdleWithout (sentinels : List ClassName) : Contribution → Prop
  | .done => True
  | .consult sentinel next => sentinel ∈ sentinels ∧ (next false).IdleWithout sentinels
  | _ => False

theorem IdleWithout.append {first second : Contribution} (h : first.IdleWithout sentinels)
    (h' : second.IdleWithout sentinels) : (first ++ second).IdleWithout sentinels := by
  change (first.append second).IdleWithout sentinels
  induction first with
  | done => exact h'
  | consult sentinel next ih => exact ⟨h.1, ih false h.2⟩
  | fail error => exact h.elim
  | act action rest => exact h.elim
  | scanArchives bases next => exact h.elim
  | scanPackages bases next => exact h.elim
  | note answer rest => exact h.elim

theorem idleWithout_sequence {contributions : List Contribution}
    (h : ∀ contribution ∈ contributions, contribution.IdleWithout sentinels) :
    (sequence contributions).IdleWithout sentinels := by
  induction contributions with
  | nil => trivial
  | cons contribution contributions ih =>
    obtain ⟨hfirst, hrest⟩ := List.forall_mem_cons.1 h
    exact hfirst.append (ih hrest)

/-- Without its libraries such a contribution touches nothing but the probes. -/
theorem IdleWithout.perform_eq {env : Environment} {contribution : Contribution}
    (h : contribution.IdleWithout sentinels) {call : Call}
    (habsent : ∀ sentinel ∈ sentinels,
      known? sentinel (contribution.perform env call).probes ≠ some true) :
    contribution.perform env call =
      { call with probes := (contribution.perform env call).probes } := by
  induction contribution generalizing call with
  | done => rfl
  | consult sentinel next ih =>
    -- What the probe answers now it answers at the end, where the answer is not yes.
    have hanswer : (askAmong env.registry sentinel call.probes).1 = false := by
      refine Bool.eq_false_iff.2 fun hyes => habsent sentinel h.1 ?_
      have hknown := known?_askAmong env.registry sentinel call.probes
      rw [hyes] at hknown
      exact settle_perform env (next (askAmong env.registry sentinel call.probes).1)
        { call with probes := (askAmong env.registry sentinel call.probes).2 } sentinel true hknown
    have hnext : (consult sentinel next).perform env call = (next false).perform env
        { call with probes := (askAmong env.registry sentinel call.probes).2 } := by
      rw [← hanswer]
      rfl
    rw [hnext] at habsent ⊢
    exact ih false h.2 habsent
  | fail error => exact h.elim
  | act action rest => exact h.elim
  | scanArchives bases next => exact h.elim
  | scanPackages bases next => exact h.elim
  | note answer rest => exact h.elim

end Contribution

/-! ## Plugins that wait for a library -/

/-- The second progress is the first one up to the account of the calls. -/
structure Progress.SameCourse (progress other : Progress) : Prop where
  context : other.context = progress.context
  failure : other.failure = progress.failure

namespace Plugin
variable {env : Environment} {point : HookPoint} {position index : Nat} {progress other : Progress}
  {sentinels : List ClassName} {plugin : Plugin} {plugins later : List Plugin}

/-- The plugins of optional libraries, each with the types that show its library. -/
inductive ServesLibrary : Plugin → List ClassName → Prop
  | mocking (framework : MockFramework) : ServesLibrary (.mocking framework) [framework.sentinel]
  | viewScope : ServesLibrary .viewScope [viewScopeSentinel]
  | producerConfig : ServesLibrary .producerConfig [producerConfigSentinel]
  | partialBeanProxies : ServesLibrary .partialBeanProxies proxySentinels

/-- A plugin that does nothing without its libraries and has found none of them. -/
structure IsIdle (sentinels : List ClassName) (plugin : Plugin) : Prop where
  respond : ∀ env point, (plugin.respond env point).IdleWithout sentinels
  absent : ∀ sentinel ∈ sentinels, LibraryProbe.known? sentinel plugin.probes ≠ some true

theorem ServesLibrary.idleWithout (h : plugin.ServesLibrary sentinels) (env : Environment)
    (point : HookPoint) : (plugin.respond env point).IdleWithout sentinels := by
  cases h with
  | mocking framework =>
    cases point with
    | bootstrap test => exact ⟨List.mem_singleton_self _, trivial⟩
    | field info field => exact ⟨List.mem_singleton_self _, trivial⟩
    | process info => trivial
    | method info method => trivial
  | viewScope =>
    cases point with
    | bootstrap test => exact ⟨List.mem_singleton_self _, trivial⟩
    | _ => trivial
  | producerConfig =>
    cases point with
    | bootstrap test => exact ⟨List.mem_singleton_self _, trivial⟩
    | _ => trivial
  | partialBeanProxies =>
    cases point with
    | process info =>
      change (if info.name = proxySupportMarker then
        Contribution.sequence (proxySentinels.map proxyArchive) else .done).IdleWithout _
      split
      · refine Contribution.idleWithout_sequence fun contribution hmem => ?_
        obtain ⟨sentinel, hsentinel, rfl⟩ := List.mem_map.1 hmem
        exact ⟨hsentinel, trivial⟩
      · trivial
    | _ => trivial

theorem ServesLibrary.isIdle (h : plugin.ServesLibrary sentinels) : plugin.IsIdle sentinels where
  respond := h.idleWithout
  absent := by cases h <;> exact fun _ _ => nofun

/-- Before its probes have settled an idle plugin was idle too. -/
theorem IsIdle.of_settles {settled : Plugin} (h : settled.IsIdle sentinels)
    (hsettles : plugin.Settles settled) : plugin.IsIdle sentinels where
  respond := by
    have hrespond := h.respond
    rwa [hsettles.same] at hrespond
  absent := fun sentinel hmem htrue => h.absent sentinel hmem (hsettles.probes sentinel true htrue)

/-- The plugin at an index, if there is one, is idle. -/
def IdleAt (index : Nat) (sentinels : List ClassName) (plugins : List Plugin) : Prop :=
  ∀ plugin, plugins[index]? = some plugin → plugin.IsIdle sentinels

theorem IdleAt.of_settles (h : IdleAt index sentinels later)
    (hsettles : List.Forall₂ Settles plugins later) : IdleAt index sentinels plugins := by
  intro plugin hplugin
  obtain ⟨settled, hsettled, hplugin⟩ := exists_of_forall₂_of_getElem? hsettles hplugin
  exact (h settled hsettled).of_settles hplugin

/-! ### Calls without an idle plugin -/

/-- The call of a plugin that is idle afterwards shows in the account alone. -/
theorem IsIdle.sameCourse_call
    (h : (plugin.call env point position progress).1.IsIdle sentinels) :
    progress.SameCourse (plugin.call env point position progress).2 := by
  rw [call] at h ⊢
  by_cases hf : progress.failure.isSome = true
  · rw [if_pos hf]
    exact ⟨rfl, rfl⟩
  · rw [if_neg hf] at h ⊢
    have hperform := (h.respond env point).perform_eq h.absent
    have hnone : progress.failure = none := by simpa using hf
    exact ⟨congrArg (·.context) hperform, (congrArg (·.failure) hperform).trans hnone.symm⟩

/-- Neither the account nor the position bears on what a plugin does. -/
theorem call_of_sameCourse (h : progress.SameCourse other) (env : Environment) (point : HookPoint)
    (position position' : Nat) (plugin : Plugin) :
    (plugin.call env point position' other).1 = (plugin.call env point position progress).1 ∧
      (plugin.call env point position progress).2.SameCourse
        (plugin.call env point position' other).2 := by
  rw [call, call, h.failure, h.context]
  split
  · exact ⟨rfl, h⟩
  · exact ⟨rfl, rfl, rfl⟩

theorem callEach_of_sameCourse (h : progress.SameCourse other) (env : Environment)
    (point : HookPoint) (position position' : Nat) (plugins : List Plugin) :
    (callEach env point position' plugins other).1 =
        (callEach env point position plugins progress).1 ∧
      (callEach env point position plugins progress).2.SameCourse
        (callEach env point position' plugins other).2 := by
  induction plugins generalizing position position' progress other with
  | nil => exact ⟨rfl, h⟩
  | cons plugin plugins ih =>
    obtain ⟨hplugin, hcourse⟩ := call_of_sameCourse h env point position position' plugin
    obtain ⟨hplugins, hend⟩ := ih hcourse (position + 1) (position' + 1)
    exact ⟨List.cons_eq_cons.2 ⟨hplugin, hplugins⟩, hend⟩

/-- Plugins that are called without one that stays idle. -/
theorem callEach_eraseIdx (h : progress.SameCourse other)
    (hidle : IdleAt index sentinels (callEach env point position plugins progress).1)
    (position' : Nat) :
    (callEach env point position' (plugins.eraseIdx index) other).1 =
        (callEach env point position plugins progress).1.eraseIdx index ∧
      (callEach env point position plugins progress).2.SameCourse
        (callEach env point position' (plugins.eraseIdx index) other).2 := by
  induction plugins generalizing index position position' progress other with
  | nil => exact ⟨rfl, h⟩
  | cons plugin plugins ih =>
    cases index with
    | zero =>
      have hfirst : (plugin.call env point position progress).1.IsIdle sentinels := hidle _ rfl
      have hcourse := hfirst.sameCourse_call
      have hsame : (plugin.call env point position progress).2.SameCourse other :=
        ⟨h.context.trans hcourse.context.symm, h.failure.trans hcourse.failure.symm⟩
      exact callEach_of_sameCourse hsame env point (position + 1) position' plugins
    | succ index =>
      obtain ⟨hplugin, hcourse⟩ := call_of_sameCourse h env point position position' plugin
      obtain ⟨hplugins, hend⟩ := ih hcourse hidle (position' + 1)
      exact ⟨List.cons_eq_cons.2 ⟨hplugin, hplugins⟩, hend⟩

end Plugin

/-! ## Runs without an idle plugin -/

namespace Run
open Plugin
variable {env : Environment} {scans memory : ScanCache} {plugins later : List Plugin}
  {sentinels : List ClassName} {index : Nat} {run other : Run} {candidate : ClassName}

/-- The second run is the first one without the plugin at an index. -/
structure Without (index : Nat) (run other : Run) : Prop where
  plugins : other.plugins = run.plugins.eraseIdx index
  progress : run.progress.SameCourse other.progress
  trail : other.trail = run.trail

theorem Without.update (h : run.Without index other) (f : Context → Context) :
    (run.update f).Without index (other.update f) where
  plugins := h.plugins
  progress := ⟨congrArg f h.progress.context, h.progress.failure⟩
  trail := h.trail

theorem Without.withTrail (h : run.Without index other) (trail : Trail) :
    Without index { run with trail } { other with trail } := ⟨h.plugins, h.progress, rfl⟩

theorem Without.call (h : run.Without index other) {point : HookPoint}
    (hidle : IdleAt index sentinels (run.call env point).plugins) :
    (run.call env point).Without index (other.call env point) := by
  obtain ⟨hplugins, hcourse⟩ := callEach_eraseIdx h.progress hidle 0
  rw [← h.plugins] at hplugins hcourse
  exact ⟨hplugins, hcourse, h.trail⟩

theorem Without.callAll (h : run.Without index other) {points : List HookPoint}
    (hkept : (run.callAll env points).Kept memory later) (hidle : IdleAt index sentinels later) :
    (run.callAll env points).Without index (other.callAll env points) := by
  induction points generalizing run other with
  | nil => exact h
  | cons point points ih =>
    have hcall : (run.call env point).Kept memory later := kept_of_callAll hkept
    exact ih (h.call (hidle.of_settles hcall.plugins)) hkept

theorem Without.visit (h : run.Without index other)
    (hkept : (run.visit env candidate).Kept memory later) (hidle : IdleAt index sentinels later) :
    (run.visit env candidate).Without index (other.visit env candidate) := by
  have htarget : other.context.target? env candidate = run.context.target? env candidate :=
    congrArg (·.target? env candidate) h.progress.context
  cases ht : run.context.target? env candidate with
  | none =>
    rw [visit_of_skipped ht, visit_of_skipped (htarget.trans ht), h.trail]
    exact (h.withTrail _).update _
  | some info =>
    rw [visit_of_target ht] at hkept ⊢
    rw [visit_of_target (htarget.trans ht), h.trail]
    have hcalls : ((run.update (·.turnTo info)).callAll env info.hookPoints).Kept memory later :=
      ⟨hkept.scans, hkept.archives, hkept.plugins⟩
    have hinspect : (run.inspect env info).Without index (other.inspect env info) :=
      ((h.update (·.turnTo info)).callAll hcalls hidle).update (·.turnAway)
    exact (hinspect.withTrail _).update _

/-- A run at whose end a plugin is idle is the same run without this plugin. -/
theorem without_complete (hidle : IdleAt index sentinels (complete env scans plugins).plugins) :
    (complete env scans plugins).Without index (complete env scans (plugins.eraseIdx index)) := by
  have hvisits := visits_complete env scans plugins
  obtain ⟨hseeded, hkept⟩ := hvisits.kept (kept_self _)
  have hstart : (start env scans plugins).Without index
      (start env scans (plugins.eraseIdx index)) := ⟨rfl, ⟨rfl, rfl⟩, rfl⟩
  have hcall : ((start env scans plugins).call env
      (.bootstrap env.configuration.testClass)).Without index _ :=
    hstart.call (hidle.of_settles hseeded.plugins)
  refine hvisits.drain_of_partner (R := Without index) ?_ ?_ ?_ (hcall.update _) _
  · exact fun run other h => h.progress.failure
  · exact fun run other h => congrArg (·.worklist.next?) h.progress.context
  · exact fun visit hvisit other h => h.visit (hkept visit hvisit) hidle

theorem Without.report (h : run.Without index other) (assembler : Assembler) :
    other.report assembler = run.report assembler := by
  have hcontext : other.context = run.context := h.progress.context
  have hfailure : other.failure = run.failure := h.progress.failure
  rw [Run.report, Run.report, hfailure, hcontext, h.trail]

end Run

/-! ## Discoveries with the same plugins -/

/-- A discovery among others: its environment, its assembler, and the memory of scans that it is given in
place of the one that was left to it. -/
structure Discovery where
  env : Environment
  assembler : Assembler := {}
  memory : ScanCache → ScanCache := id

namespace Discovery
open LibraryProbe Plugin
variable {scans : ScanCache} {plugins : List Plugin} {discovery : Discovery}
  {discoveries : List Discovery} {index : Nat} {sentinel : ClassName} {sentinels : List ClassName}

def run (discovery : Discovery) (scans : ScanCache) (plugins : List Plugin) : Run :=
  Run.complete discovery.env (discovery.memory scans) plugins

/-- The results of discoveries that are made one after the other with the same plugins. -/
def results : ScanCache → List Plugin → List Discovery → List (Except DiscoveryError Report)
  | _, _, [] => []
  | scans, plugins, discovery :: discoveries =>
    let run := discovery.run scans plugins
    run.report discovery.assembler :: results run.context.scans run.plugins discoveries

/-- The plugins after discoveries that were made one after the other. -/
def pluginsAfter : ScanCache → List Plugin → List Discovery → List Plugin
  | _, plugins, [] => plugins
  | scans, plugins, discovery :: discoveries =>
    let run := discovery.run scans plugins
    pluginsAfter run.context.scans run.plugins discoveries

/-- What the plugin at an index knows about a library after some discoveries. -/
def answerAfter (scans : ScanCache) (plugins : List Plugin) (discoveries : List Discovery)
    (index : Nat) (sentinel : ClassName) : Option Bool :=
  (pluginsAfter scans plugins discoveries)[index]?.bind fun plugin =>
    known? sentinel plugin.probes

/-- In the discovery in which the plugin at an index first asks for a library, if there is one, the
registry does not hold the type that shows it. -/
def AbsentAtFirst (scans : ScanCache) (plugins : List Plugin) (discoveries : List Discovery)
    (index : Nat) (sentinel : ClassName) : Prop :=
  ∀ earlier discovery others, discoveries = earlier ++ discovery :: others →
    answerAfter scans plugins earlier index sentinel = none →
    answerAfter scans plugins (earlier ++ [discovery]) index sentinel ≠ none →
    discovery.env.registry.isPresent sentinel = false

theorem AbsentAtFirst.tail
    (h : AbsentAtFirst scans plugins (discovery :: discoveries) index sentinel) :
    AbsentAtFirst (discovery.run scans plugins).context.scans (discovery.run scans plugins).plugins
      discoveries index sentinel :=
  fun earlier later others hsplit =>
    h (discovery :: earlier) later others (congrArg (discovery :: ·) hsplit)

/-- A plugin whose library is absent when it first asks for it is idle after the next discovery if it was
idle before. -/
theorem idleAt_run (hidle : IdleAt index sentinels plugins)
    (habsent : ∀ sentinel ∈ sentinels,
      AbsentAtFirst scans plugins (discovery :: discoveries) index sentinel) :
    IdleAt index sentinels (discovery.run scans plugins).plugins := by
  intro asked hasked
  have hquestioned := Run.questioned_complete discovery.env (discovery.memory scans) plugins
  obtain ⟨plugin, hplugin, hprobes⟩ :=
    exists_of_forall₂_of_getElem? (List.Forall₂.flip hquestioned) hasked
  have hbefore := hidle plugin hplugin
  refine ⟨?_, fun sentinel hmem htrue => ?_⟩
  · rw [hprobes.same]
    exact hbefore.respond
  · cases hknown : known? sentinel plugin.probes with
    | some answer =>
      have hkept := hprobes.probes.settle sentinel answer hknown
      rw [Option.some.inj (hkept.symm.trans htrue)] at hknown
      exact hbefore.absent sentinel hmem hknown
    | none =>
      have hfirst : answerAfter scans plugins [] index sentinel = none := by
        simp [answerAfter, pluginsAfter, hplugin, hknown]
      have hlast : answerAfter scans plugins [discovery] index sentinel ≠ none := by
        simp [answerAfter, pluginsAfter, hasked, htrue]
      have hpresent := hprobes.probes.isPresent hknown htrue
      rw [habsent sentinel hmem [] discovery discoveries rfl hfirst hlast] at hpresent
      cases hpresent

/-- Discoveries without a plugin that is idle at the beginning and whose library is absent when it first
asks for it. -/
theorem results_eraseIdx (hidle : IdleAt index sentinels plugins)
    (habsent : ∀ sentinel ∈ sentinels, AbsentAtFirst scans plugins discoveries index sentinel) :
    results scans (plugins.eraseIdx index) discoveries = results scans plugins discoveries := by
  induction discoveries generalizing scans plugins with
  | nil => rfl
  | cons discovery discoveries ih =>
    have hafter := idleAt_run hidle habsent
    have hwithout : (discovery.run scans plugins).Without index
        (discovery.run scans (plugins.eraseIdx index)) := Run.without_complete hafter
    have hscans : (discovery.run scans (plugins.eraseIdx index)).context.scans =
        (discovery.run scans plugins).context.scans :=
      congrArg (·.scans) hwithout.progress.context
    have hrest := ih hafter fun sentinel hmem => (habsent sentinel hmem).tail
    rw [results, results, hwithout.report, hwithout.plugins, hscans, hrest]

theorem tidy_pluginsAfter (h : ∀ plugin ∈ plugins, Tidy plugin.probes) :
    ∀ plugin ∈ pluginsAfter scans plugins discoveries, Tidy plugin.probes := by
  induction discoveries generalizing scans plugins with
  | nil => exact h
  | cons discovery discoveries ih =>
    refine ih fun asked hmem => ?_
    have hquestioned := Run.questioned_complete discovery.env (discovery.memory scans) plugins
    obtain ⟨index, hasked⟩ := List.mem_iff_getElem?.1 hmem
    obtain ⟨plugin, hplugin, hprobes⟩ :=
      exists_of_forall₂_of_getElem? (List.Forall₂.flip hquestioned) hasked
    exact hprobes.probes.tidy (h plugin (List.mem_of_getElem? hplugin))

/-- Discoveries are made one after the other with the same built-in plugins, each with a registry, a
scanner, a container, a configuration and a memory of scans of its own. If no type that shows the library
of a plugin could be loaded in the discovery in which the plugin first asked for it, then every discovery,
those with the library included, has the same report or the same error as without the plugin. And for
every library a plugin has one probe, which looks its sentinel up at most once in all the discoveries. -/
theorem results_of_absent_library (hplugins : ∀ plugin ∈ plugins, plugin.IsBuiltIn)
    (scans : ScanCache) (discoveries : List Discovery) :
    (∀ before plugin after sentinels, plugins = before ++ plugin :: after →
      plugin.ServesLibrary sentinels →
      (∀ sentinel ∈ sentinels,
        AbsentAtFirst scans plugins discoveries before.length sentinel) →
      results scans (before ++ after) discoveries = results scans plugins discoveries) ∧
    ∀ plugin ∈ pluginsAfter scans plugins discoveries,
      (plugin.probes.map (·.sentinel)).Nodup ∧ ∀ probe ∈ plugin.probes, probe.lookups ≤ 1 := by
  constructor
  · rintro before plugin after sentinels rfl hserves habsent
    have hidle : IdleAt before.length sentinels (before ++ plugin :: after) := by
      intro other hother
      rw [List.getElem?_append_right (Nat.le_refl _), Nat.sub_self] at hother
      cases hother
      exact hserves.isIdle
    have hresults := results_eraseIdx hidle habsent
    rwa [List.eraseIdx_append_of_length_le (Nat.le_refl _), Nat.sub_self, List.eraseIdx_cons_zero] at hresults
  · have hfresh : ∀ plugin ∈ plugins, Tidy plugin.probes := by
      intro plugin hplugin
      cases hplugins plugin hplugin <;> exact tidy_nil
    intro plugin hplugin
    have htidy := tidy_pluginsAfter hfresh plugin hplugin
    exact ⟨htidy.nodup, fun probe hprobe => (htidy.thrifty probe hprobe).lookups_le_one⟩

/-! ### A library that comes later -/

def mockingPlugins : List Plugin := [.standard, .mocking .mockito, .testScope]

/-- A test with a mocked field. -/
def mockedRegistry : TypeRegistry :=
  (TypeRegistry.initial.addRoot ⟨"file:///cp/app/"⟩ true).registerAll
    [{ name := ⟨"com.example.ATest"⟩, location := some ⟨"file:///cp/app/"⟩
       fields :=
        [{ name := "b", declared := .cls ⟨"com.example.B"⟩
           markers := [⟨Vocabulary.inject, [], []⟩, ⟨MockFramework.mockito.marker, [], []⟩] }] },
      { name := ⟨"com.example.B"⟩, location := some ⟨"file:///cp/app/"⟩ }]

def discoveryOf (registry : TypeRegistry) : Discovery where
  env := { registry, configuration := { testClass := ⟨"com.example.ATest"⟩ } }

/-- The framework is registered after the first discovery, and the second one starts with no memory. -/
def mockedTwice : List Discovery :=
  [discoveryOf mockedRegistry,
    { discoveryOf (mockedRegistry.register { name := MockFramework.mockito.sentinel }) with
      memory := fun _ => {} }]

theorem run_mocked :
    (discoveryOf mockedRegistry).run {} mockingPlugins =
      [⟨"com.example.ATest"⟩, ⟨"com.example.B"⟩].foldl
        (fun run name => run.visit (discoveryOf mockedRegistry).env name)
        (Run.seeded (discoveryOf mockedRegistry).env {} mockingPlugins) :=
  Run.drain_of_isRoute (by decide +kernel) _

theorem answerAfter_mocked :
    answerAfter {} mockingPlugins [discoveryOf mockedRegistry] 1 MockFramework.mockito.sentinel =
      some false := by
  rw [answerAfter, pluginsAfter, pluginsAfter, run_mocked]
  decide +kernel

theorem absentAtFirst_mocked :
    AbsentAtFirst {} mockingPlugins mockedTwice 1 MockFramework.mockito.sentinel := by
  intro earlier discovery others hsplit hbefore _
  cases earlier with
  | nil =>
    obtain ⟨rfl, -⟩ := List.cons.inj hsplit
    decide +kernel
  | cons first earlier =>
    obtain ⟨rfl, hrest⟩ := List.cons.inj hsplit
    cases earlier with
    | nil => cases hbefore.symm.trans answerAfter_mocked
    | cons second earlier =>
      obtain ⟨-, hnil⟩ := List.cons.inj hrest
      exact (List.append_ne_nil_of_right_ne_nil _ (List.cons_ne_nil _ _) hnil.symm).elim

/-- Once the framework was missing, it is as if no plugin handled it. -/
theorem results_mocked :
    (∀ discovery ∈ mockedTwice.tail,
      discovery.env.registry.isPresent MockFramework.mockito.sentinel = true) ∧
    results {} [.standard, .testScope] mockedTwice = results {} mockingPlugins mockedTwice := by
  refine ⟨by decide +kernel, ?_⟩
  have hbuiltIn : ∀ plugin ∈ mockingPlugins, plugin.IsBuiltIn := by
    simp only [mockingPlugins, List.forall_mem_cons]
    exact ⟨.standard, .mocking .mockito, .testScope, fun _ => nofun⟩
  exact (results_of_absent_library hbuiltIn {} mockedTwice).1 [.standard] (.mocking .mockito) [.testScope]
    [MockFramework.mockito.sentinel] rfl (.mocking .mockito)
    (List.forall_mem_singleton.2 absentAtFirst_mocked)

end Discovery
end BeanDiscovery
