import Mathlib.Data.List.Forall2
import Mathlib.Logic.Relation
import BeanDiscovery.Proofs.PluginPlans

/-!
# Replays from memory

What plugins learn during a call comes from the memory of scans and from their probes, and both keep what
they have answered. So a call that is made again with a later memory and later probes learns the same, does
the same, and leaves memory and probes as they are but for the count of hits. The main statements say this
of a contribution and of the calls at a hook point.
-/
namespace BeanDiscovery

/-! ## Memories -/

namespace ScanCache
variable {cache memory : ScanCache} {scanner : Scanner}

def withHits (memory : ScanCache) (hits : Nat) : ScanCache := { memory with cacheHits := hits }

theorem classNamesForClasspath_again {roots : List Url}
    (h : (cache.classNamesForClasspath scanner roots).2.Within memory) (hits : Nat) :
    (memory.withHits hits).classNamesForClasspath scanner roots =
      ((cache.classNamesForClasspath scanner roots).1, memory.withHits (hits + 1)) := by
  have hkey : (memory.withHits hits).classpathScans.get? (classpathKey roots) =
      some (cache.classNamesForClasspath scanner roots).1 :=
    h.classpath (get?_classpathScans_classNamesForClasspath cache scanner roots)
  exact classNamesForClasspath_of_known hkey scanner

theorem classNamesForPackage_again {package : String} {root : Url}
    (h : (cache.classNamesForPackage scanner package root).2.Within memory) (hits : Nat) :
    (memory.withHits hits).classNamesForPackage scanner package root =
      ((cache.classNamesForPackage scanner package root).1, memory.withHits (hits + 1)) := by
  have hkey : (memory.withHits hits).packageScans.get? (packageKey package root) =
      some (cache.classNamesForPackage scanner package root).1 :=
    h.package (get?_packageScans_classNamesForPackage cache scanner package root)
  exact classNamesForPackage_of_known hkey scanner

theorem archives_classNamesForClasspath (cache : ScanCache) (scanner : Scanner) (roots : List Url) :
    (cache.classNamesForClasspath scanner roots).2.archives = cache.archives := by
  unfold classNamesForClasspath
  split <;> rfl

theorem archives_classNamesForPackage (cache : ScanCache) (scanner : Scanner) (package : String)
    (root : Url) : (cache.classNamesForPackage scanner package root).2.archives = cache.archives := by
  unfold classNamesForPackage
  split <;> rfl

/-- After a request for the bean archives they are remembered. -/
theorem archives_beanArchiveRoots (cache : ScanCache) (scanner : Scanner) :
    (cache.beanArchiveRoots scanner).2.archives = some (cache.beanArchiveRoots scanner).1 := by
  unfold beanArchiveRoots
  split
  next h => exact h
  next => rfl

end ScanCache

/-! ## Probes -/

namespace LibraryProbe
variable {registry : TypeRegistry} {sentinel other : ClassName} {probes : List LibraryProbe}
  {between asked : List LibraryProbe} {answer : Bool}

/-- What the first probe of a sentinel has answered. -/
def known? (sentinel : ClassName) (probes : List LibraryProbe) : Option Bool :=
  (probes.find? fun probe => probe.sentinel = sentinel).bind (·.answer)

theorem known?_cons_of_eq {probe : LibraryProbe} (h : probe.sentinel = sentinel)
    (probes : List LibraryProbe) : known? sentinel (probe :: probes) = probe.answer := by
  simp [known?, h]

theorem known?_cons_of_ne {probe : LibraryProbe} (h : probe.sentinel ≠ sentinel)
    (probes : List LibraryProbe) : known? sentinel (probe :: probes) = known? sentinel probes := by
  simp [known?, h]

/-- Probes that know the answer give it and stay as they are. -/
theorem askAmong_of_known (h : known? sentinel probes = some answer) (registry : TypeRegistry) :
    askAmong registry sentinel probes = (answer, probes) := by
  induction probes with
  | nil => cases h
  | cons probe probes ih =>
    by_cases heq : probe.sentinel = sentinel
    · rw [known?_cons_of_eq heq] at h
      rw [askAmong, if_pos heq, ask_of_answer h]
    · rw [known?_cons_of_ne heq] at h
      rw [askAmong, if_neg heq, ih h]

/-- Probes that have been asked know the answer. -/
theorem known?_askAmong (registry : TypeRegistry) (sentinel : ClassName)
    (probes : List LibraryProbe) :
    known? sentinel (askAmong registry sentinel probes).2 =
      some (askAmong registry sentinel probes).1 := by
  induction probes with
  | nil =>
    exact (known?_cons_of_eq (sentinel_ask { sentinel } registry) []).trans (answer_ask _ registry)
  | cons probe probes ih =>
    by_cases heq : probe.sentinel = sentinel
    · rw [askAmong, if_pos heq, known?_cons_of_eq ((sentinel_ask probe registry).trans heq),
        answer_ask]
    · rw [askAmong, if_neg heq, known?_cons_of_ne heq, ih]

/-- What probes know they go on knowing when they are asked for another sentinel. -/
theorem known?_askAmong_of_known (h : known? other probes = some answer) (registry : TypeRegistry)
    (sentinel : ClassName) : known? other (askAmong registry sentinel probes).2 = some answer := by
  induction probes with
  | nil => cases h
  | cons probe probes ih =>
    by_cases heq : probe.sentinel = other
    · rw [known?_cons_of_eq heq] at h
      rw [askAmong]
      split
      · rw [ask_of_answer h]
        exact (known?_cons_of_eq heq probes).trans h
      · exact (known?_cons_of_eq heq _).trans h
    · rw [known?_cons_of_ne heq] at h
      rw [askAmong]
      split
      · have hask : (probe.ask registry).2.sentinel ≠ other := by rwa [sentinel_ask]
        exact (known?_cons_of_ne hask probes).trans h
      · exact (known?_cons_of_ne heq _).trans (ih h)

/-- The second probes know whatever the first ones know. -/
def Settle (probes settled : List LibraryProbe) : Prop :=
  ∀ sentinel answer, known? sentinel probes = some answer → known? sentinel settled = some answer

theorem Settle.refl (probes : List LibraryProbe) : Settle probes probes := fun _ _ => id

theorem Settle.trans {first second third : List LibraryProbe} (h : Settle first second)
    (h' : Settle second third) : Settle first third :=
  fun sentinel answer hknown => h' sentinel answer (h sentinel answer hknown)

theorem settle_askAmong (registry : TypeRegistry) (sentinel : ClassName)
    (probes : List LibraryProbe) : Settle probes (askAmong registry sentinel probes).2 :=
  fun _ _ hknown => known?_askAmong_of_known hknown registry sentinel

/-- The second probes are the first ones after some questions, all of them about one registry. -/
def Questioned (registry : TypeRegistry) : List LibraryProbe → List LibraryProbe → Prop :=
  Relation.ReflTransGen fun probes asked =>
    ∃ sentinel, asked = (askAmong registry sentinel probes).2

theorem Questioned.refl (registry : TypeRegistry) (probes : List LibraryProbe) :
    Questioned registry probes probes := Relation.ReflTransGen.refl

theorem Questioned.trans (h : Questioned registry probes between)
    (h' : Questioned registry between asked) : Questioned registry probes asked :=
  Relation.ReflTransGen.trans h h'

theorem questioned_askAmong (registry : TypeRegistry) (sentinel : ClassName)
    (probes : List LibraryProbe) :
    Questioned registry probes (askAmong registry sentinel probes).2 :=
  .single ⟨sentinel, rfl⟩

/-- Probes keep through all questions what they know. -/
theorem Questioned.settle (h : Questioned registry probes asked) : Settle probes asked := by
  induction h with
  | refl => exact .refl _
  | tail _ hask ih =>
    obtain ⟨sentinel, rfl⟩ := hask
    exact ih.trans (settle_askAmong registry sentinel _)

/-- Probes in which the asked ones settle give the same answer and stay as they are. -/
theorem askAmong_again {settled : List LibraryProbe}
    (h : Settle (askAmong registry sentinel probes).2 settled) :
    askAmong registry sentinel settled = ((askAmong registry sentinel probes).1, settled) :=
  askAmong_of_known (h sentinel _ (known?_askAmong registry sentinel probes)) registry

end LibraryProbe

/-! ## Contexts -/

namespace Context
variable {context : Context} {env : Environment} {memory : ScanCache}

/-- The same context with another memory behind it. -/
def withScans (context : Context) (scans : ScanCache) : Context := { context with scans }

theorem enqueue_withScans (context : Context) (scans : ScanCache) (name : ClassName) :
    (context.withScans scans).enqueue name = (context.enqueue name).withScans scans := by
  rw [enqueue, enqueue]
  change (if context.worklist.knows name then _ else _) = _
  split <;> rfl

theorem enqueueAll_withScans (context : Context) (scans : ScanCache) (names : List ClassName) :
    (context.withScans scans).enqueueAll names = (context.enqueueAll names).withScans scans :=
  enqueueAll_comm (fun context name => enqueue_withScans context scans name) context names

theorem turnTo_withScans (context : Context) (scans : ScanCache) (info : ClassInfo) :
    (context.withScans scans).turnTo info = (context.turnTo info).withScans scans := by
  rw [turnTo, turnTo]
  split <;> rfl

theorem scanArchives_of_no_roots {bases : List ClassName} (h : rootsOf env.registry bases = [])
    (context : Context) : context.scanArchives env bases = ([], context) := by
  rw [scanArchives, h]

theorem scanArchives_of_roots {bases : List ClassName} (h : rootsOf env.registry bases ≠ [])
    (context : Context) :
    context.scanArchives env bases =
      ((context.scans.classNamesForClasspath env.scanner (rootsOf env.registry bases)).1,
        { context with
          archiveRoots := context.archiveRoots.insertAll (rootsOf env.registry bases)
          scans :=
            (context.scans.classNamesForClasspath env.scanner (rootsOf env.registry bases)).2 }) := by
  rw [scanArchives]
  split
  next hnil => exact absurd hnil h
  next => rfl

theorem scanArchives_again {bases : List ClassName}
    (h : (context.scanArchives env bases).2.scans.Within memory) (hits : Nat) :
    ∃ hits', (context.withScans (memory.withHits hits)).scanArchives env bases =
      ((context.scanArchives env bases).1,
        (context.scanArchives env bases).2.withScans (memory.withHits hits')) := by
  by_cases hroots : rootsOf env.registry bases = []
  · refine ⟨hits, ?_⟩
    rw [scanArchives_of_no_roots hroots, scanArchives_of_no_roots hroots]
  · rw [scanArchives_of_roots hroots] at h
    refine ⟨hits + 1, ?_⟩
    rw [scanArchives_of_roots hroots, scanArchives_of_roots hroots, withScans,
      ScanCache.classNamesForClasspath_again h hits]
    rfl

theorem scanPackage_again {base : ClassName}
    (h : (context.scanPackage env base).2.scans.Within memory) (hits : Nat) :
    ∃ hits', (context.withScans (memory.withHits hits)).scanPackage env base =
      ((context.scanPackage env base).1,
        (context.scanPackage env base).2.withScans (memory.withHits hits')) := by
  rw [scanPackage] at h
  rw [scanPackage, scanPackage]
  cases hroot : env.registry.locationOf base with
  | none => exact ⟨hits, rfl⟩
  | some root =>
    rw [hroot] at h
    have hagain := ScanCache.classNamesForPackage_again h hits
    refine ⟨hits + 1, ?_⟩
    simp only [withScans, hagain]

theorem scanPackages_again {bases : List ClassName}
    (h : (context.scanPackages env bases).2.scans.Within memory) (hits : Nat) :
    ∃ hits', (context.withScans (memory.withHits hits)).scanPackages env bases =
      ((context.scanPackages env bases).1,
        (context.scanPackages env bases).2.withScans (memory.withHits hits')) := by
  induction bases generalizing context hits with
  | nil => exact ⟨hits, rfl⟩
  | cons base bases ih =>
    have hgrows := grows_scanPackages (context.scanPackage env base).2 env bases
    obtain ⟨between, hfirst⟩ := scanPackage_again (hgrows.scans.trans h) hits
    obtain ⟨hits', hrest⟩ := @ih (context.scanPackage env base).2 h between
    refine ⟨hits', ?_⟩
    simp only [scanPackages, hfirst, hrest]

/-- An action that is performed again. -/
theorem perform_again {action : Action} (h : (context.perform env action).scans.Within memory)
    (hits : Nat) :
    ∃ hits', (context.withScans (memory.withHits hits)).perform env action =
      (context.perform env action).withScans (memory.withHits hits') := by
  cases action with
  | offer ref => exact ⟨hits, enqueueAll_withScans context _ _⟩
  | offerPackage ref =>
    obtain ⟨hits', hscan⟩ := scanPackages_again (scans_enqueueAll _ _ ▸ h) hits
    refine ⟨hits', ?_⟩
    simp only [perform, hscan]
    exact enqueueAll_withScans _ _ _
  | offerArchive ref =>
    obtain ⟨hits', hscan⟩ := scanArchives_again (scans_enqueueAll _ _ ▸ h) hits
    refine ⟨hits', ?_⟩
    simp only [perform, hscan]
    exact enqueueAll_withScans _ _ _
  | ignore ref => exact ⟨hits, rfl⟩
  | activate group ref => exact ⟨hits, rfl⟩
  | register registration => exact ⟨hits, rfl⟩

/-! ### The bean archives -/

theorem archives_scanArchives (context : Context) (env : Environment) (bases : List ClassName) :
    (context.scanArchives env bases).2.scans.archives = context.scans.archives := by
  rw [scanArchives]
  split
  · rfl
  · exact ScanCache.archives_classNamesForClasspath _ _ _

theorem archives_scanPackages (context : Context) (env : Environment) (bases : List ClassName) :
    (context.scanPackages env bases).2.scans.archives = context.scans.archives := by
  induction bases generalizing context with
  | nil => rfl
  | cons base bases ih =>
    refine (ih (context.scanPackage env base).2).trans ?_
    rw [scanPackage]
    split
    · rfl
    · exact ScanCache.archives_classNamesForPackage _ _ _ _

/-- Steps leave the remembered bean archives alone. -/
theorem archives_take (context : Context) (env : Environment) (step : HookStep) :
    (context.take env step).scans.archives = context.scans.archives := by
  cases step with
  | act action =>
    cases action with
    | offer ref => exact congrArg (·.archives) (scans_enqueueAll context _)
    | offerPackage ref =>
      exact (congrArg (·.archives) (scans_enqueueAll _ _)).trans (archives_scanPackages _ _ _)
    | offerArchive ref =>
      exact (congrArg (·.archives) (scans_enqueueAll _ _)).trans (archives_scanArchives _ _ _)
    | ignore ref => rfl
    | activate group ref => rfl
    | register registration => rfl
  | scanArchives bases => exact archives_scanArchives context env bases
  | scanPackages bases => exact archives_scanPackages context env bases

theorem archives_takeAll (context : Context) (env : Environment) (steps : List HookStep) :
    (context.takeAll env steps).scans.archives = context.scans.archives := by
  induction steps generalizing context with
  | nil => rfl
  | cons step steps ih => exact (ih (context.take env step)).trans (archives_take context env step)

end Context

/-! ## Contributions -/

/-- The same call with another memory and other probes behind it. -/
def Call.withMemory (call : Call) (scans : ScanCache) (probes : List LibraryProbe) : Call :=
  { call with context := call.context.withScans scans, probes }

namespace Contribution
open LibraryProbe
variable {env : Environment} {memory : ScanCache}

/-- A contribution does nothing to the probes but ask them. -/
theorem questioned_perform (env : Environment) (contribution : Contribution) (call : Call) :
    Questioned env.registry call.probes (contribution.perform env call).probes := by
  induction contribution generalizing call with
  | done => exact .refl _ _
  | fail error => exact .refl _ _
  | act action rest ih => exact ih { call with context := call.context.perform env action }
  | scanArchives bases next ih =>
    exact ih _ { call with context := (call.context.scanArchives env bases).2 }
  | scanPackages bases next ih =>
    exact ih _ { call with context := (call.context.scanPackages env bases).2 }
  | consult sentinel next ih =>
    have hask := questioned_askAmong env.registry sentinel call.probes
    exact hask.trans
      (ih _ { call with probes := (askAmong env.registry sentinel call.probes).2 })
  | note answer rest ih => exact ih { call with answers := call.answers ++ [answer] }

theorem settle_perform (env : Environment) (contribution : Contribution) (call : Call) :
    Settle call.probes (contribution.perform env call).probes :=
  (questioned_perform env contribution call).settle

/-- A contribution that is performed again, with a memory and probes that know what it learned. -/
theorem perform_again (contribution : Contribution) {call : Call} {settled : List LibraryProbe}
    (hscans : (contribution.perform env call).context.scans.Within memory)
    (hprobes : Settle (contribution.perform env call).probes settled) (hits : Nat) :
    ∃ hits', contribution.perform env (call.withMemory (memory.withHits hits) settled) =
      (contribution.perform env call).withMemory (memory.withHits hits') settled := by
  induction contribution generalizing call hits with
  | done => exact ⟨hits, rfl⟩
  | fail error => exact ⟨hits, rfl⟩
  -- What a call remembers at its end it has remembered since, so `hscans` holds of the first step too.
  | act action rest ih =>
    have hgrows := grows_perform env rest { call with context := call.context.perform env action }
    obtain ⟨between, haction⟩ := Context.perform_again (hgrows.scans.trans hscans) hits
    obtain ⟨hits', hrest⟩ := ih hscans hprobes between
    refine ⟨hits', Eq.trans ?_ hrest⟩
    rw [perform, Call.withMemory, haction]
    rfl
  | scanArchives bases next ih =>
    have hgrows := grows_perform env (next (call.context.scanArchives env bases).1)
      { call with context := (call.context.scanArchives env bases).2 }
    obtain ⟨between, hscan⟩ := Context.scanArchives_again (hgrows.scans.trans hscans) hits
    obtain ⟨hits', hrest⟩ := ih (call.context.scanArchives env bases).1 hscans hprobes between
    refine ⟨hits', Eq.trans ?_ hrest⟩
    rw [perform, Call.withMemory, hscan]
    rfl
  | scanPackages bases next ih =>
    have hgrows := grows_perform env (next (call.context.scanPackages env bases).1)
      { call with context := (call.context.scanPackages env bases).2 }
    obtain ⟨between, hscan⟩ := Context.scanPackages_again (hgrows.scans.trans hscans) hits
    obtain ⟨hits', hrest⟩ := ih (call.context.scanPackages env bases).1 hscans hprobes between
    refine ⟨hits', Eq.trans ?_ hrest⟩
    rw [perform, Call.withMemory, hscan]
    rfl
  | consult sentinel next ih =>
    have hkept := settle_perform env (next (askAmong env.registry sentinel call.probes).1)
      { call with probes := (askAmong env.registry sentinel call.probes).2 }
    have hask := askAmong_again (hkept.trans hprobes)
    obtain ⟨hits', hrest⟩ := ih (askAmong env.registry sentinel call.probes).1 hscans hprobes hits
    refine ⟨hits', Eq.trans ?_ hrest⟩
    rw [perform, Call.withMemory, hask]
    rfl
  | note answer rest ih =>
    obtain ⟨hits', hrest⟩ := ih hscans hprobes hits
    exact ⟨hits', hrest⟩

end Contribution

/-! ## Calls -/

/-- The same progress with another memory behind it. -/
def Progress.withScans (progress : Progress) (scans : ScanCache) : Progress :=
  { progress with context := progress.context.withScans scans }

namespace Plugin
variable {env : Environment} {memory : ScanCache} {point : HookPoint} {plugin settled : Plugin}
  {plugins later : List Plugin} {position : Nat} {progress : Progress}

/-- The second plugin is the first one with probes that know whatever those of the first one know. -/
structure Settles (plugin settled : Plugin) : Prop where
  same : settled = { plugin with probes := settled.probes }
  probes : LibraryProbe.Settle plugin.probes settled.probes

theorem Settles.refl (plugin : Plugin) : plugin.Settles plugin := ⟨rfl, .refl _⟩

theorem Settles.trans {first second third : Plugin} (h : first.Settles second)
    (h' : second.Settles third) : first.Settles third := by
  refine ⟨?_, h.probes.trans h'.probes⟩
  rw [h'.same, h.same]

/-- The second plugin is the first one after its probes were asked about a registry. -/
structure Questioned (registry : TypeRegistry) (plugin asked : Plugin) : Prop where
  same : asked = { plugin with probes := asked.probes }
  probes : LibraryProbe.Questioned registry plugin.probes asked.probes

theorem Questioned.settles {registry : TypeRegistry} {asked : Plugin}
    (h : plugin.Questioned registry asked) : plugin.Settles asked := ⟨h.same, h.probes.settle⟩

theorem questioned_call (env : Environment) (point : HookPoint) (position : Nat) (plugin : Plugin)
    (progress : Progress) :
    plugin.Questioned env.registry (plugin.call env point position progress).1 := by
  rw [call]
  split
  · exact ⟨rfl, .refl _ _⟩
  · exact ⟨rfl, Contribution.questioned_perform env (plugin.respond env point)
      { context := progress.context, probes := plugin.probes }⟩

/-- What plugins knew before they were called they still know afterwards. -/
theorem settles_of_callEach
    (h : List.Forall₂ Settles (callEach env point position plugins progress).1 later) :
    List.Forall₂ Settles plugins later := by
  induction plugins generalizing later position progress with
  | nil => exact h
  | cons plugin plugins ih =>
    rw [callEach_cons] at h
    obtain ⟨settled, rest, hplugin, hrest, rfl⟩ := List.forall₂_cons_left_iff.1 h
    exact .cons ((questioned_call env point position plugin progress).settles.trans hplugin) (ih hrest)

/-- A plugin that is called again. -/
theorem call_again (hscans : (plugin.call env point position progress).2.context.scans.Within memory)
    (hplugin : (plugin.call env point position progress).1.Settles settled) (hits : Nat) :
    ∃ hits', settled.call env point position (progress.withScans (memory.withHits hits)) =
      (settled, (plugin.call env point position progress).2.withScans (memory.withHits hits')) := by
  by_cases hfailed : progress.failure.isSome = true
  · refine ⟨hits, ?_⟩
    have hfailed' : (progress.withScans (memory.withHits hits)).failure.isSome = true := hfailed
    rw [call_of_failure hfailed, call_of_failure hfailed']
  · have hfailed' : ¬ (progress.withScans (memory.withHits hits)).failure.isSome = true := hfailed
    rw [call, if_neg hfailed] at hscans hplugin
    obtain ⟨probes, rfl⟩ : ∃ probes, settled = { plugin with probes } :=
      ⟨settled.probes, hplugin.same⟩
    obtain ⟨hits', hperform⟩ := Contribution.perform_again (plugin.respond env point)
      hscans hplugin.probes hits
    refine ⟨hits', ?_⟩
    rw [call, call, if_neg hfailed, if_neg hfailed']
    exact congrArg (fun call : Call => ({ plugin with probes := call.probes },
      progress.after position point call)) hperform

/-- Plugins that are called again, one after the other. -/
theorem callEach_again
    (hscans : (callEach env point position plugins progress).2.context.scans.Within memory)
    (hplugins : List.Forall₂ Settles (callEach env point position plugins progress).1 later)
    (hits : Nat) :
    ∃ hits', callEach env point position later (progress.withScans (memory.withHits hits)) =
      (later,
        (callEach env point position plugins progress).2.withScans (memory.withHits hits')) := by
  induction plugins generalizing later position progress hits with
  | nil =>
    cases hplugins
    exact ⟨hits, rfl⟩
  | cons plugin plugins ih =>
    rw [callEach_cons] at hscans hplugins
    obtain ⟨settled, rest, hplugin, hrest, rfl⟩ := List.forall₂_cons_left_iff.1 hplugins
    have hgrows := grows_callEach env point (position + 1) plugins
      (plugin.call env point position progress).2
    obtain ⟨between, hcall⟩ := call_again (hgrows.scans.trans hscans) hplugin hits
    obtain ⟨hits', hcalls⟩ := ih hscans hrest between
    refine ⟨hits', ?_⟩
    rw [callEach_cons, callEach_cons, hcall, hcalls]

end Plugin
end BeanDiscovery
