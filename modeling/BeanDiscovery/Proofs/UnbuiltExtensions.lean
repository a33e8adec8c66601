import BeanDiscovery.Proofs.StaticRuns

/-!
# Containers that cannot build all extensions

Of the plugins of this library only the one for the container's own notions can fail, and it does so for an
extension that the container cannot build. So a run with a container that builds some of the extensions makes
the same visits as a run with one that builds them all, up to the first class whose extension is missing. The
main statement says that this class decides how the run ends.
-/
namespace BeanDiscovery

/-- A container is asked for the extension of the class and cannot build it. -/
def ClassInfo.isUnbuilt (container : ContainerInterface) (info : ClassInfo) : Bool :=
  info.isConcreteExtension container && !(container.instantiate info).isOk

/-- The second container knows the extension types of the first one, builds the same extensions, and builds
all the others as well. -/
structure ContainerInterface.CompletedBy (container full : ContainerInterface)
    (registry : TypeRegistry) : Prop where
  types : full.isExtensionType = container.isExtensionType
  agrees : ∀ info ∈ registry.classes, ∀ extension,
    container.instantiate info = .ok extension → full.instantiate info = .ok extension
  builds : full.BuildsAll registry

/-- The same environment with another container. -/
def Environment.withContainer (env : Environment) (container : ContainerInterface) : Environment :=
  { env with container }

/-! ## Another container -/

namespace Context
variable (context : Context) (env : Environment) (container : ContainerInterface)

theorem scanPackages_withContainer (bases : List ClassName) :
    context.scanPackages (env.withContainer container) bases = context.scanPackages env bases := by
  induction bases generalizing context with
  | nil => rfl
  | cons base bases ih =>
    simp only [scanPackages, ih]
    rfl

theorem perform_withContainer (action : Action) :
    context.perform (env.withContainer container) action = context.perform env action := by
  cases action with
  | offerPackage ref =>
    simp only [perform, scanPackages_withContainer]
    rfl
  | _ => rfl

theorem target?_withContainer (h : container.isExtensionType = env.container.isExtensionType)
    (candidate : ClassName) :
    context.target? (env.withContainer container) candidate = context.target? env candidate := by
  rw [target?, target?, Environment.withContainer, h]

end Context

theorem Contribution.perform_withContainer (env : Environment) (container : ContainerInterface)
    (contribution : Contribution) (call : Call) :
    contribution.perform (env.withContainer container) call = contribution.perform env call := by
  induction contribution generalizing call with
  | done => rfl
  | fail error => rfl
  | act action rest ih =>
    rw [perform, perform, Context.perform_withContainer]
    exact ih _
  | scanArchives bases next ih => exact ih _ _
  | scanPackages bases next ih =>
    rw [perform, perform, Context.scanPackages_withContainer]
    exact ih _ _
  | consult sentinel next ih => exact ih _ _
  | note answer rest ih => exact ih _

namespace Plugin
variable {env : Environment} {container : ContainerInterface} {point : HookPoint}

/-- The plugin answers as it does with another container. -/
def AnswersAlike (env : Environment) (container : ContainerInterface) (point : HookPoint)
    (plugin : Plugin) : Prop :=
  plugin.respond (env.withContainer container) point = plugin.respond env point

theorem call_withContainer {plugin : Plugin} (h : plugin.AnswersAlike env container point)
    (position : Nat) (progress : Progress) :
    plugin.call (env.withContainer container) point position progress =
      plugin.call env point position progress := by
  rw [call, call, h, Contribution.perform_withContainer]

theorem callEach_withContainer {plugins : List Plugin}
    (h : ∀ plugin ∈ plugins, plugin.AnswersAlike env container point) (position : Nat)
    (progress : Progress) :
    callEach (env.withContainer container) point position plugins progress =
      callEach env point position plugins progress := by
  induction plugins generalizing position progress with
  | nil => rfl
  | cons plugin plugins ih =>
    obtain ⟨hplugin, hplugins⟩ := List.forall_mem_cons.1 h
    rw [callEach_cons, callEach_cons, call_withContainer hplugin, ih hplugins]

end Plugin

namespace Run
variable {env : Environment} {container : ContainerInterface} {scans : ScanCache}
  {plugins : List Plugin} {run : Run} {candidate : ClassName}

theorem faithful_of_withContainer (h : run.Faithful (env.withContainer container) plugins) :
    run.Faithful env plugins := ⟨h.respond, h.truthful⟩

theorem call_withContainer (h : run.Faithful env plugins) {point : HookPoint}
    (hpoint : ∀ plugin ∈ plugins, plugin.AnswersAlike env container point) :
    run.call (env.withContainer container) point = run.call env point := by
  have hplugins := (h.forall_respond (P := fun respond =>
    respond (env.withContainer container) point = respond env point)).2 hpoint
  rw [call, call, Plugin.callEach_withContainer hplugins]

theorem callAll_withContainer (h : run.Faithful env plugins) {points : List HookPoint}
    (hpoints : ∀ point ∈ points, ∀ plugin ∈ plugins, plugin.AnswersAlike env container point) :
    run.callAll (env.withContainer container) points = run.callAll env points := by
  induction points generalizing run with
  | nil => rfl
  | cons point points ih =>
    obtain ⟨hfirst, hrest⟩ := List.forall_mem_cons.1 hpoints
    rw [callAll, List.foldl_cons, call_withContainer h hfirst]
    exact ih (h.call point) hrest

/-- A visit is the same with another container, if the plugins answer the same for its class. -/
theorem visit_withContainer (h : run.Faithful env plugins)
    (htypes : container.isExtensionType = env.container.isExtensionType)
    (hpoints : ∀ info, run.context.target? env candidate = some info →
      ∀ point ∈ info.hookPoints, ∀ plugin ∈ plugins, plugin.AnswersAlike env container point) :
    run.visit (env.withContainer container) candidate = run.visit env candidate := by
  have htarget := run.context.target?_withContainer env container htypes candidate
  cases ht : run.context.target? env candidate with
  | none => rw [visit_of_skipped ht, visit_of_skipped (htarget.trans ht)]
  | some info =>
    rw [visit_of_target ht, visit_of_target (htarget.trans ht), inspect, inspect,
      callAll_withContainer (h.update _) (hpoints info ht)]

/-- Before the traversal a run is the same with another container, if the plugins answer the same. -/
theorem seeded_withContainer (h : ∀ plugin ∈ plugins, plugin.Truthful env.registry)
    (hpoint : ∀ plugin ∈ plugins,
      plugin.AnswersAlike env container (.bootstrap env.configuration.testClass)) :
    seeded (env.withContainer container) scans plugins = seeded env scans plugins := by
  have hstart : (start env scans plugins).Faithful env plugins := ⟨rfl, h⟩
  exact congrArg (·.update fun context => context.enqueueAll env.configuration.additionalClasses)
    (call_withContainer hstart hpoint)

end Run

/-! ## Failures of the plugins -/

namespace Plugin
variable {env : Environment} {full : ContainerInterface} {plugin : Plugin} {plugins : List Plugin}
  {info : ClassInfo} {point : HookPoint} {error : DiscoveryError}

/-- An extension that the container can build is handed over with both containers. -/
theorem extensionContribution_withContainer (h : env.container.CompletedBy full env.registry)
    (hinfo : info ∈ env.registry.classes) (hbuilt : info.isUnbuilt env.container = false) :
    extensionContribution (env.withContainer full) info = extensionContribution env info := by
  have htypes : info.isConcreteExtension (env.withContainer full).container =
      info.isConcreteExtension env.container :=
    congrArg (!info.isAbstract && ·) (congrFun h.types info)
  by_cases hconcrete : info.isConcreteExtension env.container = true
  · rw [extensionContribution_of_concrete hconcrete,
      extensionContribution_of_concrete (htypes.trans hconcrete)]
    cases hinstance : env.container.instantiate info with
    | error cause =>
      simp [ClassInfo.isUnbuilt, hconcrete, hinstance, Except.isOk, Except.toBool] at hbuilt
    | ok extension =>
      have hfull : (env.withContainer full).container.instantiate info = .ok extension :=
        h.agrees info hinfo extension hinstance
      rw [hfull]
  · rw [extensionContribution_of_not_concrete hconcrete,
      extensionContribution_of_not_concrete (htypes ▸ hconcrete)]

theorem extensionContribution_of_unbuilt (h : info.isUnbuilt env.container = true) :
    ∃ cause, env.container.instantiate info = .error cause ∧
      extensionContribution env info = .fail (.extensionInstantiation info.name cause) := by
  rw [ClassInfo.isUnbuilt, Bool.and_eq_true, Bool.not_eq_true'] at h
  obtain ⟨hconcrete, hfails⟩ := h
  cases hinstance : env.container.instantiate info with
  | error cause =>
    rw [extensionContribution_of_concrete hconcrete, hinstance]
    exact ⟨cause, rfl, rfl⟩
  | ok extension => simp [hinstance, Except.isOk, Except.toBool] at hfails

/-- The container matters to the plugins of this library only for the extensions of inspected classes. -/
theorem IsBuiltIn.answersAlike (h : plugin.IsBuiltIn) (hpoint : ∀ info, point = .process info →
      extensionContribution (env.withContainer full) info = extensionContribution env info) :
    plugin.AnswersAlike env full point := by
  cases h with
  | standard =>
    cases point with
    | process info => exact congrArg (· ++ _) (hpoint info rfl)
    | _ => rfl
  | _ => rfl

/-- Plugins that fail with one error or not at all fail with this error if one of them does. -/
theorem failure_callEach_of_verdict (h : ∀ plugin ∈ plugins, plugin.Truthful env.registry)
    (hverdict : ∀ plugin ∈ plugins, ∀ memory,
      (plugin.respond env point).verdict env.registry memory = none ∨
        (plugin.respond env point).verdict env.registry memory = some error)
    (hfails : ∃ plugin ∈ plugins, ∀ memory,
      (plugin.respond env point).verdict env.registry memory = some error)
    (position : Nat) {progress : Progress} (hf : progress.failure = none) :
    (callEach env point position plugins progress).2.failure = some error := by
  induction plugins generalizing position progress with
  | nil => simp at hfails
  | cons plugin plugins ih =>
    obtain ⟨hplugin, hplugins⟩ := List.forall_mem_cons.1 h
    obtain ⟨hfirst, hrest⟩ := List.forall_mem_cons.1 hverdict
    obtain ⟨-, hcall⟩ := call_eq hplugin position hf
      (.refl (plugin.call env point position progress).2.context.scans)
    rw [callEach_cons]
    rcases hfirst (plugin.call env point position progress).2.context.scans with hnone | hsome
    · refine ih hplugins hrest ?_ (position + 1) (hcall.trans hnone)
      obtain ⟨failing, hmem, hfailing⟩ := hfails
      rcases List.mem_cons.1 hmem with rfl | hmem
      · cases (hfailing _).symm.trans hnone
      · exact ⟨failing, hmem, hfailing⟩
    · have hfailed := hcall.trans hsome
      rw [callEach_of_failure (by simp [hfailed])]
      exact hfailed

end Plugin

namespace Run
variable {env : Environment} {full : ContainerInterface} {scans : ScanCache} {plugins : List Plugin}
  {run : Run} {candidate : ClassName} {info : ClassInfo}

/-- Where the container builds all extensions, a run with the plugins of this library does not fail. -/
theorem failure_complete_of_builtIn (hbuiltIn : ∀ plugin ∈ plugins, plugin.IsBuiltIn)
    (hbuilds : env.container.BuildsAll env.registry) :
    (complete env scans plugins).failure = none := by
  have hseeded : (seeded env scans plugins).failure = none := failure_bootstrap hbuiltIn
  refine ((visits_complete env scans plugins).invariant
    (P := fun run => run.Faithful env plugins ∧ run.failure = none)
    (fun run candidate hf _ hrun => ⟨hrun.1.visit candidate, ?_⟩)
    ⟨faithful_seeded (Plugin.truthful_of_builtIn hbuiltIn _) scans, hseeded⟩).1.2
  cases ht : run.context.target? env candidate with
  | none => exact (failure_visit_of_skipped ht).trans hf
  | some info =>
    have hinfo := TypeRegistry.mem_of_resolve (Context.resolve_of_target ht)
    rw [failure_visit_of_target ht]
    exact failure_callAll (hrun.1.update _) (Plugin.verdict_eq_none hbuiltIn hbuilds hinfo) hf

/-- Where the extension of a class fails, the plugins of this library fail for the class, if the one for the
container's own notions is among them. -/
theorem failure_call_process (h : run.Faithful env plugins)
    (hbuiltIn : ∀ plugin ∈ plugins, plugin.IsBuiltIn) (hstandard : .standard ∈ plugins)
    (hf : run.failure = none) {error : DiscoveryError}
    (hfail : Plugin.extensionContribution env info = .fail error) :
    (run.call env (.process info)).failure = some error := by
  have hextension : ∀ memory, (Plugin.extensionContribution env info).verdict env.registry memory =
      some error := fun memory => by
    rw [hfail]
    rfl
  refine Plugin.failure_callEach_of_verdict h.truthful ((h.forall_respond (P := fun respond =>
    ∀ memory, (respond env (.process info)).verdict env.registry memory = none ∨
      (respond env (.process info)).verdict env.registry memory = some error)).2
        fun plugin hplugin memory => ?_) ?_ 0 hf
  · rcases (hbuiltIn plugin hplugin).verdict env (.process info) memory with
      hnone | ⟨other, hsame, hverdict⟩
    · exact Or.inl hnone
    · cases hsame
      exact Or.inr (hverdict.trans (hextension memory))
  · obtain ⟨plugin, hplugin, hrespond⟩ : ∃ plugin ∈ run.plugins,
        plugin.respond = Plugin.standard.respond := by
      rw [← List.mem_map, h.respond]
      exact List.mem_map_of_mem hstandard
    refine ⟨plugin, hplugin, fun memory => ?_⟩
    rw [hrespond, Plugin.verdict_standard_process]
    exact hextension memory

/-- A visit fails in which an extension is asked for that cannot be built. -/
theorem failure_visit_of_unbuilt (h : run.Faithful env plugins)
    (hbuiltIn : ∀ plugin ∈ plugins, plugin.IsBuiltIn) (hstandard : .standard ∈ plugins)
    (hf : run.failure = none) (ht : run.context.target? env candidate = some info)
    (hunbuilt : info.isUnbuilt env.container = true) :
    ∃ cause, env.container.instantiate info = .error cause ∧
      (run.visit env candidate).failure = some (.extensionInstantiation info.name cause) := by
  obtain ⟨cause, hinstance, hfail⟩ := Plugin.extensionContribution_of_unbuilt hunbuilt
  refine ⟨cause, hinstance, ?_⟩
  -- the class is the first hook point, and the calls for its members find the run broken off
  have hcall := failure_call_process (h.update (·.turnTo info)) hbuiltIn hstandard hf hfail
  rw [failure_visit_of_target ht, ClassInfo.hookPoints, callAll, List.foldl_cons]
  exact (congrArg Run.failure (callAll_of_failure (by simp [hcall]) env _)).trans hcall

/-! ## Runs with two containers -/

theorem seeded_of_builtIn (hbuiltIn : ∀ plugin ∈ plugins, plugin.IsBuiltIn) :
    seeded (env.withContainer full) scans plugins = seeded env scans plugins :=
  seeded_withContainer (Plugin.truthful_of_builtIn hbuiltIn _) fun plugin hplugin =>
    (hbuiltIn plugin hplugin).answersAlike fun info hinfo => by cases hinfo

theorem complete_eq_drain (h : run = seeded env scans plugins) (hc : run.worklist.Consistent) :
    complete env scans plugins = drain env run hc := by
  subst h
  rfl

section Completed
variable (hbuiltIn : ∀ plugin ∈ plugins, plugin.IsBuiltIn)
  (hcompleted : env.container.CompletedBy full env.registry)
include hbuiltIn hcompleted

/-- A visit is the same with both containers unless it asks for an extension that cannot be built. -/
theorem visit_of_built (h : run.Faithful env plugins)
    (hbuilt : ∀ info, run.context.target? env candidate = some info →
      info.isUnbuilt env.container = false) :
    run.visit (env.withContainer full) candidate = run.visit env candidate := by
  refine visit_withContainer h hcompleted.types fun info ht point hpoint plugin hplugin =>
    (hbuiltIn plugin hplugin).answersAlike ?_
  rintro other rfl
  obtain rfl := Plugin.process_mem_hookPoints.1 hpoint
  exact Plugin.extensionContribution_withContainer hcompleted
    (TypeRegistry.mem_of_resolve (Context.resolve_of_target ht)) (hbuilt _ ht)

/-- A run that makes the visits of a run with the other container up to an extension that cannot be built
ends there. -/
theorem failure_of_unbuilt (hstandard : .standard ∈ plugins) {earlier later : List ClassInfo}
    (h : (complete (env.withContainer full) scans plugins).inspectedClasses env =
      earlier ++ info :: later)
    (hearlier : ∀ other ∈ earlier, other.isUnbuilt env.container = false)
    (hunbuilt : info.isUnbuilt env.container = true) :
    ∃ cause, env.container.instantiate info = .error cause ∧
      (complete env scans plugins).failure = some (.extensionInstantiation info.name cause) := by
  have hclasses : (complete (env.withContainer full) scans plugins).inspectedClasses
      (env.withContainer full) = earlier ++ info :: later := h
  obtain ⟨before, visit, after, hsplit, ht, hbefore⟩ := inspectedClasses_split hclasses
  have hvisits := visits_complete (env.withContainer full) scans plugins
  have hfaithful : ∀ other ∈ visits (env.withContainer full) scans plugins,
      other.before.Faithful env plugins := fun other hother =>
    faithful_of_withContainer (faithful_before (Plugin.truthful_of_builtIn hbuiltIn _) hother)
  rw [hsplit] at hvisits hfaithful
  have htarget := fun (run : Run) (candidate : ClassName) =>
    run.context.target?_withContainer env full hcompleted.types candidate
  rw [htarget] at ht
  obtain ⟨cause, hinstance, hfailure⟩ := failure_visit_of_unbuilt
    (hfaithful visit (List.mem_append_right _ List.mem_cons_self)) hbuiltIn hstandard
    hvisits.of_append.1 ht hunbuilt
  refine ⟨cause, hinstance, ?_⟩
  rw [complete_eq_drain (seeded_of_builtIn hbuiltIn) (consistent_seeded _ _ _),
    hvisits.drain_of_failure (fun other hother => ?_) (by simp [hfailure]), hfailure]
  refine (visit_of_built hbuiltIn hcompleted (hfaithful other (List.mem_append_left _ hother))
    fun found hfound => ?_).symm
  rw [← htarget] at hfound
  exact hearlier found (hbefore other hother found hfound)

/-- A run that would ask for no missing extension is the same with both containers. -/
theorem complete_of_built
    (h : ∀ info ∈ (complete (env.withContainer full) scans plugins).inspectedClasses env,
      info.isUnbuilt env.container = false) :
    complete env scans plugins = complete (env.withContainer full) scans plugins := by
  have hvisits := visits_complete (env.withContainer full) scans plugins
  rw [complete_eq_drain (seeded_of_builtIn hbuiltIn) (consistent_seeded _ _ _)]
  refine (hvisits.drain_of_partner (R := Eq) (fun _ _ hsame => hsame ▸ rfl)
    (fun _ _ hsame => hsame ▸ rfl) (fun visit hvisit other hsame => ?_) rfl _).symm
  subst hsame
  have hfaithful := faithful_before (Plugin.truthful_of_builtIn hbuiltIn _) hvisit
  refine visit_of_built hbuiltIn hcompleted (faithful_of_withContainer hfaithful)
    fun info ht => h info ?_
  rw [← Context.target?_withContainer _ _ _ hcompleted.types] at ht
  refine (inspectedClasses_complete (env.withContainer full) scans plugins).symm ▸ ?_
  exact List.mem_filterMap.2 ⟨visit, hvisit, ht⟩

end Completed

/-- A run ends at the first extension that cannot be built. The plugins are those of the library, each as
often as one likes, and there is one for the container's own notions. A second container builds all
extensions, and builds those of the first container alike. Then the run with the second container ends well.
The run with the first one fails if and only if the other run inspected a class whose extension is missing,
and it fails for the first such class with what the container says about it. Otherwise the two runs are the
same. -/
theorem outcome_of_unbuilt (hbuiltIn : ∀ plugin ∈ plugins, plugin.IsBuiltIn)
    (hstandard : .standard ∈ plugins) (hcompleted : env.container.CompletedBy full env.registry)
    (scans : ScanCache) (assembler : Assembler) :
    let run := complete env scans plugins
    let fullRun := complete (env.withContainer full) scans plugins
    let inspected := fullRun.inspectedClasses env
    (∃ report, fullRun.report assembler = .ok report) ∧
    ((∃ error, run.report assembler = .error error) ↔
      ∃ info ∈ inspected, info.isUnbuilt env.container = true) ∧
    (∀ earlier info later, inspected = earlier ++ info :: later →
      (∀ other ∈ earlier, other.isUnbuilt env.container = false) →
      info.isUnbuilt env.container = true →
      ∃ cause, env.container.instantiate info = .error cause ∧
        run.report assembler = .error (.extensionInstantiation info.name cause)) ∧
    ((∀ info ∈ inspected, info.isUnbuilt env.container = false) → run = fullRun) := by
  intro run fullRun inspected
  have hfull : fullRun.failure = none := failure_complete_of_builtIn hbuiltIn hcompleted.builds
  have hfails : ∀ earlier info later, inspected = earlier ++ info :: later →
      (∀ other ∈ earlier, other.isUnbuilt env.container = false) →
      info.isUnbuilt env.container = true →
      ∃ cause, env.container.instantiate info = .error cause ∧
        run.report assembler = .error (.extensionInstantiation info.name cause) := by
    intro earlier info later hsplit hearlier hunbuilt
    obtain ⟨cause, hinstance, hfailure⟩ :=
      failure_of_unbuilt hbuiltIn hcompleted hstandard hsplit hearlier hunbuilt
    exact ⟨cause, hinstance, error_of_failure hfailure assembler⟩
  have hsame : (∀ info ∈ inspected, info.isUnbuilt env.container = false) → run = fullRun :=
    complete_of_built hbuiltIn hcompleted
  refine ⟨⟨_, report_of_failure hfull assembler⟩, ⟨?_, ?_⟩, hfails, hsame⟩
  · rintro ⟨error, herror⟩
    by_contra hnone
    rw [hsame fun info hinfo => by simpa using fun hunbuilt => hnone ⟨info, hinfo, hunbuilt⟩,
      report_of_failure hfull assembler] at herror
    cases herror
  · rintro ⟨info, hinfo, hunbuilt⟩
    cases hfirst : inspected.find? (·.isUnbuilt env.container) with
    | none => exact absurd hunbuilt (List.find?_eq_none.1 hfirst info hinfo)
    | some first =>
      obtain ⟨hfirst, earlier, later, hsplit, hearlier⟩ := List.find?_eq_some_iff_append.1 hfirst
      obtain ⟨cause, -, herror⟩ := hfails earlier first later hsplit
        (fun other hother => by simpa using hearlier other hother) hfirst
      exact ⟨_, herror⟩

/-! ## A container without a factory -/

def forgeExtension (name : String) : ClassInfo where
  name := ⟨name⟩
  interfaces := [Vocabulary.extensionInterface]

/-- A test asks for three extension types, the first of them abstract. The container has a factory for the
second one only. -/
def forge : Environment where
  registry := (TypeRegistry.initial.addRoot ⟨"file:///cp/app/"⟩ true).registerAll
    [{ name := ⟨"com.example.ATest"⟩, location := some ⟨"file:///cp/app/"⟩ },
      (forgeExtension "org.lib.Base").asAbstract, forgeExtension "org.lib.First",
      forgeExtension "org.lib.Second"]
  container := (Container.withNamed {} ⟨"org.lib.First"⟩).interface
  configuration :=
    { testClass := ⟨"com.example.ATest"⟩
      additionalClasses := [⟨"org.lib.Base"⟩, ⟨"org.lib.First"⟩, ⟨"org.lib.Second"⟩] }

/-- The container with both factories. -/
def forgeContainer : ContainerInterface :=
  ((Container.withNamed {} ⟨"org.lib.First"⟩).withNamed ⟨"org.lib.Second"⟩).interface

theorem completedBy_forge : forge.container.CompletedBy forgeContainer forge.registry where
  types := rfl
  agrees := by
    have h : ∀ info ∈ forge.registry.classes, (forge.container.instantiate info).isOk = true →
        forgeContainer.instantiate info = forge.container.instantiate info := by decide +kernel
    intro info hinfo extension hextension
    rw [h info hinfo (by rw [hextension]; rfl), hextension]
  builds := by
    have h : ∀ info ∈ forge.registry.classes, info.isAbstract = false →
        forgeContainer.isExtensionType info = true →
        (forgeContainer.instantiate info).isOk = true := by decide +kernel
    intro info hinfo hconcrete hextension
    have hok := h info hinfo hconcrete hextension
    cases hinstance : forgeContainer.instantiate info with
    | error cause => simp [hinstance, Except.isOk, Except.toBool] at hok
    | ok extension => exact ⟨extension, rfl⟩

theorem inspectedClasses_forge :
    (complete (forge.withContainer forgeContainer) {} [.standard, .testScope]).inspectedClasses
      forge =
        [{ name := ⟨"com.example.ATest"⟩, location := some ⟨"file:///cp/app/"⟩ },
          (forgeExtension "org.lib.Base").asAbstract, forgeExtension "org.lib.First"] ++
        forgeExtension "org.lib.Second" :: [] := by
  have hroute : complete (forge.withContainer forgeContainer) {} [.standard, .testScope] =
      [⟨"com.example.ATest"⟩, ⟨"org.lib.Base"⟩, ⟨"org.lib.First"⟩, ⟨"org.lib.Second"⟩].foldl
        (fun run name => run.visit (forge.withContainer forgeContainer) name)
        (seeded (forge.withContainer forgeContainer) {} [.standard, .testScope]) :=
    drain_of_isRoute (by decide +kernel) _
  have htrail : (complete (forge.withContainer forgeContainer) {}
      [.standard, .testScope]).trail.inspected =
        [⟨"com.example.ATest"⟩, ⟨"org.lib.Base"⟩, ⟨"org.lib.First"⟩, ⟨"org.lib.Second"⟩] := by
    rw [hroute]
    decide +kernel
  rw [inspectedClasses, htrail]
  rfl

theorem outcome_forge :
    (complete forge {} [.standard, .testScope]).report {} = .error (.extensionInstantiation
      ⟨"org.lib.Second"⟩ "no accessible no-argument constructor for org.lib.Second") := by
  have hbuiltIn : ∀ plugin ∈ [Plugin.standard, Plugin.testScope], plugin.IsBuiltIn :=
    List.forall_mem_cons.2 ⟨.standard, List.forall_mem_singleton.2 .testScope⟩
  obtain ⟨-, -, hfails, -⟩ := outcome_of_unbuilt hbuiltIn List.mem_cons_self completedBy_forge {} {}
  obtain ⟨cause, hinstance, herror⟩ := hfails _ _ _ inspectedClasses_forge (by decide +kernel)
    (by decide +kernel)
  have hcause : forge.container.instantiate (forgeExtension "org.lib.Second") =
      .error "no accessible no-argument constructor for org.lib.Second" := by decide +kernel
  cases hinstance.symm.trans hcause
  exact herror

end Run
end BeanDiscovery
