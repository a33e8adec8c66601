import BeanDiscovery.Plugin.DefaultSet
import BeanDiscovery.Proofs.BuiltInPlugins
import BeanDiscovery.Proofs.Ignores
import BeanDiscovery.Proofs.TraversalCompleteness

/-!
# Mocked types

Where a mock framework is present, the types of the test's mocked fields are left out before the first class is
taken off the worklist, and the types of the mocked fields of any other class when that class is inspected. The
main statement says that the first ones are therefore never inspected, and that neither is ever deployed: no
matter who offers them, and when. Only the erased type of a mocked field is left out, not its arguments.
-/
namespace BeanDiscovery

def MockFramework.mocked (framework : MockFramework) (fields : List FieldInfo) : List ClassName :=
  (fields.filter fun field => field.hasMarker framework.marker).filterMap (·.rawType?)

theorem MockFramework.mem_mocked {framework : MockFramework} {fields : List FieldInfo} {field : FieldInfo}
    {mocked : ClassName} (hfield : field ∈ fields) (hmarker : field.hasMarker framework.marker = true)
    (hraw : field.rawType? = some mocked) : mocked ∈ framework.mocked fields :=
  List.mem_filterMap.2 ⟨field, List.mem_filter.2 ⟨hfield, hmarker⟩, hraw⟩

/-- The fields that a hook call shows to a mock plugin: those of the test, or the one it is about. -/
def HookPoint.shownFields (env : Environment) : HookPoint → List FieldInfo
  | .bootstrap test => (env.registry.resolve test).toList.flatMap (·.fields)
  | .field _ shown => [shown]
  | .process _ => []
  | .method _ _ => []

namespace Plugin
variable {env : Environment} {framework : MockFramework}

theorem ignored_ignoreMocked (registry : TypeRegistry) (framework : MockFramework)
    (fields : List FieldInfo) :
    (fields.flatMap (ignoreMocked framework)).flatMap
      (fun action => (HookStep.act action).ignored registry) = framework.mocked fields := by
  induction fields with
  | nil => rfl
  | cons field fields ih =>
    rw [List.flatMap_cons, List.flatMap_append, ih, MockFramework.mocked, MockFramework.mocked,
      ignoreMocked, List.filter_cons]
    split
    · rw [List.filterMap_cons]
      cases field.rawType? <;> rfl
    · rfl

/-- Where the framework is present, its plugin plans to leave out the mocked types of the fields it is
shown. -/
theorem ignored_plan_mocking (hpresent : env.registry.isPresent framework.sentinel = true)
    (memory : ScanCache) (point : HookPoint) :
    ((mocking framework).plan env memory point).flatMap (·.ignored env.registry) =
      framework.mocked (point.shownFields env) := by
  cases point with
  | bootstrap test =>
    change ((if env.registry.isPresent framework.sentinel then Contribution.actions (.register _ :: _)
      else .done).plan env.registry memory).flatMap _ = _
    rw [if_pos hpresent, flatMap_plan_actions]
    exact ignored_ignoreMocked env.registry framework _
  | field info field =>
    change ((if env.registry.isPresent framework.sentinel then
      Contribution.actions (ignoreMocked framework field) else .done).plan env.registry memory).flatMap _ = _
    rw [if_pos hpresent, flatMap_plan_actions, HookPoint.shownFields,
      ← ignored_ignoreMocked env.registry, List.flatMap_singleton]
  | process info => rfl
  | method info method => rfl

theorem ignored_steps_mocking (hpresent : env.registry.isPresent framework.sentinel = true)
    {plugin : Plugin} (hresponds : plugin.respond = (mocking framework).respond)
    (htruthful : plugin.Truthful env.registry) (point : HookPoint) {progress : Progress}
    (hf : progress.failure = none) :
    (plugin.steps env point progress).flatMap (·.ignored env.registry) =
      framework.mocked (point.shownFields env) := by
  rw [(call_eq htruthful 0 hf (.refl _)).1, plan, hresponds]
  exact ignored_plan_mocking hpresent _ point

/-- What a mock plugin leaves out at one of several hook points is left out. -/
theorem mem_ignored_planAll {plugins : List Plugin} {points : List HookPoint}
    (hmock : mocking framework ∈ plugins)
    (hpresent : env.registry.isPresent framework.sentinel = true) (memory : ScanCache)
    {point : HookPoint} (hpoint : point ∈ points) {name : ClassName}
    (hname : name ∈ framework.mocked (point.shownFields env)) :
    name ∈ (planAll env memory plugins points).flatMap (·.ignored env.registry) := by
  rw [← ignored_plan_mocking hpresent memory, List.mem_flatMap] at hname
  obtain ⟨step, hstep, hname⟩ := hname
  exact List.mem_flatMap.2 ⟨step, mem_planAll.2 ⟨point, hpoint, _, hmock, hstep⟩, hname⟩

end Plugin

namespace Run
variable {env : Environment} {scans : ScanCache} {plugins : List Plugin} {framework : MockFramework}
  {name mocked : ClassName} {info : ClassInfo}

/-- A name that is left out before the traversal is left out in time. -/
theorem ignoredInTime_of_start (h : name ∈ ignoredDuring env scans plugins []) :
    IgnoredInTime env scans plugins name := by
  intro first visit rest hsplit hcandidate
  rw [mem_ignoredDuring] at h ⊢
  exact Or.inl (h.resolve_right List.not_mem_nil)

section Mocked
variable (htruthful : ∀ plugin ∈ plugins, plugin.Truthful env.registry)
  (hmock : .mocking framework ∈ plugins)
  (hpresent : env.registry.isPresent framework.sentinel = true)
  (hf : (complete env scans plugins).failure = none)
include htruthful hmock hpresent hf

theorem mem_ignored_of_test (htest : env.registry.resolve env.configuration.testClass = some info)
    (hmocked : mocked ∈ framework.mocked info.fields) :
    mocked ∈ ignoredDuring env scans plugins [] := by
  have hshown : mocked ∈ framework.mocked
      ((HookPoint.bootstrap env.configuration.testClass).shownFields env) := by
    rw [HookPoint.shownFields, htest, Option.toList_some, List.flatMap_singleton]
    exact hmocked
  have hsteps := bootstrapSteps_eq htruthful hf
  rw [stepsAtAll, stepsAtAll, List.append_nil] at hsteps
  rw [ignoredDuring, List.flatMap_nil, List.append_nil, hsteps]
  exact Plugin.mem_ignored_planAll hmock hpresent _ List.mem_cons_self hshown

theorem mem_ignored_of_inspected (hname : name ∈ (complete env scans plugins).trail.inspected)
    (hinfo : env.registry.resolve name = some info) {field : FieldInfo} (hfield : field ∈ info.fields)
    (hmocked : mocked ∈ framework.mocked [field]) :
    mocked ∈ (complete env scans plugins).context.findings.ignored := by
  obtain ⟨visit, hvisit, rfl, target, htarget⟩ := mem_inspected.1 hname
  obtain rfl := Option.some.inj ((Context.resolve_of_target htarget).symm.trans hinfo)
  have hpoint : HookPoint.field target field ∈ target.hookPoints :=
    Plugin.mem_hookPoints.2 (Or.inr (Or.inl ⟨field, hfield, rfl⟩))
  have hplan := Plugin.mem_ignored_planAll hmock hpresent
    (complete env scans plugins).context.scans hpoint hmocked
  rw [← inspectionSteps_eq htruthful hf hvisit htarget] at hplan
  obtain ⟨step, hstep, hignored⟩ := List.mem_flatMap.1 hplan
  have hsteps : step ∈ visit.steps env := by
    rw [Visit.steps, htarget, Option.toList_some, List.flatMap_singleton]
    exact hstep
  rw [mem_ignored_complete, mem_ignoredDuring]
  exact Or.inr (List.mem_flatMap.2 ⟨step, List.mem_flatMap.2 ⟨visit, hvisit, hsteps⟩, hignored⟩)

end Mocked

theorem notMem_discovered_of_ignored {assembler : Assembler} {report : Report}
    (hreport : (complete env scans plugins).report assembler = .ok report)
    (h : name ∈ (complete env scans plugins).context.findings.ignored) :
    name ∉ report.descriptor.discovered := by
  rw [eq_of_report hreport, Assembler.mem_discovered_assemble]
  exact fun hmem => hmem.2 h

/-- Mocked types are never deployed. -/
theorem mocked_of_report (hplugins : ∀ plugin ∈ plugins, plugin.IsBuiltIn)
    (hmock : .mocking framework ∈ plugins)
    (hpresent : env.registry.isPresent framework.sentinel = true) {assembler : Assembler}
    {report : Report} (hreport : (complete env scans plugins).report assembler = .ok report) :
    (∀ test, env.registry.resolve env.configuration.testClass = some test →
      ∀ field ∈ test.fields, field.hasMarker framework.marker = true →
        ∀ mocked, field.rawType? = some mocked →
          mocked ∉ (complete env scans plugins).trail.inspected ∧
          (∀ target, (mocked, target) ∉ report.graph.edges) ∧
          mocked ∉ report.descriptor.discovered) ∧
    (∀ name ∈ (complete env scans plugins).trail.inspected, ∀ info,
      env.registry.resolve name = some info →
        ∀ field ∈ info.fields, field.hasMarker framework.marker = true →
          ∀ mocked, field.rawType? = some mocked → mocked ∉ report.descriptor.discovered) ∧
    ∀ plugin : Plugin, plugin.respond = (Plugin.mocking framework).respond →
      plugin.Truthful env.registry → ∀ point progress, progress.failure = none →
        (plugin.steps env point progress).flatMap (·.ignored env.registry) =
          framework.mocked (point.shownFields env) := by
  have htruthful := Plugin.truthful_of_builtIn hplugins env.registry
  have hf := failure_of_report hreport
  refine ⟨?_, ?_, fun plugin hresponds htrue point progress =>
    Plugin.ignored_steps_mocking hpresent hresponds htrue point⟩
  · intro test htest field hfield hmarker mocked hraw
    have hstart := mem_ignored_of_test htruthful hmock hpresent hf htest
      (MockFramework.mem_mocked hfield hmarker hraw)
    have hinspected := notMem_inspected (ignoredInTime_of_start hstart)
    refine ⟨hinspected, fun target hedge => ?_, notMem_discovered_of_ignored hreport ?_⟩
    · rw [eq_of_report hreport] at hedge
      exact hinspected (mem_inspected_of_edge hedge)
    · rw [mem_ignored_complete, mem_ignoredDuring]
      exact Or.inl (mem_ignored_seeded.2 hstart)
  · intro name hname info hinfo field hfield hmarker mocked hraw
    exact notMem_discovered_of_ignored hreport
      (mem_ignored_of_inspected htruthful hmock hpresent hf hname hinfo hfield
        (MockFramework.mem_mocked List.mem_cons_self hmarker hraw))

/-! ### A test with mocks -/

def mockedField (name : String) (declared : TypeRef) : FieldInfo where
  name
  declared
  markers := [⟨Vocabulary.inject, [], []⟩, ⟨MockFramework.mockito.marker, [], []⟩]

def shopTest : ClassInfo where
  name := ⟨"com.example.ATest"⟩
  location := some ⟨"file:///cp/app/"⟩
  fields :=
    [mockedField "holders" (.array (.parameterized ⟨"com.example.Holder"⟩ [.cls ⟨"com.example.Item"⟩])),
      { name := "service", declared := .cls ⟨"com.example.Service"⟩
        markers := [⟨Vocabulary.inject, [], []⟩] }]

def shopService : ClassInfo where
  name := ⟨"com.example.Service"⟩
  location := some ⟨"file:///cp/app/"⟩
  fields := [mockedField "store" (.cls ⟨"com.example.Store"⟩)]

def shop : Environment where
  registry := ((TypeRegistry.initial.addRoot ⟨"file:///cp/app/"⟩ true).registerAll
    [shopTest, shopService, circleClass "com.example.Holder" [],
      circleClass "com.example.Item" [], circleClass "com.example.Store" []]).register
    { name := MockFramework.mockito.sentinel }
  configuration :=
    { testClass := shopTest.name
      additionalClasses := [⟨"com.example.Store"⟩, ⟨"com.example.Holder"⟩] }

theorem complete_shop :
    complete shop {} (Plugin.defaultSet Vocabulary.frameworkPackage) =
      [⟨"com.example.ATest"⟩, ⟨"com.example.Store"⟩, ⟨"com.example.Holder"⟩, ⟨"com.example.Item"⟩,
        ⟨"com.example.Service"⟩].foldl (fun run name => run.visit shop name)
        (seeded shop {} (Plugin.defaultSet Vocabulary.frameworkPackage)) :=
  drain_of_isRoute (by decide +kernel) _

/-- The holder is left out in time and the store after its inspection; the type argument is deployed. -/
theorem mocked_shop :
    let run := complete shop {} (Plugin.defaultSet Vocabulary.frameworkPackage)
    ∃ report, run.report {} = .ok report ∧
      ⟨"com.example.Holder"⟩ ∉ run.trail.inspected ∧
      ⟨"com.example.Holder"⟩ ∉ report.descriptor.discovered ∧
      ⟨"com.example.Store"⟩ ∈ run.trail.inspected ∧
      ⟨"com.example.Store"⟩ ∉ report.descriptor.discovered ∧
      ⟨"com.example.Item"⟩ ∈ report.descriptor.discovered := by
  intro run
  have hf : run.failure = none := by
    rw [show run = _ from complete_shop]
    decide +kernel
  have htest : shop.registry.resolve shop.configuration.testClass = some shopTest := rfl
  have hservice : shop.registry.resolve ⟨"com.example.Service"⟩ = some shopService := rfl
  have hmock : .mocking .mockito ∈ Plugin.defaultSet Vocabulary.frameworkPackage := by
    simp [Plugin.defaultSet]
  obtain ⟨hfirst, hlater, -⟩ := mocked_of_report (Plugin.isBuiltIn_defaultSet _) hmock
    (by decide +kernel) (report_of_failure hf {})
  obtain ⟨hinspected, -, hdiscovered⟩ := hfirst shopTest htest _ List.mem_cons_self
    (by decide +kernel) ⟨"com.example.Holder"⟩ (by decide +kernel)
  refine ⟨_, report_of_failure hf {}, hinspected, hdiscovered, ?_, ?_, ?_⟩
  · rw [show run = _ from complete_shop]
    decide +kernel
  · refine hlater ⟨"com.example.Service"⟩ ?_ shopService hservice _ List.mem_cons_self
      (by decide +kernel) ⟨"com.example.Store"⟩ (by decide +kernel)
    rw [complete_shop]
    decide +kernel
  · rw [show run = _ from complete_shop]
    decide +kernel

end Run
end BeanDiscovery
