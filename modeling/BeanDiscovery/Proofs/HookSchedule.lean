import BeanDiscovery.Proofs.TraversalCompleteness

/-!
# The schedule of hook calls

The plugins take turns in a fixed order: once before the traversal, and for every inspected class once for
the class, then field by field and method by method. This module follows a run call by call, whatever the
plugins do and whichever call fails. The main statement says that the calls of a run follow the schedule of
its inspected classes, that nothing is called after a failure, and that a run without a failure goes through
the whole schedule.
-/
namespace BeanDiscovery

/-- A plugin's turn at a hook point. The plugin is given by its position in the list. -/
structure Turn where
  plugin : Nat
  point : HookPoint

/-- A turn that was taken, and how it ended. -/
structure HookCall where
  turn : Turn
  failure : Option DiscoveryError

namespace HookPoint

/-- The turns of plugins at a point, in the order of the plugins. -/
def turns (count : Nat) (point : HookPoint) : List Turn :=
  (List.range count).map fun position => ⟨position, point⟩

/-- The turns of plugins for a class: for the class, then for its fields one after the other, then for its
methods one after the other. -/
def turnsFor (count : Nat) (info : ClassInfo) : List Turn :=
  turns count (.process info) ++ info.fields.flatMap (fun field => turns count (.field info field)) ++
    info.methods.flatMap fun method => turns count (.method info method)

def schedule (test : ClassName) (count : Nat) (classes : List ClassInfo) : List Turn :=
  turns count (.bootstrap test) ++ classes.flatMap (turnsFor count)

/-- An inspection goes through the hook points of a class in the order of its turns. -/
theorem flatMap_turns_hookPoints (count : Nat) (info : ClassInfo) :
    info.hookPoints.flatMap (turns count) = turnsFor count info := by
  rw [ClassInfo.hookPoints, List.flatMap_cons, List.flatMap_append, List.flatMap_map, List.flatMap_map,
    turnsFor, List.append_assoc]

end HookPoint

/-- The class whose inspection begins for a plugin with a turn. -/
def Turn.processed? (position : Nat) (turn : Turn) : Option ClassName :=
  if turn.plugin = position ∧ turn.point.stage = .process then some turn.point.subject else none

def Entry.turn? (entry : Entry) : Option Turn :=
  match entry.event with
  | .called point => some ⟨entry.plugin, point⟩
  | .answered _ => none

def Progress.turns (progress : Progress) : List Turn :=
  progress.account.reverse.filterMap Entry.turn?

/-! ## The calls of a run -/

namespace Plugin

/-- The call that is made to a plugin, unless the run has failed. -/
def calls (env : Environment) (point : HookPoint) (position : Nat) (plugin : Plugin)
    (progress : Progress) : List HookCall :=
  if progress.failure.isSome then []
  else
    let call := (plugin.respond env point).perform env
      { context := progress.context, probes := plugin.probes }
    [⟨⟨position, point⟩, call.failure⟩]

def callsOfEach (env : Environment) (point : HookPoint) :
    Nat → List Plugin → Progress → List HookCall
  | _, [], _ => []
  | position, plugin :: plugins, progress =>
    plugin.calls env point position progress ++
      callsOfEach env point (position + 1) plugins (plugin.call env point position progress).2

end Plugin

namespace Run

def calls (run : Run) (env : Environment) (point : HookPoint) : List HookCall :=
  Plugin.callsOfEach env point 0 run.plugins run.progress

def callsAtAll (run : Run) (env : Environment) : List HookPoint → List HookCall
  | [] => []
  | point :: points => run.calls env point ++ (run.call env point).callsAtAll env points

end Run

def Visit.calls (env : Environment) (visit : Visit) : List HookCall :=
  match visit.before.context.target? env visit.candidate with
  | some info => (visit.before.update (·.turnTo info)).callsAtAll env info.hookPoints
  | none => []

def Run.allCalls (env : Environment) (scans : ScanCache) (plugins : List Plugin) : List HookCall :=
  (start env scans plugins).callsAtAll env [.bootstrap env.configuration.testClass] ++
    (visits env scans plugins).flatMap (Visit.calls env)

/-! ## Following a schedule -/

/-- The calls so far are the first ones of a schedule: all of them if the run has not failed, and up to the
one that failed otherwise. -/
structure Progress.Follows (progress : Progress) (schedule : List Turn) (calls : List HookCall) :
    Prop where
  account : progress.turns = calls.map (·.turn)
  order : calls.map (·.turn) <+: schedule
  running : progress.failure = none →
    calls.map (·.turn) = schedule ∧ ∀ call ∈ calls, call.failure = none
  stopped : ∀ error, progress.failure = some error → ∃ before last, calls = before ++ [last] ∧
    last.failure = some error ∧ ∀ call ∈ before, call.failure = none

theorem Progress.turns_after (progress : Progress) (position : Nat) (point : HookPoint) (call : Call) :
    (progress.after position point call).turns = progress.turns ++ [⟨position, point⟩] := by
  have hanswers : (call.answers.map fun answer : Answer =>
      (⟨position, .answered answer⟩ : Entry)).filterMap Entry.turn? = [] := by
    simp [Entry.turn?]
  rw [turns, after, List.reverse_append, List.reverse_reverse, List.reverse_cons,
    List.filterMap_append, List.filterMap_append, hanswers, List.append_nil]
  rfl

namespace Progress.Follows
variable {progress : Progress} {schedule : List Turn} {calls : List HookCall}

theorem initial (h : progress.account = []) (hf : progress.failure = none) :
    progress.Follows [] [] where
  account := by
    rw [turns, h]
    rfl
  order := List.prefix_rfl
  running _ := ⟨rfl, fun _ hmem => (List.not_mem_nil hmem).elim⟩
  stopped error herror := by cases hf.symm.trans herror

/-- A run that has failed follows every longer schedule. -/
theorem extend (h : progress.Follows schedule calls) (hf : progress.failure.isSome = true)
    (more : List Turn) : progress.Follows (schedule ++ more) calls where
  account := h.account
  order := h.order.trans (List.prefix_append schedule more)
  running hnone := by simp [hnone] at hf
  stopped := h.stopped

theorem call (h : progress.Follows schedule calls) (env : Environment) (point : HookPoint)
    (position : Nat) (plugin : Plugin) :
    (plugin.call env point position progress).2.Follows (schedule ++ [⟨position, point⟩])
      (calls ++ plugin.calls env point position progress) := by
  cases hf : progress.failure with
  | some error =>
    have hfailed : progress.failure.isSome = true := by rw [hf]; rfl
    rw [Plugin.calls, if_pos hfailed, Plugin.call_of_failure hfailed, List.append_nil]
    -- the turn stays in the schedule, though nobody takes it
    exact h.extend hfailed _
  | none =>
    have hrunning : ¬ progress.failure.isSome = true := by simp [hf]
    obtain ⟨hschedule, hquiet⟩ := h.running hf
    rw [Plugin.calls, if_neg hrunning, Plugin.call, if_neg hrunning]
    have hturns : (calls.map (·.turn)) ++ [⟨position, point⟩] = schedule ++ [⟨position, point⟩] :=
      congrArg (· ++ _) hschedule
    refine ⟨?_, ?_, fun hnone => ⟨?_, ?_⟩, fun error herror => ⟨calls, _, rfl, herror, hquiet⟩⟩
    · rw [turns_after, h.account, List.map_append]
      rfl
    · rw [List.map_append, ← hturns]
      exact List.prefix_rfl
    · rw [List.map_append, ← hturns]
      rfl
    · exact List.forall_mem_append.2 ⟨hquiet, List.forall_mem_singleton.2 hnone⟩

theorem callEach (h : progress.Follows schedule calls) (env : Environment) (point : HookPoint)
    (position : Nat) (plugins : List Plugin) :
    (Plugin.callEach env point position plugins progress).2.Follows
      (schedule ++ (List.range' position plugins.length).map fun position => ⟨position, point⟩)
      (calls ++ Plugin.callsOfEach env point position plugins progress) := by
  induction plugins generalizing schedule calls position progress with
  | nil => simpa [Plugin.callEach, Plugin.callsOfEach] using h
  | cons plugin plugins ih =>
    have hrest := ih (h.call env point position plugin) (position + 1)
    rw [List.append_assoc, List.append_assoc] at hrest
    exact hrest

/-- A call that failed is the last one, and its failure is that of the run. -/
theorem failure_of_mem (h : progress.Follows schedule calls) {call : HookCall} (hcall : call ∈ calls)
    {error : DiscoveryError} (herror : call.failure = some error) :
    progress.failure = some error ∧
      ∃ before, calls = before ++ [call] ∧ ∀ other ∈ before, other.failure = none := by
  cases hf : progress.failure with
  | none => cases ((h.running hf).2 call hcall).symm.trans herror
  | some found =>
    obtain ⟨before, last, rfl, hlast, hquiet⟩ := h.stopped found hf
    rcases List.mem_append.1 hcall with hbefore | hmem
    · cases (hquiet call hbefore).symm.trans herror
    · obtain rfl := List.mem_singleton.1 hmem
      exact ⟨hlast.symm.trans herror, before, rfl, hquiet⟩

theorem failure_of_quiet (h : progress.Follows schedule calls)
    (hquiet : ∀ call ∈ calls, call.failure = none) : progress.failure = none := by
  cases hf : progress.failure with
  | none => rfl
  | some error =>
    obtain ⟨before, last, rfl, hlast, -⟩ := h.stopped error hf
    cases (hquiet last (List.mem_append_right _ List.mem_cons_self)).symm.trans hlast

end Progress.Follows

namespace Run
variable {env : Environment} {run final : Run} {schedule : List Turn} {calls : List HookCall}
  {count : Nat} {scans : ScanCache} {plugins : List Plugin}

theorem length_plugins_call (run : Run) (env : Environment) (point : HookPoint) :
    (run.call env point).plugins.length = run.plugins.length := by
  have hrespond := congrArg List.length (Plugin.respond_callEach env point 0 run.plugins run.progress)
  rwa [List.length_map, List.length_map] at hrespond

theorem length_plugins_callAll (run : Run) (env : Environment) (points : List HookPoint) :
    (run.callAll env points).plugins.length = run.plugins.length := by
  induction points generalizing run with
  | nil => rfl
  | cons point points ih => exact (ih (run.call env point)).trans (run.length_plugins_call env point)

theorem length_plugins_seeded (env : Environment) (scans : ScanCache) (plugins : List Plugin) :
    (seeded env scans plugins).plugins.length = plugins.length :=
  (start env scans plugins).length_plugins_call env (.bootstrap env.configuration.testClass)

theorem length_plugins_visit (run : Run) (env : Environment) (candidate : ClassName) :
    (run.visit env candidate).plugins.length = run.plugins.length := by
  cases ht : run.context.target? env candidate with
  | none =>
    rw [visit_of_skipped ht]
    rfl
  | some info =>
    rw [visit_of_target ht]
    exact (run.update (·.turnTo info)).length_plugins_callAll env info.hookPoints

theorem follows_update (h : run.progress.Follows schedule calls) (f : Context → Context) :
    (run.update f).progress.Follows schedule calls := ⟨h.account, h.order, h.running, h.stopped⟩

theorem follows_call (h : run.progress.Follows schedule calls) (hcount : run.plugins.length = count)
    (point : HookPoint) :
    (run.call env point).progress.Follows (schedule ++ point.turns count)
      (calls ++ run.calls env point) := by
  have heach := h.callEach env point 0 run.plugins
  rwa [← List.range_eq_range', hcount] at heach

theorem follows_callAll (h : run.progress.Follows schedule calls)
    (hcount : run.plugins.length = count) (points : List HookPoint) :
    (run.callAll env points).progress.Follows (schedule ++ points.flatMap (·.turns count))
      (calls ++ run.callsAtAll env points) := by
  induction points generalizing run schedule calls with
  | nil => simpa [callsAtAll, callAll] using h
  | cons point points ih =>
    have hrest := ih (follows_call h hcount point) ((run.length_plugins_call env point).trans hcount)
    rw [List.append_assoc, List.append_assoc] at hrest
    exact hrest

/-- During a visit the plugins take their turns for the class, if it is inspected. -/
theorem follows_visit (h : run.progress.Follows schedule calls)
    (hcount : run.plugins.length = count) (candidate : ClassName) :
    (run.visit env candidate).progress.Follows
      (schedule ++ (run.context.target? env candidate).toList.flatMap (HookPoint.turnsFor count))
      (calls ++ Visit.calls env ⟨run, candidate⟩) := by
  cases ht : run.context.target? env candidate with
  | none =>
    rw [visit_of_skipped ht, Visit.calls, ht, Option.toList_none, List.flatMap_nil, List.append_nil,
      List.append_nil]
    exact ⟨h.account, h.order, h.running, h.stopped⟩
  | some info =>
    rw [visit_of_target ht, Visit.calls, ht, Option.toList_some, List.flatMap_singleton,
      ← HookPoint.flatMap_turns_hookPoints]
    exact follows_update (follows_update (follows_callAll (follows_update h (·.turnTo info)) hcount
      info.hookPoints) (·.turnAway)) (·.settle candidate)

theorem Visits.follows {visits : List Visit} (hvisits : Visits env run visits final)
    (h : run.progress.Follows schedule calls) (hcount : run.plugins.length = count) :
    final.progress.Follows
      (schedule ++ (visits.filterMap fun visit =>
        visit.before.context.target? env visit.candidate).flatMap (HookPoint.turnsFor count))
      (calls ++ visits.flatMap (Visit.calls env)) := by
  -- from the first visit on: its turns join the schedule before those of the later visits
  induction hvisits generalizing schedule calls with
  | stop => simpa using h
  | @visit run candidate visits final hf hn rest ih =>
    have hrest := ih (follows_visit h hcount candidate)
      ((run.length_plugins_visit env candidate).trans hcount)
    rw [List.append_assoc, List.append_assoc, ← List.flatMap_append] at hrest
    rw [List.filterMap_eq_flatMap_toList] at hrest ⊢
    exact hrest

theorem follows_complete (env : Environment) (scans : ScanCache) (plugins : List Plugin) :
    (complete env scans plugins).progress.Follows
      (HookPoint.schedule env.configuration.testClass plugins.length
        ((complete env scans plugins).inspectedClasses env))
      (allCalls env scans plugins) := by
  have hstart : (start env scans plugins).progress.Follows [] [] := .initial rfl rfl
  have hbootstrap : ((start env scans plugins).callAll env
      [.bootstrap env.configuration.testClass]).progress.Follows _ _ :=
    follows_callAll hstart (show _ = plugins.length from rfl) _
  rw [List.nil_append, List.nil_append, List.flatMap_singleton] at hbootstrap
  have hseeded : (seeded env scans plugins).progress.Follows _ _ :=
    follows_update hbootstrap fun context => context.enqueueAll env.configuration.additionalClasses
  have hcomplete := (visits_complete env scans plugins).follows hseeded
    (length_plugins_seeded env scans plugins)
  rw [← inspectedClasses_complete] at hcomplete
  exact hcomplete

end Run

/-! ## Classes in a schedule -/

namespace HookPoint

/-- At the hook point of a class each plugin has one turn, and at the others it begins no inspection. -/
theorem processed_turns {count position : Nat} (hposition : position < count) (point : HookPoint) :
    (point.turns count).filterMap (Turn.processed? position) =
      if point.stage = .process then [point.subject] else [] := by
  rw [turns, List.filterMap_map]
  split
  next hstage =>
    have hone : (List.range count).filterMap (Turn.processed? position ∘ fun i => ⟨i, point⟩) =
        ((List.range count).filter fun i => decide (i = position)).filterMap
          fun _ => some point.subject := by
      rw [List.filterMap_filter]
      simp [Function.comp_def, Turn.processed?, hstage]
    rw [hone, List.filter_eq, List.count_eq_one_of_mem List.nodup_range (List.mem_range.2 hposition)]
    rfl
  next hstage => exact List.filterMap_eq_nil_iff.2 fun other _ => if_neg fun h => hstage h.2

theorem processed_turnsFor {count position : Nat} (hposition : position < count) (info : ClassInfo) :
    (turnsFor count info).filterMap (Turn.processed? position) = [info.name] := by
  rw [turnsFor, List.filterMap_append, List.filterMap_append, List.filterMap_flatMap,
    List.filterMap_flatMap]
  simp [processed_turns hposition, stage, subject]

/-- A plugin begins in a schedule with every class once. -/
theorem processed_schedule {count position : Nat} (hposition : position < count) (test : ClassName)
    (classes : List ClassInfo) :
    (schedule test count classes).filterMap (Turn.processed? position) = classes.map (·.name) := by
  rw [schedule, List.filterMap_append, List.filterMap_flatMap, processed_turns hposition,
    if_neg (by simp [stage]), List.nil_append, List.map_eq_flatMap]
  exact List.flatMap_congr fun info _ => processed_turnsFor hposition info

end HookPoint

namespace Run

/-- The calls of a run, whatever the plugins do. They are those of the account, and they are the first ones
of the schedule: each plugin before the traversal, and for each inspected class, in order, each plugin for
the class, for its fields one after the other, and for its methods one after the other. The schedule is cut
short only by a call that failed. A call that fails is the last one, and its error is what the run yields. If
no call fails, the schedule is gone through to its end, each plugin begins once with each inspected class,
and the run yields a report. -/
theorem calls_of_complete (env : Environment) (scans : ScanCache) (plugins : List Plugin) :
    let run := complete env scans plugins
    let calls := allCalls env scans plugins
    let schedule := HookPoint.schedule env.configuration.testClass plugins.length
      (run.inspectedClasses env)
    run.progress.turns = calls.map (·.turn) ∧
    (run.inspectedClasses env).map (·.name) = run.trail.inspected ∧
    calls.map (·.turn) <+: schedule ∧
    (calls.map (·.turn) ≠ schedule → ∃ before last error, calls = before ++ [last] ∧
      last.failure = some error) ∧
    (∀ call ∈ calls, ∀ error, call.failure = some error →
      (∃ before, calls = before ++ [call] ∧ ∀ other ∈ before, other.failure = none) ∧
        ∀ assembler, run.report assembler = .error error) ∧
    ((∀ call ∈ calls, call.failure = none) →
      calls.map (·.turn) = schedule ∧
      run.trail.inspected.Nodup ∧
      (∀ position < plugins.length, calls.filterMap (·.turn.processed? position) =
        run.trail.inspected) ∧
      ∀ assembler, ∃ report, run.report assembler = .ok report) := by
  intro run calls schedule
  have hfollows : run.progress.Follows schedule calls := follows_complete env scans plugins
  have hnames : (run.inspectedClasses env).map (·.name) = run.trail.inspected :=
    map_name_inspectedClasses env scans plugins
  refine ⟨hfollows.account, hnames, hfollows.order, fun hcut => ?_, fun call hcall error herror => ?_,
    fun hquiet => ?_⟩
  · cases hf : run.failure with
    | none => exact absurd (hfollows.running hf).1 hcut
    | some error =>
      obtain ⟨before, last, hcalls, hlast, -⟩ := hfollows.stopped error hf
      exact ⟨before, last, error, hcalls, hlast⟩
  · obtain ⟨hf, hbefore⟩ := hfollows.failure_of_mem hcall herror
    exact ⟨hbefore, error_of_failure hf⟩
  · have hf : run.failure = none := hfollows.failure_of_quiet hquiet
    have hcalls := (hfollows.running hf).1
    refine ⟨hcalls, nodup_inspected hf, fun position hposition => ?_, fun assembler =>
      ⟨_, report_of_failure hf assembler⟩⟩
    calc calls.filterMap (·.turn.processed? position)
        = (calls.map (·.turn)).filterMap (Turn.processed? position) := by
          rw [List.filterMap_map]
          rfl
      _ = schedule.filterMap (Turn.processed? position) := congrArg _ hcalls
      _ = (run.inspectedClasses env).map (·.name) := HookPoint.processed_schedule hposition _ _
      _ = run.trail.inspected := hnames

/-! ## Two plugins and two classes -/

def rosterTest : ClassInfo :=
  (circleClass "com.example.ATest" [.cls ⟨"com.example.B"⟩]).withMethod { name := "m" }

def rosterPart : ClassInfo := circleClass "com.example.B" []

def roster : Environment where
  registry := (TypeRegistry.initial.addRoot ⟨"file:///cp/app/"⟩ true).registerAll [rosterTest, rosterPart]
  configuration := { testClass := rosterTest.name }

def rosterPlugins : List Plugin := [circlePlugin, .inert "idle"]

theorem complete_roster :
    complete roster {} rosterPlugins =
      [rosterTest.name, rosterPart.name].foldl (fun run name => run.visit roster name)
        (seeded roster {} rosterPlugins) :=
  drain_of_isRoute (by decide +kernel) _

/-- A class with a field and a method, and the class of the field, which has no members. -/
theorem calls_roster :
    (allCalls roster {} rosterPlugins).map (·.turn) =
      [⟨0, .bootstrap rosterTest.name⟩, ⟨1, .bootstrap rosterTest.name⟩,
        ⟨0, .process rosterTest⟩, ⟨1, .process rosterTest⟩,
        ⟨0, .field rosterTest ⟨"f", .cls rosterPart.name, []⟩⟩,
        ⟨1, .field rosterTest ⟨"f", .cls rosterPart.name, []⟩⟩,
        ⟨0, .method rosterTest { name := "m" }⟩, ⟨1, .method rosterTest { name := "m" }⟩,
        ⟨0, .process rosterPart⟩, ⟨1, .process rosterPart⟩] := by
  obtain ⟨-, -, -, -, -, hquiet⟩ := calls_of_complete roster {} rosterPlugins
  have hf : (complete roster {} rosterPlugins).failure = none := by
    rw [complete_roster]
    decide +kernel
  have hinspected : (complete roster {} rosterPlugins).trail.inspected =
      [rosterTest.name, rosterPart.name] := by
    rw [complete_roster]
    decide +kernel
  have hnone : ∀ call ∈ allCalls roster {} rosterPlugins, call.failure = none :=
    ((follows_complete roster {} rosterPlugins).running hf).2
  refine (hquiet hnone).1.trans ?_
  rw [inspectedClasses, hinspected]
  rfl

end Run
end BeanDiscovery
