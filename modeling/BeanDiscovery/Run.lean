import BeanDiscovery.Plugin

/-! # Calling plugins

A run goes through hook points and calls every plugin at each of them, in the order of the list. It
keeps an account of the calls and stops at the first failure. The main statements say that a stopped
run changes no more and that calls change the context only by the steps that the plugins take. -/
namespace BeanDiscovery

inductive Event where
  | called (point : HookPoint)
  | answered (answer : Answer)
  deriving Inhabited

/-- An event with the position of its plugin in the list. -/
structure Entry where
  plugin : Nat
  event : Event
  deriving Inhabited

/-- The context, the account and the failure of a run. -/
structure Progress where
  context : Context
  /-- The latest entry first. -/
  account : List Entry := []
  failure : Option DiscoveryError := none
  deriving Inhabited

def Progress.after (progress : Progress) (position : Nat) (point : HookPoint) (call : Call) :
    Progress where
  context := call.context
  account := (call.answers.map fun answer => ⟨position, .answered answer⟩).reverse ++
    ⟨position, .called point⟩ :: progress.account
  failure := call.failure

/-- Calls a plugin unless the run has failed. -/
def Plugin.call (env : Environment) (point : HookPoint) (position : Nat) (plugin : Plugin)
    (progress : Progress) : Plugin × Progress :=
  if progress.failure.isSome then (plugin, progress)
  else
    let call := (plugin.respond env point).perform env
      { context := progress.context, probes := plugin.probes }
    ({ plugin with probes := call.probes }, progress.after position point call)

def Plugin.callEach (env : Environment) (point : HookPoint) :
    Nat → List Plugin → Progress → List Plugin × Progress
  | _, [], progress => ([], progress)
  | position, plugin :: plugins, progress =>
    let (plugin, progress) := plugin.call env point position progress
    let (plugins, progress) := Plugin.callEach env point (position + 1) plugins progress
    (plugin :: plugins, progress)

/-- What became of the names that were taken off the worklist, each list in order. -/
structure Trail where
  taken : List ClassName := []
  /-- Those that the plugins were called for. -/
  inspected : List ClassName := []
  skipped : List ClassName := []
  deriving DecidableEq, Inhabited

structure Run where
  plugins : List Plugin
  progress : Progress
  trail : Trail := {}
  deriving Inhabited

namespace Run

def context (run : Run) : Context := run.progress.context

def failure (run : Run) : Option DiscoveryError := run.progress.failure

def worklist (run : Run) : Worklist := run.context.worklist

def update (run : Run) (f : Context → Context) : Run :=
  { run with progress := { run.progress with context := f run.progress.context } }

def call (run : Run) (env : Environment) (point : HookPoint) : Run :=
  let (plugins, progress) := Plugin.callEach env point 0 run.plugins run.progress
  { run with plugins, progress }

/-- Calls every plugin at one hook point after the other. -/
def callAll (run : Run) (env : Environment) (points : List HookPoint) : Run :=
  points.foldl (fun run point => run.call env point) run

end Run

namespace Plugin

theorem call_of_failure {progress : Progress} (h : progress.failure.isSome = true)
    (env : Environment) (point : HookPoint) (position : Nat) (plugin : Plugin) :
    plugin.call env point position progress = (plugin, progress) := by
  simp [call, h]

theorem callEach_cons (env : Environment) (point : HookPoint) (position : Nat) (plugin : Plugin)
    (plugins : List Plugin) (progress : Progress) :
    callEach env point position (plugin :: plugins) progress =
      ((plugin.call env point position progress).1 ::
          (callEach env point (position + 1) plugins
            (plugin.call env point position progress).2).1,
        (callEach env point (position + 1) plugins
          (plugin.call env point position progress).2).2) := rfl

theorem callEach_of_failure {progress : Progress} (h : progress.failure.isSome = true)
    (env : Environment) (point : HookPoint) (position : Nat) (plugins : List Plugin) :
    callEach env point position plugins progress = (plugins, progress) := by
  induction plugins generalizing position with
  | nil => rfl
  | cons plugin plugins ih => simp [callEach, call_of_failure h, ih]

/-! ## The steps of a call -/

/-- The steps that a plugin takes when it is called. -/
def steps (env : Environment) (point : HookPoint) (plugin : Plugin) (progress : Progress) :
    List HookStep :=
  if progress.failure.isSome then []
  else
    (plugin.respond env point).steps env { context := progress.context, probes := plugin.probes }

def stepsOfEach (env : Environment) (point : HookPoint) :
    Nat → List Plugin → Progress → List HookStep
  | _, [], _ => []
  | position, plugin :: plugins, progress =>
    plugin.steps env point progress ++
      stepsOfEach env point (position + 1) plugins (plugin.call env point position progress).2

theorem context_call (env : Environment) (point : HookPoint) (position : Nat) (plugin : Plugin)
    (progress : Progress) :
    (plugin.call env point position progress).2.context =
      progress.context.takeAll env (plugin.steps env point progress) := by
  rw [call, steps]
  split
  · rfl
  · exact Contribution.context_perform env _ _

theorem context_callEach (env : Environment) (point : HookPoint) (position : Nat)
    (plugins : List Plugin) (progress : Progress) :
    (callEach env point position plugins progress).2.context =
      progress.context.takeAll env (stepsOfEach env point position plugins progress) := by
  induction plugins generalizing position progress with
  | nil => rfl
  | cons plugin plugins ih =>
    rw [stepsOfEach, Context.takeAll_append, ← context_call]
    exact ih _ _

end Plugin

namespace Run

/-- A run that has failed changes no more. -/
theorem call_of_failure {run : Run} (h : run.failure.isSome = true) (env : Environment)
    (point : HookPoint) : run.call env point = run := by
  simp [call, Plugin.callEach_of_failure h]

theorem callAll_of_failure {run : Run} (h : run.failure.isSome = true) (env : Environment)
    (points : List HookPoint) : run.callAll env points = run := by
  induction points with
  | nil => rfl
  | cons point points ih =>
    rw [callAll, List.foldl_cons, call_of_failure h]
    exact ih

/-! ## The steps of a run -/

def steps (run : Run) (env : Environment) (point : HookPoint) : List HookStep :=
  Plugin.stepsOfEach env point 0 run.plugins run.progress

/-- The steps that the plugins take at one hook point after the other. -/
def stepsAtAll (run : Run) (env : Environment) : List HookPoint → List HookStep
  | [] => []
  | point :: points => run.steps env point ++ (run.call env point).stepsAtAll env points

theorem context_call (run : Run) (env : Environment) (point : HookPoint) :
    (run.call env point).context = run.context.takeAll env (run.steps env point) :=
  Plugin.context_callEach env point 0 run.plugins run.progress

/-- Calls change the context only by the steps that the plugins take. -/
theorem context_callAll (run : Run) (env : Environment) (points : List HookPoint) :
    (run.callAll env points).context = run.context.takeAll env (run.stepsAtAll env points) := by
  induction points generalizing run with
  | nil => rfl
  | cons point points ih =>
    rw [stepsAtAll, Context.takeAll_append, ← context_call]
    exact ih (run.call env point)

end Run
end BeanDiscovery
