import BeanDiscovery.Context

/-!
# The worklist under any operations

A context is changed by the steps of plugins and by the traversal, which turns to a class, records a
discovered name and settles names. Here the operations may come in any order, and any name may be
settled: the oldest one, one that waits behind others, or one that was never offered. The main
statement says that the queue and the two sets stay consistent, and what each operation does to the
queue.
-/
namespace BeanDiscovery

/-- Whatever changes a context. -/
inductive Operation where
  | step (step : HookStep)
  /-- Makes a class, or none, the one under inspection. -/
  | turnTo (current : Option ClassName)
  | discover (name : ClassName)
  | settle (name : ClassName)
  deriving Inhabited

namespace Context

def apply (context : Context) (env : Environment) : Operation → Context
  | .step step => context.take env step
  | .turnTo current => { context with current }
  | .discover name => context.discover name
  | .settle name => context.settle name

def applyAll (context : Context) (env : Environment) (operations : List Operation) : Context :=
  operations.foldl (fun context operation => context.apply env operation) context

variable {context : Context} {env : Environment}

/-- A step of a plugin reaches the worklist only through offers. -/
theorem worklist_take (context : Context) (env : Environment) (step : HookStep) :
    (context.take env step).worklist =
      context.worklist.enqueueAll (context.offered env step) := by
  have h := congrArg Frontier.worklist (frontier_take context env step)
  rwa [Frontier.worklist_offerAll] at h

theorem pending_prefix_apply {operation : Operation} (h : ∀ name, operation ≠ .settle name) :
    context.worklist.pending.toList <+: (context.apply env operation).worklist.pending.toList := by
  cases operation with
  | step step =>
    rw [apply, worklist_take]
    exact Worklist.pending_prefix_enqueueAll _ _
  | turnTo current => exact List.prefix_refl _
  | discover name => exact List.prefix_refl _
  | settle name => exact absurd rfl (h name)

theorem processed_subset_apply {operation : Operation} {name : ClassName}
    (h : name ∈ context.worklist.processed) :
    name ∈ (context.apply env operation).worklist.processed := by
  cases operation with
  | step step => rwa [apply, worklist_take, Worklist.processed_enqueueAll]
  | turnTo current => exact h
  | discover other => exact h
  | settle other =>
    change name ∈ (context.worklist.settle other).processed
    rw [Worklist.processed_settle, OrderedSet.mem_insert]
    exact Or.inl h

theorem processed_subset_applyAll {operations : List Operation} {name : ClassName}
    (h : name ∈ context.worklist.processed) :
    name ∈ (context.applyAll env operations).worklist.processed := by
  induction operations generalizing context with
  | nil => exact h
  | cons operation operations ih => exact ih (processed_subset_apply h)

/-! ## Consistency -/

theorem consistent_start (env : Environment) (scans : ScanCache) :
    (start env scans).worklist.Consistent := Worklist.consistent_empty

theorem consistent_apply (h : context.worklist.Consistent) (operation : Operation) :
    (context.apply env operation).worklist.Consistent := by
  cases operation with
  | step step =>
    rw [apply, worklist_take]
    exact h.enqueueAll _
  | turnTo current => exact h
  | discover name => exact h
  | settle name => exact h.settle name

theorem consistent_applyAll (h : context.worklist.Consistent) (operations : List Operation) :
    (context.applyAll env operations).worklist.Consistent := by
  induction operations generalizing context with
  | nil => exact h
  | cons operation operations ih => exact ih (consistent_apply h operation)

/-- After any operations the queue has no repetition, the set repeats the queue, and no settled name
waits. An operation that settles nothing adds names at the back only; settling takes out one name. A
settled name stays settled and never waits again. -/
theorem worklist_under_operations (env : Environment) (scans : ScanCache)
    (operations : List Operation) :
    let context := (start env scans).applyAll env operations
    context.worklist.pending.toList.Nodup ∧
    (∀ name, name ∈ context.worklist.queued ↔ name ∈ context.worklist.pending) ∧
    (∀ name ∈ context.worklist.pending, name ∉ context.worklist.processed) ∧
    (∀ operation : Operation, (∀ name, operation ≠ .settle name) →
      context.worklist.pending.toList <+:
        (context.apply env operation).worklist.pending.toList) ∧
    (∀ name,
      (context.apply env (.settle name)).worklist.pending.toList =
        context.worklist.pending.toList.filter (fun other => decide (other ≠ name)) ∧
      name ∈ (context.apply env (.settle name)).worklist.processed) ∧
    (∀ name ∈ context.worklist.processed, ∀ later : List Operation,
      name ∈ (context.applyAll env later).worklist.processed ∧
      name ∉ (context.applyAll env later).worklist.pending) := by
  intro context
  have h : context.worklist.Consistent := consistent_applyAll (consistent_start env scans) operations
  refine ⟨h.nodup, h.mem_queued, h.disjoint, fun operation => pending_prefix_apply, ?_, ?_⟩
  · intro name
    constructor
    · exact congrArg Queue.toList (h.pending_settle name)
    · change name ∈ (context.worklist.settle name).processed
      rw [Worklist.processed_settle, OrderedSet.mem_insert]
      exact Or.inr rfl
  · intro name hname later
    have hlater : name ∈ (context.applyAll env later).worklist.processed :=
      processed_subset_applyAll hname
    exact ⟨hlater, fun hp => (consistent_applyAll h later).disjoint name hp hlater⟩

/-- A class that is settled while it waits behind the test never waits again. -/
theorem settled_behind_test :
    let env : Environment := { configuration := { testClass := ⟨"com.example.ATest"⟩ } }
    let context := (start env {}).applyAll env
      [.step (.act (.offer (.ofClass ⟨"com.example.ATest"⟩))),
        .step (.act (.offer (.ofClass ⟨"com.example.B"⟩))), .settle ⟨"com.example.B"⟩]
    context.worklist.pending.toList = [⟨"com.example.ATest"⟩] ∧
    ∀ later, ⟨"com.example.B"⟩ ∉ (context.applyAll env later).worklist.pending := by
  intro env context
  obtain ⟨-, -, -, -, -, hsettled⟩ := worklist_under_operations env {}
    [.step (.act (.offer (.ofClass ⟨"com.example.ATest"⟩))),
      .step (.act (.offer (.ofClass ⟨"com.example.B"⟩))), .settle ⟨"com.example.B"⟩]
  have hB : ⟨"com.example.B"⟩ ∈ context.worklist.processed := by decide +kernel
  exact ⟨by decide +kernel, fun later => (hsettled _ hB later).2⟩

end Context
end BeanDiscovery
