import BeanDiscovery.ClassName
import BeanDiscovery.OrderedSet
import BeanDiscovery.Queue

/-! # The worklist

Names wait in the order they were offered; a name that was settled never waits again. The waiting
names are kept twice, in a queue that gives their order and in a set that is asked for membership. The
main statements give the waiting and the settled names after each operation and say that the queue
and the sets stay consistent. -/
namespace BeanDiscovery

structure Worklist where
  /-- The names that wait, the oldest first. -/
  pending : Queue ClassName := .empty
  /-- The names that wait, for look-ups. -/
  queued : OrderedSet ClassName := .empty
  /-- The names that were settled, in order. -/
  processed : OrderedSet ClassName := .empty
  deriving DecidableEq, Inhabited

namespace Worklist

/-- A name is known once it was offered or settled. -/
def knows (list : Worklist) (name : ClassName) : Bool :=
  decide (name ∈ list.processed) || decide (name ∈ list.queued)

/-- The oldest waiting name, which keeps waiting until it is settled. -/
def next? (list : Worklist) : Option ClassName := list.pending.front?

/-- Lets a name wait unless it is known. -/
def enqueue (list : Worklist) (name : ClassName) : Worklist :=
  if list.knows name then list
  else { list with pending := list.pending.push name, queued := list.queued.insert name }

def enqueueAll (list : Worklist) (names : List ClassName) : Worklist := names.foldl enqueue list

/-- Settles a name, wherever it waits and even if it does not. Most often the name is the oldest one
and the queue need not be searched. -/
def settle (list : Worklist) (name : ClassName) : Worklist :=
  if name ∈ list.queued then
    { pending :=
        if list.pending.front? = some name then list.pending.pop else list.pending.remove name
      queued := list.queued.erase name
      processed := list.processed.insert name }
  else { list with processed := list.processed.insert name }

/-- The set repeats the queue, and what waits is not settled. -/
structure Consistent (list : Worklist) : Prop where
  nodup : list.pending.toList.Nodup
  mem_queued : ∀ name, name ∈ list.queued ↔ name ∈ list.pending
  disjoint : ∀ name ∈ list.pending, name ∉ list.processed

/-! ## Offers -/

theorem knows_iff {list : Worklist} {name : ClassName} :
    list.knows name = true ↔ name ∈ list.processed ∨ name ∈ list.queued := by
  simp [knows]

theorem enqueue_of_knows {list : Worklist} {name : ClassName} (h : list.knows name = true) :
    list.enqueue name = list := by
  simp [enqueue, h]

theorem pending_enqueue (list : Worklist) (name : ClassName) :
    (list.enqueue name).pending.toList =
      if list.knows name then list.pending.toList else list.pending.toList ++ [name] := by
  rw [enqueue]
  split <;> rfl

@[simp] theorem processed_enqueue (list : Worklist) (name : ClassName) :
    (list.enqueue name).processed = list.processed := by
  rw [enqueue]
  split <;> rfl

/-- What waited before stays in front of what an offer adds. -/
theorem pending_prefix_enqueueAll (list : Worklist) (names : List ClassName) :
    list.pending.toList <+: (list.enqueueAll names).pending.toList := by
  induction names generalizing list with
  | nil => exact List.prefix_refl _
  | cons name names ih =>
    refine List.IsPrefix.trans ?_ (ih (list.enqueue name))
    rw [pending_enqueue]
    split
    · exact List.prefix_refl _
    · exact List.prefix_append _ _

@[simp] theorem processed_enqueueAll (list : Worklist) (names : List ClassName) :
    (list.enqueueAll names).processed = list.processed := by
  induction names generalizing list with
  | nil => rfl
  | cons name names ih => exact (ih (list.enqueue name)).trans (processed_enqueue list name)

/-! ## Settling -/

@[simp] theorem processed_settle (list : Worklist) (name : ClassName) :
    (list.settle name).processed = list.processed.insert name := by
  rw [settle]
  split <;> rfl

theorem mem_pending_of_next? {list : Worklist} {name : ClassName} (h : list.next? = some name) :
    name ∈ list.pending := List.mem_of_head? h

/-! ## Consistency -/

theorem consistent_empty : Consistent {} where
  nodup := List.nodup_nil
  mem_queued := fun _ => Iff.rfl
  disjoint := fun _ h => (List.not_mem_nil h).elim

namespace Consistent
variable {list : Worklist}

theorem knows_iff (h : list.Consistent) {name : ClassName} :
    list.knows name = true ↔ name ∈ list.processed ∨ name ∈ list.pending := by
  rw [Worklist.knows_iff, h.mem_queued]

theorem enqueue (h : list.Consistent) (name : ClassName) : (list.enqueue name).Consistent := by
  rw [Worklist.enqueue]
  split
  · exact h
  next hk =>
    rw [h.knows_iff, not_or] at hk
    obtain ⟨hprocessed, hpending⟩ := hk
    refine ⟨?_, ?_, ?_⟩
    · refine List.nodup_append.2 ⟨h.nodup, by simp, fun a ha b hb => ?_⟩
      rintro rfl
      exact hpending (List.mem_singleton.1 hb ▸ ha)
    · intro other
      simp [h.mem_queued other, Queue.mem_def]
    · intro other ho
      rcases List.mem_append.1 ho with ho | ho
      · exact h.disjoint other ho
      · exact List.mem_singleton.1 ho ▸ hprocessed

theorem enqueueAll (h : list.Consistent) (names : List ClassName) :
    (list.enqueueAll names).Consistent := by
  induction names generalizing list with
  | nil => exact h
  | cons name names ih => exact ih (h.enqueue name)

/-- Settling takes the name out of the queue, on either way, and nothing else. -/
theorem pending_settle (h : list.Consistent) (name : ClassName) :
    (list.settle name).pending = list.pending.remove name := by
  rw [settle]
  split
  · split
    next hfront => exact Queue.pop_eq_remove h.nodup hfront
    next => rfl
  next hqueued =>
    rw [h.mem_queued] at hqueued
    exact (Queue.remove_of_notMem hqueued).symm

theorem mem_pending_settle (h : list.Consistent) {name other : ClassName} :
    other ∈ (list.settle name).pending ↔ other ≠ name ∧ other ∈ list.pending := by
  rw [h.pending_settle, Queue.mem_def, Queue.toList_remove, List.mem_filter, Queue.mem_def]
  simp [and_comm]

theorem settle (h : list.Consistent) (name : ClassName) : (list.settle name).Consistent where
  nodup := by
    rw [h.pending_settle]
    exact h.nodup.filter _
  mem_queued := by
    intro other
    rw [h.mem_pending_settle]
    by_cases hq : name ∈ list.queued
    · simp [Worklist.settle, hq, h.mem_queued]
    · simp only [Worklist.settle, hq, if_false, h.mem_queued]
      rw [h.mem_queued] at hq
      exact ⟨fun ho => ⟨fun e => hq (e ▸ ho), ho⟩, And.right⟩
  disjoint := by
    intro other ho hp
    rw [h.mem_pending_settle] at ho
    rw [processed_settle, OrderedSet.mem_insert] at hp
    exact hp.elim (h.disjoint other ho.2) ho.1

/-- A settled name no longer waits, so fewer names do. -/
theorem size_settle_lt (h : list.Consistent) {name : ClassName} (hn : name ∈ list.pending) :
    (list.settle name).pending.size < list.pending.size := by
  rw [h.pending_settle]
  exact List.length_filter_lt_length_iff_exists.2 ⟨name, hn, by simp⟩

end Consistent
end Worklist
end BeanDiscovery
