/-! # Queues

Elements join a queue at its back and leave it at its front; one that has to go earlier is taken out
wherever it waits. The main statements give the elements, in order, after each operation. -/
namespace BeanDiscovery

/-- Elements in the order they joined. -/
structure Queue (α : Type) where
  toList : List α
  deriving DecidableEq, Inhabited

namespace Queue
variable {α : Type}

def empty : Queue α := ⟨[]⟩

instance : Membership α (Queue α) := ⟨fun queue a => a ∈ queue.toList⟩

theorem mem_def {queue : Queue α} {a : α} : a ∈ queue ↔ a ∈ queue.toList := Iff.rfl

def size (queue : Queue α) : Nat := queue.toList.length

def front? (queue : Queue α) : Option α := queue.toList.head?

def push (queue : Queue α) (a : α) : Queue α := ⟨queue.toList ++ [a]⟩

/-- Drops the front. -/
def pop (queue : Queue α) : Queue α := ⟨queue.toList.tail⟩

@[simp] theorem toList_empty : (empty : Queue α).toList = [] := rfl

@[simp] theorem toList_push (queue : Queue α) (a : α) :
    (queue.push a).toList = queue.toList ++ [a] := rfl

@[simp] theorem toList_pop (queue : Queue α) : queue.pop.toList = queue.toList.tail := rfl

theorem front?_eq_some {queue : Queue α} {a : α} :
    queue.front? = some a ↔ ∃ rest, queue.toList = a :: rest := by
  cases h : queue.toList <;> simp [front?, h]

variable [DecidableEq α]

instance (a : α) (queue : Queue α) : Decidable (a ∈ queue) :=
  inferInstanceAs (Decidable (a ∈ queue.toList))

/-- Takes an element out, everywhere it waits; the others keep their order. -/
def remove (queue : Queue α) (a : α) : Queue α := ⟨queue.toList.filter fun b => decide (b ≠ a)⟩

@[simp] theorem toList_remove (queue : Queue α) (a : α) :
    (queue.remove a).toList = queue.toList.filter fun b => decide (b ≠ a) := rfl

theorem remove_of_notMem {queue : Queue α} {a : α} (h : a ∉ queue) : queue.remove a = queue := by
  have hother : ∀ b ∈ queue.toList, decide (b ≠ a) = true := fun b hb =>
    decide_eq_true fun e => h (e ▸ hb)
  exact congrArg Queue.mk (List.filter_eq_self.2 hother)

/-- Where nothing waits twice, dropping the front takes it out. -/
theorem pop_eq_remove {queue : Queue α} {a : α} (h : queue.toList.Nodup)
    (hfront : queue.front? = some a) : queue.pop = queue.remove a := by
  obtain ⟨rest, hrest⟩ := front?_eq_some.1 hfront
  rw [hrest, List.nodup_cons] at h
  have hother : (Queue.mk rest).remove a = ⟨rest⟩ := remove_of_notMem h.1
  rw [pop, remove]
  rw [hrest, List.tail_cons, List.filter_cons_of_neg (by simp)]
  exact hother.symm

end Queue
end BeanDiscovery
