import BeanDiscovery.DiscoveryGraph
import BeanDiscovery.Worklist

/-! # The frontier of an exploration

The part of a run that offers change: the worklist, the graph of who offered whom, and the class under
inspection. The main statements say that offers only let names wait and leave the class under
inspection alone. -/
namespace BeanDiscovery

structure Frontier where
  worklist : Worklist := {}
  graph : DiscoveryGraph := {}
  /-- The class under inspection. -/
  current : Option ClassName := none
  deriving DecidableEq, Inhabited

namespace Frontier

/-- Lets a name wait and records who offered it, unless the name is known. -/
def offer (frontier : Frontier) (name : ClassName) : Frontier :=
  if frontier.worklist.knows name then frontier
  else
    { frontier with
      worklist := frontier.worklist.enqueue name
      graph := frontier.graph.record frontier.current name }

def offerAll (frontier : Frontier) (names : List ClassName) : Frontier := names.foldl offer frontier

def settle (frontier : Frontier) (name : ClassName) : Frontier :=
  { frontier with worklist := frontier.worklist.settle name }

/-- Turns to another class, or to none. -/
def turnTo (frontier : Frontier) (current : Option ClassName) : Frontier :=
  { frontier with current }

theorem offer_of_knows {frontier : Frontier} {name : ClassName}
    (h : frontier.worklist.knows name = true) : frontier.offer name = frontier := by
  rw [offer, if_pos h]

theorem offer_of_new {frontier : Frontier} {name : ClassName}
    (h : frontier.worklist.knows name = false) :
    frontier.offer name =
      { frontier with
        worklist := frontier.worklist.enqueue name
        graph := frontier.graph.record frontier.current name } := by
  rw [offer, h]
  rfl

@[simp] theorem worklist_offer (frontier : Frontier) (name : ClassName) :
    (frontier.offer name).worklist = frontier.worklist.enqueue name := by
  cases h : frontier.worklist.knows name with
  | true => rw [offer_of_knows h, Worklist.enqueue_of_knows h]
  | false => rw [offer_of_new h]

@[simp] theorem current_offer (frontier : Frontier) (name : ClassName) :
    (frontier.offer name).current = frontier.current := by
  cases h : frontier.worklist.knows name with
  | true => rw [offer_of_knows h]
  | false => rw [offer_of_new h]

@[simp] theorem worklist_offerAll (frontier : Frontier) (names : List ClassName) :
    (frontier.offerAll names).worklist = frontier.worklist.enqueueAll names := by
  induction names generalizing frontier with
  | nil => rfl
  | cons name names ih =>
    have h := ih (frontier.offer name)
    rwa [worklist_offer] at h

@[simp] theorem current_offerAll (frontier : Frontier) (names : List ClassName) :
    (frontier.offerAll names).current = frontier.current := by
  induction names generalizing frontier with
  | nil => rfl
  | cons name names ih => exact (ih (frontier.offer name)).trans (current_offer frontier name)

theorem offerAll_append (frontier : Frontier) (first second : List ClassName) :
    frontier.offerAll (first ++ second) = (frontier.offerAll first).offerAll second :=
  List.foldl_append

end Frontier
end BeanDiscovery
