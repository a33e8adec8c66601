import Mathlib.Data.List.Basic
import BeanDiscovery.Frontier
import BeanDiscovery.Proofs.FirstOffers

/-!
# Explorations

An exploration lets offered names wait and settles the oldest waiting name once its own offers are
made. The names come off the worklist in the order in which they were first offered, and the graph is
exactly the first offers: one node for each, and one edge for each that came from a class. The main
statement is the invariant of an exploration with its steps.
-/
namespace BeanDiscovery
namespace Frontier
open Offer

/-- The worklist and the graph agree with the log of all offers made so far. -/
structure Recorded (frontier : Frontier) (log : List Offer) : Prop where
  consistent : frontier.worklist.Consistent
  order : frontier.worklist.processed.toList ++ frontier.worklist.pending.toList =
    names (firsts log)
  nodes : frontier.graph.nodes.toList = names (firsts log)
  edges : frontier.graph.edges.toList = edges (firsts log)
  /-- Edges lead from older names to newer ones. -/
  forward : ∀ edge ∈ frontier.graph.edges,
    (names (firsts log)).idxOf edge.1 < (names (firsts log)).idxOf edge.2

namespace Recorded
variable {frontier : Frontier} {log : List Offer}

theorem initial : Recorded {} [] where
  consistent := Worklist.consistent_empty
  order := rfl
  nodes := rfl
  edges := rfl
  forward := fun _ h => (List.not_mem_nil h).elim

theorem mem_nodes (h : Recorded frontier log) {name : ClassName} :
    name ∈ frontier.graph.nodes ↔ name ∈ names (firsts log) := by
  rw [OrderedSet.mem_def, h.nodes]

theorem mem_edges (h : Recorded frontier log) {a b : ClassName} :
    (a, b) ∈ frontier.graph.edges ↔ ⟨some a, b⟩ ∈ firsts log := by
  rw [OrderedSet.mem_def, h.edges, Offer.mem_edges]

theorem knows_iff (h : Recorded frontier log) {name : ClassName} :
    frontier.worklist.knows name = true ↔ name ∈ names (firsts log) := by
  rw [h.consistent.knows_iff, ← h.order, List.mem_append]
  exact Iff.rfl

/-- The end of an edge was offered, hence is a node. -/
theorem snd_mem_nodes (h : Recorded frontier log) {edge : ClassName × ClassName}
    (he : edge ∈ frontier.graph.edges) : edge.2 ∈ frontier.graph.nodes :=
  h.mem_nodes.2 (List.mem_map_of_mem (h.mem_edges.1 he))

theorem fst_mem_nodes (h : Recorded frontier log) {edge : ClassName × ClassName}
    (he : edge ∈ frontier.graph.edges) : edge.1 ∈ frontier.graph.nodes := by
  have hlt := h.forward edge he
  have hle : (names (firsts log)).idxOf edge.2 ≤ (names (firsts log)).length :=
    List.idxOf_le_length
  exact h.mem_nodes.2 (List.idxOf_lt_length_iff.1 (by omega))

/-! ## Offers -/

/-- An offer of a name that was offered before changes nothing. -/
theorem offer_known (h : Recorded frontier log) {name : ClassName}
    (hname : name ∈ names (firsts log)) :
    Recorded (frontier.offer name) (log ++ [⟨frontier.current, name⟩]) := by
  have hfirsts : firsts (log ++ [⟨frontier.current, name⟩]) = firsts log := by
    rw [firsts_concat, addFirst, if_pos hname]
  rw [offer_of_knows (h.knows_iff.2 hname)]
  refine ⟨h.consistent, ?_, ?_, ?_, ?_⟩
  all_goals rw [hfirsts]
  exacts [h.order, h.nodes, h.edges, h.forward]

/-- A new name waits behind all others and becomes the last node, below the class under inspection. -/
theorem offer_new (h : Recorded frontier log)
    (hcurrent : ∀ origin, frontier.current = some origin → origin ∈ frontier.graph.nodes)
    {name : ClassName} (hname : name ∉ names (firsts log)) :
    Recorded (frontier.offer name) (log ++ [⟨frontier.current, name⟩]) := by
  have hknows : frontier.worklist.knows name = false :=
    Bool.eq_false_iff.2 fun hk => hname (h.knows_iff.1 hk)
  have hfirsts : firsts (log ++ [⟨frontier.current, name⟩]) =
      firsts log ++ [⟨frontier.current, name⟩] := by
    rw [firsts_concat, addFirst, if_neg hname]
  have hnames : names (firsts (log ++ [⟨frontier.current, name⟩])) =
      names (firsts log) ++ [name] := by
    rw [hfirsts, names_append]
    rfl
  obtain ⟨hnodes, hedges⟩ := DiscoveryGraph.toList_record_of_new
    (fun hn => hname (h.mem_nodes.1 hn)) (fun _ => h.snd_mem_nodes) hcurrent
  rw [offer_of_new hknows]
  refine ⟨h.consistent.enqueue name, ?_, ?_, ?_, ?_⟩
  · rw [hnames, ← h.order, Worklist.processed_enqueue, Worklist.pending_enqueue, hknows]
    exact (List.append_assoc _ _ _).symm
  · rw [hnames, ← h.nodes]
    exact hnodes
  · rw [hfirsts, Offer.edges, List.filterMap_append, ← Offer.edges, ← h.edges]
    refine hedges.trans (congrArg _ ?_)
    cases frontier.current <;> rfl
  · intro edge he
    rw [hnames]
    rw [OrderedSet.mem_def, hedges, List.mem_append, Option.mem_toList] at he
    rcases he with he | he
    · have h1 := h.mem_nodes.1 (h.fst_mem_nodes he)
      have h2 := h.mem_nodes.1 (h.snd_mem_nodes he)
      rw [List.idxOf_append_of_mem h1, List.idxOf_append_of_mem h2]
      exact h.forward edge he
    · obtain ⟨origin, horigin, rfl⟩ := Option.map_eq_some_iff.1 he
      have h1 := h.mem_nodes.1 (hcurrent origin horigin)
      rw [List.idxOf_append_of_mem h1, List.idxOf_append_of_notMem hname]
      have hlt := List.idxOf_lt_length_of_mem h1
      omega

theorem offer (h : Recorded frontier log)
    (hcurrent : ∀ origin, frontier.current = some origin → origin ∈ frontier.graph.nodes)
    (name : ClassName) :
    Recorded (frontier.offer name) (log ++ [⟨frontier.current, name⟩]) := by
  by_cases hname : name ∈ names (firsts log)
  · exact h.offer_known hname
  · exact h.offer_new hcurrent hname

theorem offerAll (h : Recorded frontier log)
    (hcurrent : ∀ origin, frontier.current = some origin → origin ∈ names log)
    (offered : List ClassName) :
    Recorded (frontier.offerAll offered)
      (log ++ offered.map fun name => ⟨frontier.current, name⟩) := by
  induction offered generalizing frontier log with
  | nil =>
    rw [List.map_nil, List.append_nil]
    exact h
  | cons name offered ih =>
    have hstep := h.offer (fun origin ho => h.mem_nodes.2
      (mem_names_firsts.2 (hcurrent origin ho))) name
    have hrest := ih hstep fun origin ho => by
      rw [names_append]
      exact List.mem_append_left _ (hcurrent origin (by rwa [current_offer] at ho))
    rw [current_offer, List.append_assoc] at hrest
    exact hrest

/-! ## Turning and settling -/

theorem turnTo (h : Recorded frontier log) (current : Option ClassName) :
    Recorded (frontier.turnTo current) log :=
  ⟨h.consistent, h.order, h.nodes, h.edges, h.forward⟩

theorem processed_settle (h : Recorded frontier log) {name : ClassName}
    (hn : frontier.worklist.next? = some name) :
    (frontier.settle name).worklist.processed.toList =
      frontier.worklist.processed.toList ++ [name] := by
  have hp := h.consistent.disjoint name (Worklist.mem_pending_of_next? hn)
  change (frontier.worklist.settle name).processed.toList = _
  rw [Worklist.processed_settle, OrderedSet.toList_insert_of_notMem hp]

/-- Settling the oldest name moves it from the front of the queue to the end of the settled names. -/
theorem settle (h : Recorded frontier log) {name : ClassName}
    (hn : frontier.worklist.next? = some name) : Recorded (frontier.settle name) log where
  consistent := h.consistent.settle name
  order := by
    obtain ⟨rest, hrest⟩ := Queue.front?_eq_some.1 hn
    have hpending : (frontier.settle name).worklist.pending.toList = rest := by
      change (frontier.worklist.settle name).pending.toList = rest
      rw [h.consistent.pending_settle, ← Queue.pop_eq_remove h.consistent.nodup hn,
        Queue.toList_pop, hrest, List.tail_cons]
    rw [h.processed_settle hn, hpending, ← h.order, hrest, List.append_assoc]
    rfl
  nodes := h.nodes
  edges := h.edges
  forward := h.forward

/-- Names that are offered later do not overtake the oldest waiting name. -/
theorem next?_offerAll {frontier : Frontier} {name : ClassName}
    (hn : frontier.worklist.next? = some name) (offered : List ClassName) :
    (frontier.offerAll offered).worklist.next? = some name := by
  obtain ⟨rest, hrest⟩ := Queue.front?_eq_some.1 hn
  obtain ⟨more, hmore⟩ :=
    Worklist.pending_prefix_enqueueAll frontier.worklist offered
  rw [worklist_offerAll]
  exact Queue.front?_eq_some.2 ⟨rest ++ more, by rw [← hmore, hrest]; rfl⟩

/-- One round: the oldest name makes its offers, which are recorded below it, and is settled. -/
theorem visit (h : Recorded frontier log) {name : ClassName}
    (hn : frontier.worklist.next? = some name) (offered : List ClassName) :
    Recorded ((((frontier.turnTo (some name)).offerAll offered).turnTo none).settle name)
      (log ++ offered.map fun other => ⟨some name, other⟩) := by
  have hname : name ∈ names log := by
    rw [← mem_names_firsts, ← h.order]
    exact List.mem_append_right _ (Worklist.mem_pending_of_next? hn)
  have hoffers := (h.turnTo (some name)).offerAll
    (fun origin ho => Option.some.inj ho ▸ hname) offered
  have hturn : (frontier.turnTo (some name)).worklist.next? = some name := hn
  exact (hoffers.turnTo none).settle (next?_offerAll hturn offered)

end Recorded
end Frontier
end BeanDiscovery
