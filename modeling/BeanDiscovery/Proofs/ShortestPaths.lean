import Mathlib.Data.List.Pairwise
import BeanDiscovery.Proofs.Counters
import BeanDiscovery.Proofs.DiscoveryForest
import BeanDiscovery.Proofs.OriginPaths

/-!
# Shortest explanations

Names are visited in the order in which they were first offered, so the log of a run lists the offers in
the order of their origins. Hence the graph grows breadth first, and among all classes that offered a
name the origin has a shortest path. The main statement describes the paths of a run and compares them
with all chains of offers that begin at a seed.
-/
namespace BeanDiscovery

namespace Offer

/-- Orders offers by the place of their origins in a list of names, those without one first. -/
def rank (order : List ClassName) (offer : Offer) : Nat :=
  offer.origin.elim 0 fun origin => order.idxOf origin + 1

/-- The offers are made in the order of their origins. -/
def InOrder (order : List ClassName) (log : List Offer) : Prop :=
  log.Pairwise fun a b => a.rank order ≤ b.rank order

variable {order : List ClassName} {log : List Offer}

theorem InOrder.firsts (h : InOrder order log) : InOrder order (firsts log) := by
  obtain ⟨news, hnews, hsub⟩ := firsts_append [] log
  rw [List.nil_append] at hnews
  rw [hnews]
  exact h.sublist hsub

/-- The first offer of a name has the smallest rank. -/
theorem InOrder.rank_first_le (h : InOrder order log) {first offer : Offer}
    (hfirst : first ∈ Offer.firsts log) (hoffer : offer ∈ log) (hname : offer.name = first.name) :
    first.rank order ≤ offer.rank order := by
  have hfind := find?_eq_some_iff_mem_firsts.2 hfirst
  obtain ⟨-, before, after, hlog, hbefore⟩ := List.find?_eq_some_iff_append.1 hfind
  rw [InOrder, hlog] at h
  rw [hlog, List.mem_append, List.mem_cons] at hoffer
  rcases hoffer with hoffer | rfl | hoffer
  · exact absurd hname (by simpa using hbefore offer hoffer)
  · exact Nat.le_refl _
  · exact (List.pairwise_cons.1 (List.pairwise_append.1 h).2.1).1 offer hoffer

/-- Where no name is repeated, a name stands at its place. -/
theorem idxOf_map_getElem {α : Type} {f : α → ClassName} {items : List α}
    (h : (items.map f).Nodup) {i : Nat} (hi : i < items.length) :
    (items.map f).idxOf (f items[i]) = i := by
  have hlt : i < (items.map f).length := by rwa [List.length_map]
  have hget : (items.map f)[i] = f items[i] := List.getElem_map f
  rw [← hget]
  exact h.idxOf_getElem i hlt

/-- Of two names the one offered first has the smaller rank. -/
theorem InOrder.rank_le_of_idxOf_le (h : InOrder order log) {a b : Offer} (ha : a ∈ Offer.firsts log)
    (hb : b ∈ Offer.firsts log)
    (hab : (names (Offer.firsts log)).idxOf a.name ≤ (names (Offer.firsts log)).idxOf b.name) :
    a.rank order ≤ b.rank order := by
  obtain ⟨i, hi, rfl⟩ := List.mem_iff_getElem.1 ha
  obtain ⟨j, hj, rfl⟩ := List.mem_iff_getElem.1 hb
  have hnodup := nodup_names_firsts log
  rw [names, idxOf_map_getElem hnodup hi, idxOf_map_getElem hnodup hj] at hab
  rcases Nat.eq_or_lt_of_le hab with rfl | hlt
  · exact Nat.le_refl _
  · exact List.pairwise_iff_getElem.1 h.firsts i j hi hj hlt

end Offer

open Offer

namespace Frontier.Recorded
variable {frontier : Frontier} {log : List Offer}

theorem forward_graph (h : Recorded frontier log) : frontier.graph.Forward where
  source := fun _ => h.fst_mem_nodes
  target := fun _ => h.snd_mem_nodes
  older := fun edge hedge => by
    rw [DiscoveryGraph.position, DiscoveryGraph.position, h.nodes]
    exact h.forward edge hedge

theorem origin?_of_mem_firsts (h : Recorded frontier log) {offer : Offer}
    (hoffer : offer ∈ firsts log) : frontier.graph.origin? offer.name = offer.origin := by
  obtain ⟨origin, name⟩ := offer
  cases origin with
  | some origin => exact h.origin?_eq_some_iff.2 (h.mem_edges.2 hoffer)
  | none =>
    refine DiscoveryGraph.origin?_eq_none_iff.2 fun other hother => ?_
    have hmem := h.mem_edges.1 hother
    exact Option.some_ne_none other (congrArg Offer.origin (eq_of_mem_firsts hmem hoffer rfl))

/-- A name is ranked in the graph as its first offer is in the log. -/
theorem originRank_eq (h : Recorded frontier log) {offer : Offer} (hoffer : offer ∈ firsts log) :
    frontier.graph.originRank offer.name = offer.rank (names (firsts log)) := by
  rw [DiscoveryGraph.originRank, h.origin?_of_mem_firsts hoffer, Offer.rank]
  simp only [DiscoveryGraph.position, h.nodes]

theorem breadthFirst_graph (h : Recorded frontier log) (hlog : InOrder (names (firsts log)) log) :
    frontier.graph.BreadthFirst where
  toForward := h.forward_graph
  ordered := fun a ha b hb hab => by
    obtain ⟨first, hfirst, rfl⟩ := List.mem_map.1 (h.mem_nodes.1 ha)
    obtain ⟨second, hsecond, rfl⟩ := List.mem_map.1 (h.mem_nodes.1 hb)
    rw [DiscoveryGraph.position, DiscoveryGraph.position, h.nodes] at hab
    rw [h.originRank_eq hfirst, h.originRank_eq hsecond]
    exact hlog.rank_le_of_idxOf_le hfirst hsecond hab

/-- Whoever offers a name, the path of the name is at most one longer than the path of the class that
offers it. -/
theorem length_pathTo_le_of_offer (h : Recorded frontier log)
    (hlog : InOrder (names (firsts log)) log) {a b : ClassName} (ha : a ∈ frontier.graph.nodes)
    (hoffer : ⟨some a, b⟩ ∈ log) :
    (frontier.graph.pathTo b).length ≤ (frontier.graph.pathTo a).length + 1 := by
  have hb : b ∈ names (firsts log) := mem_names_firsts.2 (List.mem_map_of_mem hoffer)
  obtain ⟨first, hfirst, rfl⟩ := List.mem_map.1 hb
  refine (h.breadthFirst_graph hlog).length_pathTo_le_succ ha (h.mem_nodes.2 hb) ?_
  have hrank := hlog.rank_first_le hfirst hoffer rfl
  rw [h.originRank_eq hfirst, DiscoveryGraph.position, h.nodes]
  exact hrank

/-- A chain of offers that begins at a root is at least as long as the path of its end. -/
theorem length_pathTo_le_of_chain (h : Recorded frontier log)
    (hlog : InOrder (names (firsts log)) log) {root : ClassName}
    (hroot : root ∈ frontier.graph.nodes) (hnone : frontier.graph.origin? root = none)
    (chain : List ClassName) (hhead : chain.head? = some root)
    (hchain : chain.IsChain fun a b => ⟨some a, b⟩ ∈ log) {name : ClassName}
    (hlast : chain.getLast? = some name) :
    name ∈ frontier.graph.nodes ∧ (frontier.graph.pathTo name).length ≤ chain.length := by
  induction chain using List.reverseRecOn generalizing name with
  | nil => cases hhead
  | append_singleton chain last ih =>
    rw [List.getLast?_concat] at hlast
    cases hlast
    cases hprevious : chain.getLast? with
    | none =>
      obtain rfl := List.getLast?_eq_none_iff.1 hprevious
      cases hhead
      refine ⟨hroot, ?_⟩
      rw [DiscoveryGraph.pathTo_of_root hroot hnone]
      exact Nat.le_refl _
    | some previous =>
      obtain ⟨hfront, -, hstep⟩ := List.isChain_append.1 hchain
      have hstart : chain.head? = some root := by
        rwa [List.head?_append_of_ne_nil] at hhead
        rintro rfl
        cases hprevious
      obtain ⟨hmem, hle⟩ := ih hstart hfront hprevious
      have hoffer : ⟨some previous, last⟩ ∈ log := hstep previous hprevious last rfl
      have hname : last ∈ names (firsts log) := mem_names_firsts.2 (List.mem_map_of_mem hoffer)
      refine ⟨h.mem_nodes.2 hname, ?_⟩
      rw [List.length_append]
      exact (h.length_pathTo_le_of_offer hlog hmem hoffer).trans (Nat.add_le_add_right hle 1)

end Frontier.Recorded

namespace Run
variable {env : Environment} {scans : ScanCache} {plugins : List Plugin}

theorem rank_of_mem_offers {order : List ClassName} {visit : Visit} {offer : Offer}
    (h : offer ∈ visit.offers env) : offer.rank order = order.idxOf visit.candidate + 1 := by
  obtain ⟨name, -, rfl⟩ := List.mem_map.1 h
  rfl

/-- The offers of a run that ends well are made in the order of its nodes: before the traversal, then
visit by visit. -/
theorem inOrder_offers (hf : (complete env scans plugins).failure = none) :
    InOrder (names (firsts (offers env scans plugins))) (offers env scans plugins) := by
  rw [← candidates_complete hf]
  have hnodup := nodup_taken hf
  have hseed : ∀ offer ∈ seedLog env scans plugins, ∀ order, offer.rank order = 0 := by
    intro offer hoffer order
    obtain ⟨name, -, rfl⟩ := List.mem_map.1 hoffer
    rfl
  refine List.pairwise_append.2 ⟨?_, List.pairwise_flatMap.2 ⟨?_, ?_⟩, ?_⟩
  · exact List.pairwise_of_forall_mem_list fun a ha b _ => by
      rw [hseed a ha]
      exact Nat.zero_le _
  · exact fun visit _ => List.pairwise_of_forall_mem_list fun a ha b hb => by
      rw [rank_of_mem_offers ha, rank_of_mem_offers hb]
  · refine List.pairwise_iff_getElem.2 fun i j hi hj hij a ha b hb => ?_
    rw [rank_of_mem_offers ha, rank_of_mem_offers hb, idxOf_map_getElem hnodup hi,
      idxOf_map_getElem hnodup hj]
    omega
  · intro a ha b _
    rw [hseed a ha]
    exact Nat.zero_le _

/-- A class offers a name when a plugin asks, while the class is inspected, to let the name wait, known
or not. -/
def Offers (env : Environment) (scans : ScanCache) (plugins : List Plugin) (a b : ClassName) : Prop :=
  ∃ visit ∈ visits env scans plugins, visit.candidate = a ∧
    b ∈ visit.before.offersAt env visit.candidate

theorem offers_iff {a b : ClassName} :
    Offers env scans plugins a b ↔ ⟨some a, b⟩ ∈ offers env scans plugins := by
  rw [offers, List.mem_append, List.mem_flatMap]
  constructor
  · rintro ⟨visit, hvisit, rfl, hb⟩
    exact Or.inr ⟨visit, hvisit, List.mem_map_of_mem hb⟩
  · rintro (hseed | ⟨visit, hvisit, hoffer⟩)
    · obtain ⟨_, -, hnone⟩ := List.mem_map.1 hseed
      cases hnone
    · obtain ⟨name, hname, heq⟩ := List.mem_map.1 hoffer
      cases heq
      exact ⟨visit, hvisit, rfl, hname⟩

theorem mem_seeds_of_root {root : ClassName}
    (hroot : root ∈ (complete env scans plugins).context.findings.graph.nodes)
    (hnone : (complete env scans plugins).context.findings.graph.origin? root = none) :
    root ∈ (seeded env scans plugins).worklist.pending :=
  mem_seeds_iff.2 ⟨hroot, DiscoveryGraph.origin?_eq_none_iff.1 hnone⟩

theorem root_of_mem_seeds {seed : ClassName}
    (hseed : seed ∈ (seeded env scans plugins).worklist.pending) :
    seed ∈ (complete env scans plugins).context.findings.graph.nodes ∧
      (complete env scans plugins).context.findings.graph.origin? seed = none := by
  obtain ⟨hnode, hroot⟩ := mem_seeds_iff.1 hseed
  exact ⟨hnode, DiscoveryGraph.origin?_eq_none_iff.2 hroot⟩

/-- In the graph of a run that ends well the path of a node begins at a seed, ends at the node, follows
edges, repeats no name and is not cut off by the bound on its length. No chain of offers from a seed to
the node is shorter. The paths of newer nodes are at least as long as those of older ones. -/
theorem paths_of_report {assembler : Assembler} {report : Report}
    (h : (complete env scans plugins).report assembler = .ok report) :
    let graph := report.graph
    let seeds := (seeded env scans plugins).worklist.pending
    (∀ name ∈ graph.nodes,
      (∃ seed ∈ seeds, (graph.pathTo name).head? = some seed) ∧
      (graph.pathTo name).getLast? = some name ∧
      (graph.pathTo name).Nodup ∧
      (graph.pathTo name).IsChain (fun a b => (a, b) ∈ graph.edges) ∧
      (∀ steps, graph.nodes.size ≤ steps →
        graph.climb steps name [name] = graph.pathTo name) ∧
      ∀ chain : List ClassName, (∃ seed ∈ seeds, chain.head? = some seed) →
        chain.getLast? = some name → chain.IsChain (Offers env scans plugins) →
        (graph.pathTo name).length ≤ chain.length) ∧
    (graph.nodes.toList.map fun name => (graph.pathTo name).length).Pairwise (· ≤ ·) := by
  intro graph seeds
  have hrecorded := recorded_complete env scans plugins
  have hlog := inOrder_offers (failure_of_report h)
  have hgraph : graph = (complete env scans plugins).context.frontier.graph :=
    congrArg Report.graph (eq_of_report h)
  rw [hgraph]
  have hforward := hrecorded.forward_graph
  have hbreadth := hrecorded.breadthFirst_graph hlog
  refine ⟨fun name hname => ⟨?_, hforward.getLast?_pathTo hname, hforward.nodup_pathTo hname,
    hforward.isChain_pathTo hname, fun steps hsteps => ?_, ?_⟩, ?_⟩
  · obtain ⟨root, hroot, hnone, hhead⟩ := hforward.head?_pathTo hname
    exact ⟨root, mem_seeds_of_root hroot hnone, hhead⟩
  · have hlt := DiscoveryGraph.position_lt_size hname
    exact hforward.climb_eq_pathTo hname (hlt.le.trans hsteps)
  · rintro chain ⟨seed, hseed, hhead⟩ hlast hchain
    obtain ⟨hnode, hnone⟩ := root_of_mem_seeds hseed
    have hoffers : chain.IsChain fun a b => ⟨some a, b⟩ ∈ offers env scans plugins :=
      hchain.imp fun a b => offers_iff.1
    exact (hrecorded.length_pathTo_le_of_chain hlog hnode hnone chain hhead hoffers hlast).2
  · refine List.pairwise_map.2 (List.pairwise_iff_getElem.2 fun i j hi hj hij => ?_)
    have hpos : ∀ k (hk : k < (complete env scans plugins).context.frontier.graph.nodes.toList.length),
        (complete env scans plugins).context.frontier.graph.position
          (complete env scans plugins).context.frontier.graph.nodes.toList[k] = k := fun k hk =>
      (OrderedSet.nodup _).idxOf_getElem k hk
    refine hbreadth.length_pathTo_le (List.getElem_mem hi) (List.getElem_mem hj) ?_
    rw [hpos i hi, hpos j hj]
    exact hij.le

theorem paths_circle :
    (complete circle {} [circlePlugin]).report {} = .ok circleReport ∧
    circleReport.graph.pathTo ⟨"com.example.E"⟩ = [⟨"com.example.ATest"⟩, ⟨"com.example.E"⟩] ∧
    (circleReport.graph.pathTo ⟨"com.example.E"⟩).Nodup := by
  have hpaths := (paths_of_report report_circle).1 ⟨"com.example.E"⟩ (by decide +kernel)
  exact ⟨report_circle, by decide +kernel, hpaths.2.2.1⟩

end Run
end BeanDiscovery
