import Mathlib.Logic.Relation
import BeanDiscovery.Proofs.Visits

/-!
# The graph is a forest

The recording of a graph admits several parents and cycles. In a run neither arises, because a name is
recorded only at its first offer, and the class under inspection was offered before. The main statement
gives nodes, edges and roots of the graph of a run and says what its answers mean.
-/
namespace BeanDiscovery
open Offer

namespace Frontier.Recorded
variable {frontier : Frontier} {log : List Offer}

theorem edge_unique (h : Recorded frontier log) {a b name : ClassName}
    (ha : (a, name) ∈ frontier.graph.edges) (hb : (b, name) ∈ frontier.graph.edges) : a = b := by
  have heq := eq_of_mem_firsts (h.mem_edges.1 ha) (h.mem_edges.1 hb) rfl
  exact Option.some.inj (congrArg Offer.origin heq)

/-- A chain of edges leads from an older name to a newer one. -/
theorem idxOf_lt_of_chain (h : Recorded frontier log) {a b : ClassName}
    (hab : Relation.TransGen (fun a b => (a, b) ∈ frontier.graph.edges) a b) :
    (names (firsts log)).idxOf a < (names (firsts log)).idxOf b := by
  induction hab with
  | single hab => exact h.forward _ hab
  | tail _ hbc ih => exact Nat.lt_trans ih (h.forward _ hbc)

theorem origin?_eq_some_iff (h : Recorded frontier log) {name origin : ClassName} :
    frontier.graph.origin? name = some origin ↔ (origin, name) ∈ frontier.graph.edges := by
  refine ⟨DiscoveryGraph.mem_edges_of_origin?, fun hedge => ?_⟩
  obtain ⟨other, hother⟩ := Option.isSome_iff_exists.1
    (DiscoveryGraph.origin?_isSome.2 ⟨origin, hedge⟩)
  rw [hother, h.edge_unique (DiscoveryGraph.mem_edges_of_origin? hother) hedge]

/-- An edge into a name comes from the class that was the first to offer it. -/
theorem mem_edges_iff_find? (h : Recorded frontier log) {name origin : ClassName} :
    (origin, name) ∈ frontier.graph.edges ↔
      (log.find? fun offer => decide (offer.name = name)).bind (·.origin) = some origin := by
  rw [h.mem_edges, ← find?_eq_some_iff_mem_firsts, Option.bind_eq_some_iff]
  constructor
  · intro hsome
    exact ⟨_, hsome, rfl⟩
  · rintro ⟨⟨_, other⟩, hsome, rfl⟩
    have hname : other = name := by simpa using List.find?_some hsome
    rw [hsome, hname]

end Frontier.Recorded

namespace Run
variable {env : Environment} {scans : ScanCache} {plugins : List Plugin}

/-- The first offers of a run: those of the seeds, which have no origin, then those made during visits,
which have one. -/
theorem firsts_offers (env : Environment) (scans : ScanCache) (plugins : List Plugin) :
    ∃ news, firsts (offers env scans plugins) = firsts (seedLog env scans plugins) ++ news ∧
      (∀ offer ∈ firsts (seedLog env scans plugins), offer.origin = none) ∧
      ∀ offer ∈ news, offer.origin.isSome = true := by
  obtain ⟨news, hnews, hsub⟩ := firsts_append (seedLog env scans plugins)
    ((visits env scans plugins).flatMap (Visit.offers env))
  obtain ⟨seeds, hseeds, hseedsub⟩ := firsts_append [] (seedLog env scans plugins)
  refine ⟨news, hnews, fun offer hoffer => ?_, fun offer hoffer => ?_⟩
  · rw [List.nil_append] at hseeds
    rw [hseeds] at hoffer
    obtain ⟨name, -, rfl⟩ := List.mem_map.1 (hseedsub.subset hoffer)
    rfl
  · obtain ⟨visit, -, hvisit⟩ := List.mem_flatMap.1 (hsub.subset hoffer)
    obtain ⟨name, -, rfl⟩ := List.mem_map.1 hvisit
    rfl

theorem mem_seeds_iff {name : ClassName} :
    name ∈ (seeded env scans plugins).worklist.pending.toList ↔
      name ∈ (complete env scans plugins).context.findings.graph.nodes ∧
      ∀ origin, (origin, name) ∉ (complete env scans plugins).context.findings.graph.edges := by
  obtain ⟨news, hnews, hseeds, hlater⟩ := firsts_offers env scans plugins
  have hrecorded := recorded_complete env scans plugins
  change _ ↔ name ∈ (complete env scans plugins).context.frontier.graph.nodes ∧
    ∀ origin, (origin, name) ∉ (complete env scans plugins).context.frontier.graph.edges
  rw [pending_seeded, hrecorded.mem_nodes]
  simp only [hrecorded.mem_edges]
  constructor
  · intro hname
    obtain ⟨seed, hseed, rfl⟩ := List.mem_map.1 hname
    have hmem : seed ∈ firsts (offers env scans plugins) :=
      hnews ▸ List.mem_append_left news hseed
    refine ⟨List.mem_map_of_mem hmem, fun origin horigin => ?_⟩
    have heq := eq_of_mem_firsts hmem horigin rfl
    exact Option.some_ne_none origin ((congrArg Offer.origin heq).symm.trans (hseeds seed hseed))
  · rintro ⟨hname, hroot⟩
    obtain ⟨⟨origin, name⟩, hoffer, rfl⟩ := List.mem_map.1 hname
    have hsplit := hoffer
    rw [hnews] at hsplit
    rcases List.mem_append.1 hsplit with hseed | hnew
    · exact List.mem_map_of_mem hseed
    · obtain ⟨source, rfl⟩ := Option.isSome_iff_exists.1 (hlater _ hnew)
      exact absurd hoffer (hroot source)

theorem size_edges_add_seeds (env : Environment) (scans : ScanCache) (plugins : List Plugin) :
    (complete env scans plugins).context.findings.graph.edges.size +
        (seeded env scans plugins).worklist.pending.size =
      (complete env scans plugins).context.findings.graph.nodes.size := by
  obtain ⟨news, hnews, hseeds, hlater⟩ := firsts_offers env scans plugins
  have hrecorded := recorded_complete env scans plugins
  have hseedEdges : edges (firsts (seedLog env scans plugins)) = [] :=
    List.filterMap_eq_nil_iff.2 fun offer hoffer => by
      rw [edge?, hseeds offer hoffer]
      rfl
  have hlaterEdges : (edges news).length = news.length :=
    List.filterMap_length_eq_length.2 fun offer hoffer => by
      rw [edge?, Option.isSome_map]
      exact hlater offer hoffer
  have hedges : (complete env scans plugins).context.findings.graph.edges.size = news.length := by
    refine (congrArg List.length hrecorded.edges).trans ?_
    rw [hnews, edges, List.filterMap_append, ← edges, ← edges, hseedEdges, List.nil_append,
      hlaterEdges]
  have hnodes : (complete env scans plugins).context.findings.graph.nodes.size =
      (firsts (seedLog env scans plugins)).length + news.length := by
    refine (congrArg List.length (nodes_complete env scans plugins)).trans ?_
    rw [names, List.length_map, hnews, List.length_append]
  have hpending : (seeded env scans plugins).worklist.pending.size =
      (firsts (seedLog env scans plugins)).length := by
    refine (congrArg List.length (pending_seeded env scans plugins)).trans ?_
    rw [names, List.length_map]
  omega

/-- The graph of a run that ends well is a forest in the order of discovery. Its nodes are the names that
ever waited, in order. No node has two edges into it, and every edge leads from an older node to a
newer one, so that no chain of edges closes. The roots are the names that waited before the traversal.
The origin of a name is the class that was under inspection when the name was first offered, and a class
pulled in the names whose origin it is. -/
theorem graph_of_report {assembler : Assembler} {report : Report}
    (h : (complete env scans plugins).report assembler = .ok report) :
    let graph := report.graph
    let seeds := (seeded env scans plugins).worklist.pending
    graph.nodes.toList = enqueued env scans plugins ∧
    (∀ a b name, (a, name) ∈ graph.edges → (b, name) ∈ graph.edges → a = b) ∧
    (∀ edge ∈ graph.edges, edge.1 ∈ graph.nodes ∧ edge.2 ∈ graph.nodes ∧
      graph.nodes.toList.idxOf edge.1 < graph.nodes.toList.idxOf edge.2) ∧
    (∀ name, ¬ Relation.TransGen (fun a b => (a, b) ∈ graph.edges) name name) ∧
    (∀ name, name ∈ seeds ↔
      name ∈ graph.nodes ∧ ∀ origin, (origin, name) ∉ graph.edges) ∧
    graph.edges.size + seeds.size = graph.nodes.size ∧
    (∀ name origin, graph.origin? name = some origin ↔
      ((offers env scans plugins).find? fun offer => decide (offer.name = name)).bind (·.origin) =
        some origin) ∧
    (∀ name origin, name ∈ graph.pulledInBy origin ↔ graph.origin? name = some origin) := by
  intro graph seeds
  have hrecorded := recorded_complete env scans plugins
  have hgraph : graph = (complete env scans plugins).context.frontier.graph :=
    congrArg Report.graph (eq_of_report h)
  rw [hgraph]
  refine ⟨?_, fun a b name => hrecorded.edge_unique, fun edge hedge => ?_, fun name hcycle => ?_,
    fun name => mem_seeds_iff, size_edges_add_seeds env scans plugins, fun name origin => ?_,
    fun name origin => ?_⟩
  · rw [enqueued_eq]
    exact hrecorded.nodes
  · refine ⟨hrecorded.fst_mem_nodes hedge, hrecorded.snd_mem_nodes hedge, ?_⟩
    rw [hrecorded.nodes]
    exact hrecorded.forward edge hedge
  · exact Nat.lt_irrefl _ (hrecorded.idxOf_lt_of_chain hcycle)
  · exact hrecorded.origin?_eq_some_iff.trans hrecorded.mem_edges_iff_find?
  · exact DiscoveryGraph.mem_pulledInBy.trans hrecorded.origin?_eq_some_iff.symm

theorem graph_circle :
    (complete circle {} [circlePlugin]).report {} = .ok circleReport ∧
    circleReport.graph.nodes.toList = enqueued circle {} [circlePlugin] ∧
    circleReport.graph.edges.size + (seeded circle {} [circlePlugin]).worklist.pending.size =
      circleReport.graph.nodes.size := by
  obtain ⟨hnodes, -, -, -, -, hsize, -⟩ := graph_of_report report_circle
  exact ⟨report_circle, hnodes, hsize⟩

end Run
end BeanDiscovery
