import Mathlib.Data.List.Chain
import Mathlib.Data.List.Nodup
import BeanDiscovery.DiscoveryGraph

/-!
# Paths of origins

Following origins from a name either ends at a root or runs into a cycle. The path of a name repeats no
name in the first case, and its bound on the number of steps is then never reached; in the second case
it takes all the steps. In a graph whose edges lead from older nodes to newer ones there are no cycles.
The main statements describe the path of a name from end to end, give it through the path of its origin,
and compare the paths of two names in a graph whose nodes came breadth first.
-/
namespace BeanDiscovery.DiscoveryGraph
open Relation (ReflTransGen TransGen)

/-- One name is the origin of another. -/
def IsOrigin (graph : DiscoveryGraph) (origin name : ClassName) : Prop :=
  graph.origin? name = some origin

/-- Following origins from a name, one comes to a name that is its own ancestor. -/
def RunsIntoCycle (graph : DiscoveryGraph) (name : ClassName) : Prop :=
  ∃ other, TransGen graph.IsOrigin other other ∧ ReflTransGen graph.IsOrigin other name

/-- A path that leads to a name from origin to origin, in so many steps at most. It begins at a root or
takes all the steps. -/
structure Climbed (graph : DiscoveryGraph) (steps : Nat) (name : ClassName)
    (path : List ClassName) : Prop where
  getLast? : path.getLast? = some name
  isChain : path.IsChain graph.IsOrigin
  length_le : path.length ≤ steps + 1
  begins : (∃ root, path.head? = some root ∧ graph.origin? root = none) ∨ path.length = steps + 1

/-- Every edge joins two nodes. -/
structure Closed (graph : DiscoveryGraph) : Prop where
  source : ∀ edge ∈ graph.edges, edge.1 ∈ graph.nodes
  target : ∀ edge ∈ graph.edges, edge.2 ∈ graph.nodes

/-- How many nodes are older than a name. -/
def position (graph : DiscoveryGraph) (name : ClassName) : Nat := graph.nodes.toList.idxOf name

/-- Orders names by their origins, those without one first. -/
def originRank (graph : DiscoveryGraph) (name : ClassName) : Nat :=
  (graph.origin? name).elim 0 fun origin => graph.position origin + 1

/-- Every edge leads from an older node to a newer one. -/
structure Forward (graph : DiscoveryGraph) : Prop where
  source : ∀ edge ∈ graph.edges, edge.1 ∈ graph.nodes
  target : ∀ edge ∈ graph.edges, edge.2 ∈ graph.nodes
  older : ∀ edge ∈ graph.edges, graph.position edge.1 < graph.position edge.2

/-- Newer nodes have newer origins. -/
structure BreadthFirst (graph : DiscoveryGraph) : Prop extends Forward graph where
  ordered : ∀ a ∈ graph.nodes, ∀ b ∈ graph.nodes,
    graph.position a ≤ graph.position b → graph.originRank a ≤ graph.originRank b

variable {graph : DiscoveryGraph}

theorem position_lt_size {name : ClassName} (h : name ∈ graph.nodes) :
    graph.position name < graph.nodes.size := List.idxOf_lt_length_of_mem h

/-! ## Climbing -/

section Climbing
variable {name origin : ClassName} {steps : Nat} {path : List ClassName}

theorem climb_append (graph : DiscoveryGraph) (steps : Nat) (name : ClassName)
    (path tail : List ClassName) :
    graph.climb steps name (path ++ tail) = graph.climb steps name path ++ tail := by
  induction steps generalizing name path with
  | zero => rfl
  | succ steps ih =>
    simp only [climb]
    cases graph.origin? name with
    | none => rfl
    | some origin => exact ih origin (origin :: path)

theorem climb_of_root (ho : graph.origin? name = none) (steps : Nat) :
    graph.climb steps name [name] = [name] := by
  cases steps <;> simp only [climb, ho]

theorem climb_of_origin (ho : graph.origin? name = some origin) (steps : Nat) :
    graph.climb (steps + 1) name [name] = graph.climb steps origin [origin] ++ [name] := by
  rw [climb, ho, ← climb_append]
  rfl

/-- One step down from the end of a path. -/
theorem Climbed.concat (h : graph.Climbed steps origin path)
    (ho : graph.origin? name = some origin) :
    graph.Climbed (steps + 1) name (path ++ [name]) where
  getLast? := List.getLast?_concat
  isChain := by
    refine h.isChain.append (List.isChain_singleton name) fun last hlast first hfirst => ?_
    rw [h.getLast?] at hlast
    cases hlast
    cases hfirst
    exact ho
  length_le := by
    rw [List.length_append]
    exact Nat.add_le_add_right h.length_le 1
  begins := by
    rcases h.begins with ⟨root, hroot, hnone⟩ | hlength
    · exact Or.inl ⟨root, by rw [List.head?_append, hroot]; rfl, hnone⟩
    · exact Or.inr (by rw [List.length_append, hlength]; rfl)

theorem climbed_climb (graph : DiscoveryGraph) (steps : Nat) (name : ClassName) :
    graph.Climbed steps name (graph.climb steps name [name]) := by
  induction steps generalizing name with
  | zero => exact ⟨rfl, List.isChain_singleton name, Nat.le_refl _, Or.inr rfl⟩
  | succ steps ih =>
    cases ho : graph.origin? name with
    | none =>
      rw [climb_of_root ho]
      exact ⟨rfl, List.isChain_singleton name, Nat.le_add_left 1 _, Or.inl ⟨name, rfl, ho⟩⟩
    | some origin =>
      rw [climb_of_origin ho]
      exact (ih origin).concat ho

theorem pathTo_of_root (hname : name ∈ graph.nodes) (ho : graph.origin? name = none) :
    graph.pathTo name = [name] := by
  rw [pathTo, if_pos hname, climb_of_root ho]

theorem climbed_pathTo (hname : name ∈ graph.nodes) :
    graph.Climbed graph.nodes.size name (graph.pathTo name) := by
  rw [pathTo, if_pos hname]
  exact graph.climbed_climb _ name

theorem length_pathTo_pos (hname : name ∈ graph.nodes) : 0 < (graph.pathTo name).length := by
  have hlast := (climbed_pathTo hname).getLast?
  cases hpath : graph.pathTo name with
  | nil => simp [hpath] at hlast
  | cons _ _ => exact Nat.succ_pos _

/-- What holds of the end of a path, and of an origin when it holds of the name below, holds all along. -/
theorem Climbed.backwards (h : graph.Climbed steps name path) {p : ClassName → Prop} (hname : p name)
    (hp : ∀ origin name, graph.origin? name = some origin → p name → p origin) : ∀ a ∈ path, p a :=
  h.isChain.backwards_induction p path (fun a b => hp a b) fun hne => by
    rwa [List.getLast_of_getLast?_eq_some h.getLast?]

/-- Of two names on a path the upper one is an ancestor of the lower one, so they differ unless there is
a cycle. -/
theorem Climbed.nodup (h : graph.Climbed steps name path) (hcycle : ¬ graph.RunsIntoCycle name) :
    path.Nodup := by
  have hreach : ∀ a ∈ path, ReflTransGen graph.IsOrigin a name :=
    h.backwards .refl fun _ _ horigin hbelow => .head horigin hbelow
  have hpairs : path.Pairwise (TransGen graph.IsOrigin) :=
    (h.isChain.imp fun _ _ => TransGen.single).pairwise
  refine hpairs.imp_of_mem fun ha _ hab => ?_
  rintro rfl
  exact hcycle ⟨_, hab, hreach _ ha⟩

/-- Whether a name is on the cycle or below it, it has an origin of the same kind. -/
theorem RunsIntoCycle.exists_origin (h : graph.RunsIntoCycle name) :
    ∃ origin, graph.origin? name = some origin ∧ graph.RunsIntoCycle origin := by
  obtain ⟨other, hcycle, hreach⟩ := h
  -- Over the cycle the name is reached in at least one step, and the last step starts at its origin.
  obtain ⟨origin, hother, ho⟩ := TransGen.tail'_iff.1 (hcycle.trans_left hreach)
  exact ⟨origin, ho, other, hcycle, hother⟩

theorem RunsIntoCycle.length_climb (h : graph.RunsIntoCycle name) (steps : Nat) :
    (graph.climb steps name [name]).length = steps + 1 := by
  induction steps generalizing name with
  | zero => rfl
  | succ steps ih =>
    obtain ⟨origin, ho, horigin⟩ := h.exists_origin
    rw [climb_of_origin ho, List.length_append, ih horigin]
    rfl

theorem RunsIntoCycle.length_pathTo (h : graph.RunsIntoCycle name) (hname : name ∈ graph.nodes) :
    (graph.pathTo name).length = graph.nodes.size + 1 := by
  rw [pathTo, if_pos hname, h.length_climb]

end Climbing

namespace Closed
variable {name : ClassName}

theorem mem_nodes_of_mem_pathTo (h : graph.Closed) (hname : name ∈ graph.nodes) :
    ∀ other ∈ graph.pathTo name, other ∈ graph.nodes :=
  (climbed_pathTo hname).backwards hname fun _ _ ho _ => h.source _ (mem_edges_of_origin? ho)

/-- Without a cycle the path has room for all its names, so it begins at a root. -/
theorem head?_pathTo (h : graph.Closed) (hname : name ∈ graph.nodes)
    (hcycle : ¬ graph.RunsIntoCycle name) :
    ∃ root ∈ graph.nodes, graph.origin? root = none ∧ (graph.pathTo name).head? = some root := by
  have hpath := climbed_pathTo hname
  rcases hpath.begins with ⟨root, hhead, hnone⟩ | hlength
  · exact ⟨root, h.mem_nodes_of_mem_pathTo hname root (List.mem_of_head? hhead), hnone, hhead⟩
  · have hle := (hpath.nodup hcycle).length_le_of_subset (h.mem_nodes_of_mem_pathTo hname)
    rw [hlength] at hle
    exact absurd hle (Nat.not_succ_le_self _)

end Closed

namespace Forward
variable {name origin : ClassName}

theorem closed (h : graph.Forward) : graph.Closed := ⟨h.source, h.target⟩

theorem origin_mem_nodes (h : graph.Forward) (ho : graph.origin? name = some origin) :
    origin ∈ graph.nodes := h.source _ (mem_edges_of_origin? ho)

theorem mem_nodes_of_origin (h : graph.Forward) (ho : graph.origin? name = some origin) :
    name ∈ graph.nodes := h.target _ (mem_edges_of_origin? ho)

theorem position_origin_lt (h : graph.Forward) (ho : graph.origin? name = some origin) :
    graph.position origin < graph.position name := h.older _ (mem_edges_of_origin? ho)

theorem position_lt_of_transGen (h : graph.Forward) {a b : ClassName}
    (hab : TransGen graph.IsOrigin a b) : graph.position a < graph.position b := by
  induction hab with
  | single hab => exact h.position_origin_lt hab
  | tail _ hbc ih => exact ih.trans (h.position_origin_lt hbc)

theorem not_runsIntoCycle (h : graph.Forward) (name : ClassName) : ¬ graph.RunsIntoCycle name := by
  rintro ⟨other, hcycle, -⟩
  exact Nat.lt_irrefl _ (h.position_lt_of_transGen hcycle)

/-- What holds of the roots, and of a name when it holds of its origin, holds of every node. -/
theorem node_induction (h : graph.Forward) {motive : (name : ClassName) → name ∈ graph.nodes → Prop}
    (root : ∀ name (hname : name ∈ graph.nodes), graph.origin? name = none → motive name hname)
    (below : ∀ name origin (ho : graph.origin? name = some origin),
      motive origin (h.origin_mem_nodes ho) → motive name (h.mem_nodes_of_origin ho))
    {name : ClassName} (hname : name ∈ graph.nodes) : motive name hname := by
  induction hp : graph.position name using Nat.strong_induction_on generalizing name with
  | _ position ih =>
    cases ho : graph.origin? name with
    | none => exact root name hname ho
    | some origin =>
      have hlt := h.position_origin_lt ho
      exact below name origin ho (ih _ (hp ▸ hlt) (h.origin_mem_nodes ho) rfl)

/-- As many steps as there are older nodes lead to a root, and further steps change nothing. -/
theorem climb_eq (h : graph.Forward) {steps more : Nat} (path : List ClassName)
    (hsteps : graph.position name ≤ steps) (hmore : graph.position name ≤ more) :
    graph.climb steps name path = graph.climb more name path := by
  induction steps generalizing more name path with
  | zero =>
    cases more with
    | zero => rfl
    | succ more =>
      have hroot : graph.origin? name = none := by
        cases ho : graph.origin? name with
        | none => rfl
        | some origin => exact absurd (h.position_origin_lt ho) (by omega)
      simp only [climb, hroot]
  | succ steps ih =>
    cases ho : graph.origin? name with
    | none => cases more <;> simp only [climb, ho]
    | some origin =>
      have hlt := h.position_origin_lt ho
      cases more with
      | zero => omega
      | succ more =>
        simp only [climb, ho]
        exact ih _ (by omega) (by omega)

theorem climb_eq_pathTo (h : graph.Forward) (hname : name ∈ graph.nodes) {steps : Nat}
    (hsteps : graph.position name ≤ steps) :
    graph.climb steps name [name] = graph.pathTo name := by
  rw [pathTo, if_pos hname]
  exact h.climb_eq _ hsteps (position_lt_size hname).le

/-- The path of a name is the path of its origin with the name at its end. -/
theorem pathTo_of_origin (h : graph.Forward) (ho : graph.origin? name = some origin) :
    graph.pathTo name = graph.pathTo origin ++ [name] := by
  have hlt := h.position_origin_lt ho
  rw [← h.climb_eq_pathTo (h.mem_nodes_of_origin ho) (Nat.le_succ _), climb_of_origin ho,
    h.climb_eq_pathTo (h.origin_mem_nodes ho) hlt.le]

/-! ## A path from end to end -/

theorem head?_pathTo (h : graph.Forward) (hname : name ∈ graph.nodes) :
    ∃ root ∈ graph.nodes, graph.origin? root = none ∧ (graph.pathTo name).head? = some root :=
  h.closed.head?_pathTo hname (h.not_runsIntoCycle name)

theorem getLast?_pathTo (_ : graph.Forward) (hname : name ∈ graph.nodes) :
    (graph.pathTo name).getLast? = some name := (climbed_pathTo hname).getLast?

theorem isChain_pathTo (_ : graph.Forward) (hname : name ∈ graph.nodes) :
    (graph.pathTo name).IsChain fun a b => (a, b) ∈ graph.edges :=
  (climbed_pathTo hname).isChain.imp fun _ _ => mem_edges_of_origin?

theorem nodup_pathTo (h : graph.Forward) (hname : name ∈ graph.nodes) :
    (graph.pathTo name).Nodup :=
  (climbed_pathTo hname).nodup (h.not_runsIntoCycle name)

end Forward

/-! ## Paths of different names -/

namespace BreadthFirst
variable {a b : ClassName}

/-- Newer nodes have longer paths, or paths of the same length. -/
theorem length_pathTo_le (h : graph.BreadthFirst) (ha : a ∈ graph.nodes) (hb : b ∈ graph.nodes)
    (hab : graph.position a ≤ graph.position b) :
    (graph.pathTo a).length ≤ (graph.pathTo b).length := by
  induction ha using h.node_induction generalizing b with
  | root a ha ho =>
    rw [pathTo_of_root ha ho]
    exact length_pathTo_pos hb
  | below a origin ho ih =>
    have hrank := h.ordered a (h.mem_nodes_of_origin ho) b hb hab
    cases hob : graph.origin? b with
    | none => simp [originRank, ho, hob] at hrank
    | some other =>
      simp only [originRank, ho, hob, Option.elim_some, Nat.add_le_add_iff_right] at hrank
      have hle := ih (h.origin_mem_nodes hob) hrank
      rw [h.pathTo_of_origin ho, h.pathTo_of_origin hob, List.length_append, List.length_append]
      exact Nat.add_le_add_right hle 1

/-- A name whose origin is not newer than another node has a path at most one longer. -/
theorem length_pathTo_le_succ (h : graph.BreadthFirst) (ha : a ∈ graph.nodes)
    (hb : b ∈ graph.nodes) (hab : graph.originRank b ≤ graph.position a + 1) :
    (graph.pathTo b).length ≤ (graph.pathTo a).length + 1 := by
  cases ho : graph.origin? b with
  | none =>
    rw [pathTo_of_root hb ho]
    exact Nat.le_add_left 1 _
  | some origin =>
    simp only [originRank, ho, Option.elim_some, Nat.add_le_add_iff_right] at hab
    have hle := h.length_pathTo_le (h.origin_mem_nodes ho) ha hab
    rw [h.pathTo_of_origin ho, List.length_append]
    exact Nat.add_le_add_right hle 1

end BreadthFirst
end BeanDiscovery.DiscoveryGraph
