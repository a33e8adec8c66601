import BeanDiscovery.ClassName
import BeanDiscovery.OrderedSet

/-! # Who pulled in whom

A directed graph over class names in the order they were mentioned. An edge leads from the class
under inspection to a class it was the first to offer. The main statements give the nodes and edges
after a recording. -/
namespace BeanDiscovery

structure DiscoveryGraph where
  nodes : OrderedSet ClassName := .empty
  edges : OrderedSet (ClassName × ClassName) := .empty
  deriving DecidableEq, Inhabited

namespace DiscoveryGraph

/-- Records that a name was offered, by another one if a class was under inspection. The offered
name is mentioned first, and no name leads to itself. -/
def record (graph : DiscoveryGraph) (source : Option ClassName) (target : ClassName) :
    DiscoveryGraph :=
  match source with
  | none => { graph with nodes := graph.nodes.insert target }
  | some source =>
    { nodes := (graph.nodes.insert target).insert source
      edges := if source = target then graph.edges else graph.edges.insert (source, target) }

/-- The graph of recordings made one after the other. -/
def ofRecords (records : List (Option ClassName × ClassName)) : DiscoveryGraph :=
  records.foldl (fun graph r => graph.record r.1 r.2) {}

def contains (graph : DiscoveryGraph) (name : ClassName) : Bool := decide (name ∈ graph.nodes)

/-- Where the newest edge into a name comes from. -/
def origin? (graph : DiscoveryGraph) (name : ClassName) : Option ClassName :=
  (graph.edges.toList.reverse.find? fun edge => edge.2 = name).map (·.1)

/-- The names that the edges out of a name lead to, in ascending order. -/
def pulledInBy (graph : DiscoveryGraph) (name : ClassName) : List ClassName :=
  ClassName.sorted ((graph.edges.toList.filter fun edge => edge.1 = name).map (·.2))

/-- Puts origin after origin before a path that starts at a name, so many steps at most. -/
def climb (graph : DiscoveryGraph) : Nat → ClassName → List ClassName → List ClassName
  | 0, _, path => path
  | steps + 1, name, path =>
    match graph.origin? name with
    | none => path
    | some origin => climb graph steps origin (origin :: path)

/-- The chain of origins that ends in a name. It is cut off after as many steps as there are nodes,
so that a cycle comes to an end. -/
def pathTo (graph : DiscoveryGraph) (name : ClassName) : List ClassName :=
  if name ∈ graph.nodes then graph.climb graph.nodes.size name [name] else []

theorem mem_nodes_record {graph : DiscoveryGraph} {source : Option ClassName}
    {target name : ClassName} :
    name ∈ (graph.record source target).nodes ↔
      name ∈ graph.nodes ∨ name = target ∨ some name = source := by
  cases source with
  | none => simp [record]
  | some source => simp [record, or_assoc]

theorem mem_edges_record {graph : DiscoveryGraph} {source : Option ClassName}
    {target : ClassName} {edge : ClassName × ClassName} :
    edge ∈ (graph.record source target).edges ↔
      edge ∈ graph.edges ∨ (source = some edge.1 ∧ edge.2 = target ∧ edge.1 ≠ edge.2) := by
  obtain ⟨a, b⟩ := edge
  cases source with
  | none => simp [record]
  | some source =>
    by_cases h : source = target
    · subst h
      simp only [record, if_true, Option.some.injEq]
      exact ⟨Or.inl, fun h => h.elim id fun ⟨e, e', n⟩ => absurd (e.symm.trans e'.symm) n⟩
    · simp only [record, h, if_false, OrderedSet.mem_insert, Prod.mk.injEq, Option.some.injEq]
      constructor
      · rintro (he | ⟨rfl, rfl⟩)
        · exact Or.inl he
        · exact Or.inr ⟨rfl, rfl, h⟩
      · rintro (he | ⟨rfl, rfl, _⟩)
        · exact Or.inl he
        · exact Or.inr ⟨rfl, rfl⟩

/-- Recording a name that is no node yet, from no class or from one that is. -/
theorem toList_record_of_new {graph : DiscoveryGraph} {source : Option ClassName}
    {target : ClassName} (hnew : target ∉ graph.nodes)
    (hends : ∀ edge ∈ graph.edges, edge.2 ∈ graph.nodes)
    (hsource : ∀ name, source = some name → name ∈ graph.nodes) :
    (graph.record source target).nodes.toList = graph.nodes.toList ++ [target] ∧
    (graph.record source target).edges.toList =
      graph.edges.toList ++ (source.map fun name => (name, target)).toList := by
  have hnodes := OrderedSet.toList_insert_of_notMem hnew
  cases source with
  | none => simp [record, hnodes]
  | some name =>
    have hname : name ∈ graph.nodes := hsource name rfl
    have hne : name ≠ target := fun e => hnew (e ▸ hname)
    have hedge : (name, target) ∉ graph.edges := fun he => hnew (hends _ he)
    have hknown : name ∈ graph.nodes.insert target := OrderedSet.mem_insert.2 (Or.inl hname)
    simp only [record, hne, if_false, OrderedSet.insert_of_mem hknown, hnodes,
      OrderedSet.toList_insert_of_notMem hedge]
    exact ⟨trivial, rfl⟩

/-! ## Questions about a name -/

theorem mem_edges_of_origin? {graph : DiscoveryGraph} {name origin : ClassName}
    (h : graph.origin? name = some origin) : (origin, name) ∈ graph.edges := by
  obtain ⟨edge, hfound, rfl⟩ := Option.map_eq_some_iff.1 h
  have hname : edge.2 = name := by simpa using List.find?_some hfound
  exact hname ▸ List.mem_reverse.1 (List.mem_of_find?_eq_some hfound)

theorem origin?_isSome {graph : DiscoveryGraph} {name : ClassName} :
    (graph.origin? name).isSome = true ↔ ∃ origin, (origin, name) ∈ graph.edges := by
  simp only [origin?, Option.isSome_map, List.find?_isSome, List.mem_reverse, decide_eq_true_eq]
  constructor
  · rintro ⟨⟨origin, _⟩, hedge, rfl⟩
    exact ⟨origin, hedge⟩
  · rintro ⟨origin, hedge⟩
    exact ⟨(origin, name), hedge, rfl⟩

theorem origin?_eq_none_iff {graph : DiscoveryGraph} {name : ClassName} :
    graph.origin? name = none ↔ ∀ origin, (origin, name) ∉ graph.edges := by
  rw [← Option.not_isSome_iff_eq_none, origin?_isSome, not_exists]

/-- The newest edge into a name is the one behind which no other leads there. -/
theorem origin?_eq_some_iff {graph : DiscoveryGraph} {name origin : ClassName} :
    graph.origin? name = some origin ↔
      ∃ older newer, graph.edges.toList = older ++ (origin, name) :: newer ∧
        ∀ edge ∈ newer, edge.2 ≠ name := by
  simp only [origin?, Option.map_eq_some_iff, List.find?_eq_some_iff_append, decide_eq_true_eq,
    Bool.not_eq_true', decide_eq_false_iff_not]
  constructor
  · rintro ⟨⟨_, _⟩, ⟨rfl, newer, older, hedges, hnewer⟩, rfl⟩
    refine ⟨older.reverse, newer.reverse, ?_, fun edge hedge => hnewer edge (List.mem_reverse.1 hedge)⟩
    simpa using congrArg List.reverse hedges
  · rintro ⟨older, newer, hedges, hnewer⟩
    refine ⟨(origin, name), ⟨rfl, newer.reverse, older.reverse, by simp [hedges], ?_⟩, rfl⟩
    exact fun edge hedge => hnewer edge (List.mem_reverse.1 hedge)

theorem mem_pulledInBy {graph : DiscoveryGraph} {name target : ClassName} :
    target ∈ graph.pulledInBy name ↔ (name, target) ∈ graph.edges := by
  simp only [pulledInBy, ClassName.mem_sorted, List.mem_map, List.mem_filter, decide_eq_true_eq]
  constructor
  · rintro ⟨⟨_, _⟩, ⟨hedge, rfl⟩, rfl⟩
    exact hedge
  · intro hedge
    exact ⟨(name, target), ⟨hedge, rfl⟩, rfl⟩

end DiscoveryGraph
end BeanDiscovery
