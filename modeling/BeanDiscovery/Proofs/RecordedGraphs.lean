import Mathlib.Data.List.Induction
import BeanDiscovery.Proofs.OriginPaths

/-!
# Graphs of any records

Whatever is recorded, in any order, with several parents of a name, with cycles and with names that lead
to themselves, the graph lists names and edges in the order in which they came first. The main statement
says so and gives the answers about every name: its newest origin, what it pulled in, and its path.
-/
namespace BeanDiscovery.DiscoveryGraph

/-- The names that a record mentions, the offered one first. -/
def mentioned (record : Option ClassName × ClassName) : List ClassName :=
  record.2 :: record.1.toList

/-- The edge that a record asks for: from its source, unless that is the offered name itself. -/
def edge? (record : Option ClassName × ClassName) : Option (ClassName × ClassName) :=
  record.1.bind fun source => if source = record.2 then none else some (source, record.2)

variable {graph : DiscoveryGraph} {name : ClassName}

/-! ## Names and edges -/

theorem ofRecords_concat (records : List (Option ClassName × ClassName))
    (record : Option ClassName × ClassName) :
    ofRecords (records ++ [record]) = (ofRecords records).record record.1 record.2 :=
  List.foldl_append

theorem nodes_record (graph : DiscoveryGraph) (record : Option ClassName × ClassName) :
    (graph.record record.1 record.2).nodes = graph.nodes.insertAll (mentioned record) := by
  obtain ⟨source, target⟩ := record
  cases source <;> rfl

theorem edges_record (graph : DiscoveryGraph) (record : Option ClassName × ClassName) :
    (graph.record record.1 record.2).edges = graph.edges.insertAll (edge? record).toList := by
  obtain ⟨source, target⟩ := record
  cases source with
  | none => rfl
  | some source =>
    by_cases h : source = target
    · simp [DiscoveryGraph.record, edge?, h]
    · simp [DiscoveryGraph.record, edge?, h]

theorem nodes_ofRecords (records : List (Option ClassName × ClassName)) :
    (ofRecords records).nodes = .ofList (records.flatMap mentioned) := by
  induction records using List.reverseRecOn with
  | nil => rfl
  | append_singleton records record ih =>
    rw [ofRecords_concat, nodes_record, ih, List.flatMap_append, List.flatMap_singleton,
      OrderedSet.ofList_append]

theorem edges_ofRecords (records : List (Option ClassName × ClassName)) :
    (ofRecords records).edges = .ofList (records.filterMap edge?) := by
  induction records using List.reverseRecOn with
  | nil => rfl
  | append_singleton records record ih =>
    rw [ofRecords_concat, edges_record, ih, List.filterMap_append, OrderedSet.ofList_append,
      List.filterMap_cons, List.filterMap_nil]
    cases edge? record <;> rfl

theorem Closed.record (h : graph.Closed) (source : Option ClassName) (target : ClassName) :
    (graph.record source target).Closed where
  source edge hedge := by
    rcases mem_edges_record.1 hedge with hold | ⟨hsource, -, -⟩
    · exact mem_nodes_record.2 (Or.inl (h.source edge hold))
    · exact mem_nodes_record.2 (Or.inr (Or.inr hsource.symm))
  target edge hedge := by
    rcases mem_edges_record.1 hedge with hold | ⟨-, htarget, -⟩
    · exact mem_nodes_record.2 (Or.inl (h.target edge hold))
    · exact mem_nodes_record.2 (Or.inr (Or.inl htarget))

theorem closed_ofRecords (records : List (Option ClassName × ClassName)) :
    (ofRecords records).Closed := by
  induction records using List.reverseRecOn with
  | nil =>
    exact ⟨fun _ hedge => absurd hedge List.not_mem_nil, fun _ hedge => absurd hedge List.not_mem_nil⟩
  | append_singleton records record ih =>
    rw [ofRecords_concat]
    exact ih.record record.1 record.2

/-- Different edges out of a name lead to different names. -/
theorem pulledInBy_strict (graph : DiscoveryGraph) (name : ClassName) :
    (graph.pulledInBy name).Pairwise fun a b => a.text < b.text := by
  refine ClassName.sorted_strict ((graph.edges.nodup.filter _).map_on fun a ha b hb hab => ?_)
  have ha : a.1 = name := of_decide_eq_true (List.mem_filter.1 ha).2
  have hb : b.1 = name := of_decide_eq_true (List.mem_filter.1 hb).2
  exact Prod.ext (ha.trans hb.symm) hab

/-! ## Answers -/

theorem pathTo_eq_nil_iff : graph.pathTo name = [] ↔ name ∉ graph.nodes := by
  constructor
  · intro hpath hname
    have hpos := length_pathTo_pos hname
    rw [hpath] at hpos
    exact Nat.lt_irrefl 0 hpos
  · intro hname
    rw [pathTo, if_neg hname]

/-- What a graph answers after any records. A name stands where a record first mentions it, an edge where
a record first asks for it. The origin of a name is the source of the newest edge that leads there. The
path of a name goes from origin to origin; it begins at a root and repeats no name, or else the origins run
into a cycle and the path is cut off when it is one longer than the list of nodes. -/
theorem answers_of_records (records : List (Option ClassName × ClassName)) :
    let graph := ofRecords records
    graph.nodes.toList = (records.flatMap mentioned).eraseDups ∧ graph.nodes.toList.Nodup ∧
    graph.edges.toList = (records.filterMap edge?).eraseDups ∧ graph.edges.toList.Nodup ∧
    (∀ edge ∈ graph.edges, edge.1 ∈ graph.nodes ∧ edge.2 ∈ graph.nodes) ∧
    ∀ name,
      (graph.contains name = true ↔ name ∈ records.flatMap mentioned) ∧
      (∀ origin, graph.origin? name = some origin ↔
        ∃ older newer, graph.edges.toList = older ++ (origin, name) :: newer ∧
          ∀ edge ∈ newer, edge.2 ≠ name) ∧
      (graph.pulledInBy name).Pairwise (fun a b => a.text < b.text) ∧
      (∀ target, target ∈ graph.pulledInBy name ↔ (name, target) ∈ graph.edges) ∧
      (graph.pathTo name = [] ↔ name ∉ graph.nodes) ∧
      (name ∈ graph.nodes →
        (graph.pathTo name).getLast? = some name ∧
        (graph.pathTo name).IsChain (fun a b => graph.origin? b = some a) ∧
        (graph.pathTo name).length ≤ graph.nodes.size + 1 ∧
        (¬ graph.RunsIntoCycle name ∧ (graph.pathTo name).Nodup ∧
            (∃ root ∈ graph.nodes, (graph.pathTo name).head? = some root ∧
              ∀ origin, (origin, root) ∉ graph.edges) ∨
          graph.RunsIntoCycle name ∧
            (graph.pathTo name).length = graph.nodes.size + 1)) := by
  intro graph
  have hclosed : graph.Closed := closed_ofRecords records
  have hnodes : graph.nodes = .ofList (records.flatMap mentioned) := nodes_ofRecords records
  have hedges : graph.edges = .ofList (records.filterMap edge?) := edges_ofRecords records
  refine ⟨?_, graph.nodes.nodup, ?_, graph.edges.nodup,
    fun edge hedge => ⟨hclosed.source edge hedge, hclosed.target edge hedge⟩,
    fun name => ⟨?_, fun _ => origin?_eq_some_iff, graph.pulledInBy_strict name,
      fun _ => mem_pulledInBy, pathTo_eq_nil_iff, fun hname => ?_⟩⟩
  · rw [hnodes, OrderedSet.toList_ofList]
  · rw [hedges, OrderedSet.toList_ofList]
  · rw [contains, decide_eq_true_iff, hnodes, OrderedSet.mem_ofList]
  · have hpath := climbed_pathTo hname
    refine ⟨hpath.getLast?, hpath.isChain, hpath.length_le, ?_⟩
    by_cases hcycle : graph.RunsIntoCycle name
    · exact Or.inr ⟨hcycle, hcycle.length_pathTo hname⟩
    · obtain ⟨root, hroot, hnone, hhead⟩ := hclosed.head?_pathTo hname hcycle
      exact Or.inl ⟨hcycle, hpath.nodup hcycle, root, hroot, hhead, origin?_eq_none_iff.1 hnone⟩

/-- A shop and its stock that offer each other, and a desk that offers itself. -/
def rivals : List (Option ClassName × ClassName) :=
  [(none, ⟨"com.example.ATest"⟩),
    (some ⟨"com.example.ATest"⟩, ⟨"com.example.Shop"⟩),
    (some ⟨"com.example.Shop"⟩, ⟨"com.example.Stock"⟩),
    (some ⟨"com.example.Stock"⟩, ⟨"com.example.Shop"⟩),
    (some ⟨"com.example.ATest"⟩, ⟨"com.example.Desk"⟩),
    (some ⟨"com.example.Desk"⟩, ⟨"com.example.Desk"⟩)]

theorem answers_rivals :
    let graph := ofRecords rivals
    graph.nodes.toList = [⟨"com.example.ATest"⟩, ⟨"com.example.Shop"⟩, ⟨"com.example.Stock"⟩,
      ⟨"com.example.Desk"⟩] ∧
    (⟨"com.example.Desk"⟩ ∈ graph.nodes ∧ ¬ graph.RunsIntoCycle ⟨"com.example.Desk"⟩ ∧
      graph.pathTo ⟨"com.example.Desk"⟩ = [⟨"com.example.ATest"⟩, ⟨"com.example.Desk"⟩]) ∧
    ⟨"com.example.Shop"⟩ ∈ graph.nodes ∧ graph.RunsIntoCycle ⟨"com.example.Shop"⟩ ∧
      graph.pathTo ⟨"com.example.Shop"⟩ = [⟨"com.example.Shop"⟩, ⟨"com.example.Stock"⟩,
        ⟨"com.example.Shop"⟩, ⟨"com.example.Stock"⟩, ⟨"com.example.Shop"⟩] := by
  intro graph
  obtain ⟨hnodes, -, -, -, -, hanswers⟩ := answers_of_records rivals
  have hdesk : ⟨"com.example.Desk"⟩ ∈ graph.nodes := by decide +kernel
  have hshop : ⟨"com.example.Shop"⟩ ∈ graph.nodes := by decide +kernel
  obtain ⟨-, -, -, hdeskPath⟩ := (hanswers ⟨"com.example.Desk"⟩).2.2.2.2.2 hdesk
  obtain ⟨-, -, -, hshopPath⟩ := (hanswers ⟨"com.example.Shop"⟩).2.2.2.2.2 hshop
  refine ⟨hnodes.trans (by decide +kernel), ⟨hdesk, ?_, by decide +kernel⟩, hshop, ?_,
    by decide +kernel⟩
  · rcases hdeskPath with ⟨hcycle, -⟩ | ⟨-, hlength⟩
    · exact hcycle
    · exact absurd hlength (by decide +kernel)
  · rcases hshopPath with ⟨-, hnodup, -⟩ | ⟨hcycle, -⟩
    · exact absurd hnodup (by decide +kernel)
    · exact hcycle

end BeanDiscovery.DiscoveryGraph
