import BeanDiscovery.Proofs.VisitSteps

/-!
# What one offer does

A plugin may offer the same class twice, by one reference or by two, and offer classes that are known already.
Wherever plugins act, the names that a reference mentions and that are not known yet begin to wait, each once and
in the order of the reference, and the graph gets a node and an edge for each of them. The main statement says
that an offer does this and nothing else, so that an offer made twice is made once, and that the two ways to
expand a class, by one action and by a scan whose names are offered, leave the same context.
-/
namespace BeanDiscovery

/-! ## The classes a type mentions -/

namespace TypeRef

/-- The class that stands at the head of a reference. -/
def head? : TypeRef → Option ClassName
  | .cls name => some name
  | .parameterized raw _ => some raw
  | .var _ => none
  | .array _ => none

mutual

/-- The reference and those below it, depth first, each before those below it. -/
def preorder : TypeRef → List TypeRef
  | .cls name => [.cls name]
  | .parameterized raw args => .parameterized raw args :: preorderOfAll args
  | .var label => [.var label]
  | .array component => .array component :: component.preorder

def preorderOfAll : List TypeRef → List TypeRef
  | [] => []
  | type :: types => type.preorder ++ preorderOfAll types

end

mutual

theorem identities_eq_heads : ∀ type : TypeRef, type.identities = type.preorder.filterMap head?
  | .cls _ => by simp [identities, preorder, head?]
  | .parameterized _ args => by
    simp [identities, preorder, head?, identitiesOfAll_eq_heads args]
  | .var _ => by simp [identities, preorder, head?]
  | .array component => by
    rw [identities, preorder, List.filterMap_cons_none rfl, identities_eq_heads component]

theorem identitiesOfAll_eq_heads : ∀ types : List TypeRef,
    identitiesOfAll types = (preorderOfAll types).filterMap head?
  | [] => by simp [identitiesOfAll, preorderOfAll]
  | type :: types => by
    simp [identitiesOfAll, preorderOfAll, identities_eq_heads type, identitiesOfAll_eq_heads types]

end

end TypeRef

/-! ## New names -/

namespace Worklist
variable {list : Worklist} {name : ClassName}

/-- The names that neither wait nor were settled, each at its first place. -/
def newNames (list : Worklist) (names : List ClassName) : List ClassName :=
  (OrderedSet.ofList names).toList.filter fun name =>
    decide (name ∉ list.pending ∧ name ∉ list.processed)

theorem knows_enqueue (list : Worklist) (name other : ClassName) :
    (list.enqueue name).knows other = true ↔ list.knows other = true ∨ other = name := by
  rw [enqueue]
  split
  next h => exact ⟨Or.inl, fun hknows => hknows.elim id fun heq => heq ▸ h⟩
  next h => rw [Worklist.knows_iff, Worklist.knows_iff, OrderedSet.mem_insert, or_assoc]

theorem knows_enqueueAll (list : Worklist) (names : List ClassName) (other : ClassName) :
    (list.enqueueAll names).knows other = true ↔ list.knows other = true ∨ other ∈ names := by
  induction names generalizing list with
  | nil => exact (or_iff_left List.not_mem_nil).symm
  | cons name names ih =>
    refine (ih (list.enqueue name)).trans ?_
    rw [knows_enqueue, List.mem_cons, or_assoc]

/-- One more name is new if the names before have not made it known. -/
theorem Consistent.newNames_concat (h : list.Consistent) (names : List ClassName)
    (name : ClassName) :
    list.newNames (names ++ [name]) =
      if (list.enqueueAll names).knows name then list.newNames names
      else list.newNames names ++ [name] := by
  have hset : OrderedSet.ofList (names ++ [name]) = (OrderedSet.ofList names).insert name :=
    OrderedSet.insertAll_append _ _ _
  rw [newNames, newNames, hset, OrderedSet.toList_insert]
  by_cases hmem : name ∈ names
  · rw [if_pos (OrderedSet.mem_ofList.2 hmem),
      if_pos ((list.knows_enqueueAll names name).2 (Or.inr hmem))]
  · rw [if_neg fun hset => hmem (OrderedSet.mem_ofList.1 hset), List.filter_append]
    by_cases hknows : list.knows name = true
    · rw [if_pos ((list.knows_enqueueAll names name).2 (Or.inl hknows)),
        List.filter_cons_of_neg, List.filter_nil, List.append_nil]
      rw [h.knows_iff] at hknows
      rw [decide_eq_true_eq]
      exact fun hnew => hknows.elim hnew.2 hnew.1
    · rw [if_neg fun hall => ((list.knows_enqueueAll names name).1 hall).elim hknows hmem,
        List.filter_cons_of_pos, List.filter_nil]
      rw [h.knows_iff, not_or] at hknows
      exact decide_eq_true hknows.symm

end Worklist

/-! ## Where plugins act -/

namespace Frontier

/-- The nodes are the known names, edges lead to nodes, and the class under inspection is the oldest
waiting name. -/
structure Ready (frontier : Frontier) : Prop where
  consistent : frontier.worklist.Consistent
  mem_nodes : ∀ name, name ∈ frontier.graph.nodes ↔ frontier.worklist.knows name = true
  ends : ∀ edge ∈ frontier.graph.edges, edge.2 ∈ frontier.graph.nodes
  current : ∀ name, frontier.current = some name → frontier.worklist.next? = some name

theorem Recorded.ready {frontier : Frontier} {log : List Offer} (h : frontier.Recorded log)
    (hcurrent : ∀ name, frontier.current = some name → frontier.worklist.next? = some name) :
    frontier.Ready :=
  ⟨h.consistent, fun _ => h.mem_nodes.trans h.knows_iff.symm, fun _ => h.snd_mem_nodes, hcurrent⟩

namespace Ready
variable {frontier : Frontier} {name : ClassName}

theorem source_mem_nodes (h : frontier.Ready) (origin : ClassName)
    (horigin : frontier.current = some origin) : origin ∈ frontier.graph.nodes :=
  (h.mem_nodes origin).2
    (h.consistent.knows_iff.2 (Or.inr (Worklist.mem_pending_of_next? (h.current origin horigin))))

/-- A new name waits last, and becomes the last node and the end of the last edge. -/
theorem offer_new (h : frontier.Ready) (hnew : frontier.worklist.knows name = false) :
    (frontier.offer name).worklist.pending.toList = frontier.worklist.pending.toList ++ [name] ∧
    (frontier.offer name).graph.nodes.toList = frontier.graph.nodes.toList ++ [name] ∧
    (frontier.offer name).graph.edges.toList = frontier.graph.edges.toList ++
      (frontier.current.map fun origin => (origin, name)).toList := by
  have hnode : name ∉ frontier.graph.nodes := fun hmem => by
    rw [h.mem_nodes, hnew] at hmem
    cases hmem
  rw [offer_of_new hnew]
  refine ⟨?_, DiscoveryGraph.toList_record_of_new hnode h.ends h.source_mem_nodes⟩
  exact (Worklist.pending_enqueue _ _).trans (if_neg (hnew ▸ Bool.false_ne_true))

theorem offer (h : frontier.Ready) (name : ClassName) : (frontier.offer name).Ready := by
  cases hknows : frontier.worklist.knows name with
  | true => rwa [offer_of_knows hknows]
  | false =>
    obtain ⟨hpending, hnodes, hedges⟩ := h.offer_new hknows
    refine ⟨?_, fun other => ?_, fun edge hedge => ?_, fun origin horigin => ?_⟩
    · rw [worklist_offer]
      exact h.consistent.enqueue name
    · rw [OrderedSet.mem_def, hnodes, worklist_offer, Worklist.knows_enqueue, List.mem_append,
        List.mem_singleton, ← OrderedSet.mem_def, h.mem_nodes]
    · rw [OrderedSet.mem_def, hedges, List.mem_append, Option.mem_toList] at hedge
      rw [OrderedSet.mem_def, hnodes, List.mem_append]
      rcases hedge with hedge | hedge
      · exact Or.inl (h.ends edge hedge)
      · obtain ⟨origin, -, rfl⟩ := Option.map_eq_some_iff.1 hedge
        exact Or.inr List.mem_cons_self
    · rw [current_offer] at horigin
      obtain ⟨rest, hrest⟩ := Queue.front?_eq_some.1 (h.current origin horigin)
      exact Queue.front?_eq_some.2 ⟨rest ++ [name], by rw [hpending, hrest]; rfl⟩

theorem offerAll (h : frontier.Ready) (names : List ClassName) : (frontier.offerAll names).Ready := by
  induction names generalizing frontier with
  | nil => exact h
  | cons name names ih => exact ih (h.offer name)

/-- Offers append the new names to the queue, to the nodes and, below the class under inspection, to the
edges. -/
theorem toList_offerAll (h : frontier.Ready) (names : List ClassName) :
    (frontier.offerAll names).worklist.pending.toList =
      frontier.worklist.pending.toList ++ frontier.worklist.newNames names ∧
    (frontier.offerAll names).graph.nodes.toList =
      frontier.graph.nodes.toList ++ frontier.worklist.newNames names ∧
    (frontier.offerAll names).graph.edges.toList = frontier.graph.edges.toList ++
      (frontier.worklist.newNames names).flatMap fun name =>
        (frontier.current.map fun origin => (origin, name)).toList := by
  induction names using List.reverseRecOn with
  | nil => simp [Frontier.offerAll, Worklist.newNames, OrderedSet.ofList]
  | append_singleton names name ih =>
    have hconcat : frontier.offerAll (names ++ [name]) = (frontier.offerAll names).offer name :=
      offerAll_append _ _ _
    rw [hconcat, h.consistent.newNames_concat, ← worklist_offerAll]
    cases hknows : (frontier.offerAll names).worklist.knows name with
    | true => rwa [offer_of_knows hknows]
    | false =>
      obtain ⟨hpending, hnodes, hedges⟩ := ih
      obtain ⟨hpending', hnodes', hedges'⟩ := (h.offerAll names).offer_new hknows
      rw [hpending', hnodes', hedges', hpending, hnodes, hedges, current_offerAll]
      simp [List.append_assoc]

end Ready
end Frontier

namespace Run
open Offer
variable {env : Environment} {run final : Run} {scans : ScanCache} {plugins : List Plugin}
  {context : Context}

/-- The contexts that plugins act on in a run: after some of the steps that are taken before the traversal,
or while a class is inspected. -/
inductive IsActedOn (env : Environment) (scans : ScanCache) (plugins : List Plugin) : Context → Prop
  | bootstrap {steps} (h : steps <+: (start env scans plugins).steps env
      (.bootstrap env.configuration.testClass)) :
      IsActedOn env scans plugins ((start env scans plugins).context.takeAll env steps)
  | inspection {visit info steps} (hvisit : visit ∈ visits env scans plugins)
      (htarget : visit.before.context.target? env visit.candidate = some info)
      (h : steps <+: visit.before.inspectionSteps env info) :
      IsActedOn env scans plugins ((visit.before.context.turnTo info).takeAll env steps)

/-- Every visited name was the oldest one that waited. -/
theorem Visits.next?_before {visits : List Visit} (h : Visits env run visits final) :
    ∀ visit ∈ visits, visit.before.worklist.next? = some visit.candidate := by
  induction h with
  | stop h => exact fun _ hmem => (List.not_mem_nil hmem).elim
  | visit hf hn rest ih => exact List.forall_mem_cons.2 ⟨hn, ih⟩

/-- Before every visit the worklist and the graph agree with the log so far. -/
theorem Visits.recorded_before {visits : List Visit} (h : Visits env run visits final)
    {log : List Offer} (hr : run.context.frontier.Recorded log)
    (hcurrent : run.context.current = none) :
    ∀ visit ∈ visits, ∃ log, visit.before.context.frontier.Recorded log := by
  induction h generalizing log with
  | stop h => exact fun _ hmem => (List.not_mem_nil hmem).elim
  | visit hf hn rest ih =>
    exact List.forall_mem_cons.2
      ⟨⟨log, hr⟩, ih (recorded_visit hr hcurrent hn) (current_visit hcurrent _ _)⟩

/-- What plugins do is recorded below the oldest waiting name, or below none. -/
theorem IsActedOn.ready (h : IsActedOn env scans plugins context) : context.frontier.Ready := by
  cases h with
  | bootstrap hsteps =>
    rw [Context.frontier_takeAll, frontier_start]
    refine Frontier.Ready.offerAll (Frontier.Ready.offer ?_ _) _
    exact Frontier.Recorded.initial.ready fun _ h => nomatch h
  | @inspection visit info steps hvisit htarget hsteps =>
    have hvisits := visits_complete env scans plugins
    obtain ⟨log, hlog⟩ := hvisits.recorded_before (recorded_seeded env scans plugins)
      (current_seeded env scans plugins) visit hvisit
    rw [Context.frontier_takeAll, Context.frontier_turnTo, Context.name_of_target htarget]
    refine Frontier.Ready.offerAll ((hlog.turnTo _).ready fun name hname => ?_) _
    obtain rfl := Option.some.inj hname
    exact hvisits.next?_before visit hvisit

end Run

/-! ## Offers made twice or in pieces -/

namespace Context
variable {context : Context}

theorem enqueueAll_of_knows {names : List ClassName}
    (h : ∀ name ∈ names, context.worklist.knows name = true) : context.enqueueAll names = context := by
  induction names with
  | nil => rfl
  | cons name names ih =>
    obtain ⟨hname, hnames⟩ := List.forall_mem_cons.1 h
    have hfirst : context.enqueue name = context := if_pos hname
    refine (congrArg (·.enqueueAll names) hfirst).trans (ih hnames)

theorem worklist_enqueueAll (context : Context) (names : List ClassName) :
    (context.enqueueAll names).worklist = context.worklist.enqueueAll names := by
  have h := congrArg Frontier.worklist (context.frontier_enqueueAll names)
  rwa [Frontier.worklist_offerAll] at h

theorem enqueueAll_twice (context : Context) (names : List ClassName) :
    (context.enqueueAll names).enqueueAll names = context.enqueueAll names := by
  refine enqueueAll_of_knows fun name hname => ?_
  rw [worklist_enqueueAll, Worklist.knows_enqueueAll]
  exact Or.inr hname

theorem enqueueAll_eq_takeAll (context : Context) (env : Environment) (names : List ClassName) :
    context.enqueueAll names =
      context.takeAll env (names.map fun name => .act (.offer (.ofClass name))) :=
  (List.foldl_map (f := fun name => HookStep.act (.offer (.ofClass name)))
    (g := fun context step => take context env step)).symm

end Context

namespace Contribution

theorem perform_offers (env : Environment) (names : List ClassName) (call : Call) :
    (offers names).perform env call = { call with context := call.context.enqueueAll names } := by
  induction names generalizing call with
  | nil => rfl
  | cons name names ih => exact ih _

end Contribution

namespace Run
variable {env : Environment} {scans : ScanCache} {plugins : List Plugin} {context : Context}

/-- What an offer does wherever plugins act. -/
theorem offer_of_isActedOn (h : IsActedOn env scans plugins context) (ref : ClassRef) :
    let names := ref.identities env.registry
    let news := (OrderedSet.ofList names).toList.filter fun name =>
      decide (name ∉ context.worklist.pending ∧ name ∉ context.worklist.processed)
    let after := context.perform env (.offer ref)
    (∀ name, context.current = some name → context.worklist.pending.front? = some name) ∧
    (∃ worklist graph, after =
      { context with worklist, findings := { context.findings with graph } }) ∧
    after.worklist.pending.toList = context.worklist.pending.toList ++ news ∧
    after.worklist.processed = context.worklist.processed ∧
    (∀ name, name ∈ after.worklist.queued ↔ name ∈ after.worklist.pending) ∧
    after.findings.graph.nodes.toList = context.findings.graph.nodes.toList ++ news ∧
    after.findings.graph.edges.toList = context.findings.graph.edges.toList ++
      news.flatMap (fun name => (context.current.map fun origin => (origin, name)).toList) ∧
    (∀ type, ref = .ofType type → names = type.preorder.filterMap TypeRef.head?) ∧
    after.perform env (.offer ref) = after ∧
    after = context.takeAll env (names.map fun name => .act (.offer (.ofClass name))) ∧
    ∀ call : Call, call.context = context →
      (Contribution.scanArchives names .offers).perform env call =
        { call with context := context.perform env (.offerArchive ref) } ∧
      (Contribution.scanPackages names .offers).perform env call =
        { call with context := context.perform env (.offerPackage ref) } := by
  intro names news after
  have hready := h.ready
  have hfrontier : after.frontier = context.frontier.offerAll names :=
    context.frontier_enqueueAll names
  obtain ⟨hpending, hnodes, hedges⟩ := hready.toList_offerAll names
  rw [← hfrontier] at hpending hnodes hedges
  have hafter : after.worklist.Consistent := by
    have hconsistent := (hready.offerAll names).consistent
    rwa [← hfrontier] at hconsistent
  refine ⟨hready.current, context.enqueueAll_changes names, hpending, ?_, hafter.mem_queued, hnodes,
    hedges, ?_, context.enqueueAll_twice names, context.enqueueAll_eq_takeAll env names, ?_⟩
  · exact (congrArg (·.processed) (context.worklist_enqueueAll names)).trans
      (Worklist.processed_enqueueAll _ _)
  · rintro type rfl
    exact type.identities_eq_heads
  · rintro call rfl
    exact ⟨Contribution.perform_offers env _ _, Contribution.perform_offers env _ _⟩

/-- While the test of the circle is inspected, a reference that mentions a new class twice, and two known ones,
is offered: only the new class begins to wait. -/
theorem offer_circle :
    let run := seeded circle {} [circlePlugin]
    let test := (circle.registry.resolve ⟨"com.example.ATest"⟩).getD default
    let context := (run.context.turnTo test).takeAll circle ((run.inspectionSteps circle test).take 2)
    let after := context.perform circle (.offer (.ofType (.parameterized ⟨"com.example.E"⟩
      [.array (.cls ⟨"com.example.E"⟩), .var "T", .cls ⟨"com.example.ATest"⟩,
        .cls ⟨"com.example.B"⟩])))
    IsActedOn circle {} [circlePlugin] context ∧
    after.worklist.pending.toList =
      [⟨"com.example.ATest"⟩, ⟨"com.example.B"⟩, ⟨"org.lib.Missing"⟩, ⟨"com.example.E"⟩] ∧
    after.findings.graph.edges.toList =
      [(⟨"com.example.ATest"⟩, ⟨"com.example.B"⟩), (⟨"com.example.ATest"⟩, ⟨"org.lib.Missing"⟩),
        (⟨"com.example.ATest"⟩, ⟨"com.example.E"⟩)] := by
  intro run test context after
  obtain ⟨info, htarget⟩ : ∃ info, run.context.target? circle ⟨"com.example.ATest"⟩ = some info :=
    Option.isSome_iff_exists.1 (by decide +kernel)
  have htest : test = info := congrArg (·.getD default) (Context.resolve_of_target htarget)
  have hvisit : ⟨run, ⟨"com.example.ATest"⟩⟩ ∈ visits circle {} [circlePlugin] := by
    rw [visits, visitsFrom_of_next? ⟨"com.example.ATest"⟩ _ (by decide +kernel) (by decide +kernel)]
    exact List.mem_cons_self
  have hacted : IsActedOn circle {} [circlePlugin] context :=
    @IsActedOn.inspection _ _ _ _ test _ hvisit (htest ▸ htarget) (List.take_prefix 2 _)
  obtain ⟨-, -, hpending, -, -, -, hedges, -⟩ := offer_of_isActedOn hacted (.ofType
    (.parameterized ⟨"com.example.E"⟩ [.array (.cls ⟨"com.example.E"⟩), .var "T",
      .cls ⟨"com.example.ATest"⟩, .cls ⟨"com.example.B"⟩]))
  refine ⟨hacted, ?_, ?_⟩
  · rw [hpending]
    decide +kernel
  · rw [hedges]
    decide +kernel

end Run
end BeanDiscovery
