import BeanDiscovery.Proofs.Counters

/-!
# What gets deployed

The test class is recorded before the traversal and every inspected class when it is turned to, unless
it is a marker definition; plugins record nothing. The main statement gives the deployed classes of a
run in order, with the condition for an inspection in terms of the context at that moment.
-/
namespace BeanDiscovery

namespace Context

/-- A name is to be inspected when it is not left out, and stands for a class that is not primitive and
either was included by name, comes from an archive root, or is an extension type. -/
def Inspectable (context : Context) (env : Environment) (candidate : ClassName) : Prop :=
  candidate ∉ context.findings.ignored ∧
  ∃ info, env.registry.resolve candidate = some info ∧ info.kind ≠ .primitive ∧
    (info.name ∈ context.included ∨
      (∃ root, info.location = some root ∧ root ∈ context.archiveRoots) ∨
      env.container.isExtensionType info = true)

theorem covers_iff {context : Context} {info : ClassInfo} :
    context.covers info = true ↔ info.name ∈ context.included ∨
      ∃ root, info.location = some root ∧ root ∈ context.archiveRoots := by
  simp only [covers, Bool.or_eq_true, decide_eq_true_eq, Option.any_eq_true]

theorem target?_isSome_iff {context : Context} {env : Environment} {candidate : ClassName} :
    (context.target? env candidate).isSome = true ↔ context.Inspectable env candidate := by
  rw [target?, Inspectable]
  by_cases hignored : candidate ∈ context.findings.ignored
  · simp [isIgnored, hignored]
  · have hfalse : context.isIgnored candidate = false := decide_eq_false hignored
    rw [hfalse, if_neg Bool.false_ne_true, Option.isSome_filter, Option.any_eq_true]
    simp only [ClassInfo.isPrimitive, Bool.and_eq_true, Bool.not_eq_true', decide_eq_false_iff_not,
      Bool.or_eq_true, covers_iff, or_assoc]
    exact ⟨fun h => ⟨hignored, h⟩, And.right⟩

instance (context : Context) (env : Environment) (candidate : ClassName) :
    Decidable (context.Inspectable env candidate) :=
  decidable_of_iff _ target?_isSome_iff

/-! ## Plugins record nothing -/

theorem discovered_enqueueAll (context : Context) (names : List ClassName) :
    (context.enqueueAll names).findings.discovered = context.findings.discovered := by
  obtain ⟨worklist, graph, h⟩ := context.enqueueAll_changes names
  rw [h]

theorem discovered_take (context : Context) (env : Environment) (step : HookStep) :
    (context.take env step).findings.discovered = context.findings.discovered := by
  obtain ⟨ignored, graph, h⟩ := context.findings_take env step
  rw [h]
  cases step with
  | act action =>
    cases action with
    | activate group ref => cases group <;> rfl
    | _ => rfl
  | _ => rfl

theorem discovered_takeAll (context : Context) (env : Environment) (steps : List HookStep) :
    (context.takeAll env steps).findings.discovered = context.findings.discovered := by
  induction steps generalizing context with
  | nil => rfl
  | cons step steps ih => exact (ih (context.take env step)).trans (discovered_take context env step)

end Context

/-- Whether a name stands for a marker definition. -/
def Environment.isMarkerDefinition (env : Environment) (name : ClassName) : Bool :=
  (env.registry.resolve name).any (·.isMarkerDefinition)

/-- Whether a visit records its name. -/
def Visit.isRecording (env : Environment) (visit : Visit) : Bool :=
  visit.isInspection env && !env.isMarkerDefinition visit.candidate

namespace Run
variable {env : Environment} {scans : ScanCache} {plugins : List Plugin} {run final : Run}

theorem discovered_visit (run : Run) (env : Environment) (candidate : ClassName) :
    (run.visit env candidate).context.findings.discovered =
      if Visit.isRecording env ⟨run, candidate⟩
        then run.context.findings.discovered.insert candidate
        else run.context.findings.discovered := by
  cases h : run.context.target? env candidate with
  | none =>
    rw [context_visit_of_skipped h]
    simp [Visit.isRecording, Visit.isInspection, h, Context.settle]
  | some info =>
    have hkind : env.isMarkerDefinition candidate = info.isMarkerDefinition := by
      rw [Environment.isMarkerDefinition, Context.resolve_of_target h]
      rfl
    have hvisit : (run.visit env candidate).context.findings.discovered =
        (run.context.turnTo info).findings.discovered := by
      rw [context_visit_of_target h]
      exact Context.discovered_takeAll _ _ _
    simp only [hvisit, Visit.isRecording, Visit.isInspection, h, hkind, Context.turnTo,
      Option.isSome_some, Bool.true_and]
    cases info.isMarkerDefinition with
    | true => rfl
    | false => rw [← Context.name_of_target h]; rfl

/-- The recorded classes are those of the visits that record, in order. -/
theorem Visits.discovered_final {visits : List Visit} (h : Visits env run visits final) :
    final.context.findings.discovered =
      run.context.findings.discovered.insertAll
        ((visits.filter fun visit => visit.isRecording env).map (·.candidate)) := by
  induction h with
  | stop h => rfl
  | @visit run candidate visits final hf hn rest ih =>
    rw [ih, discovered_visit]
    cases hr : Visit.isRecording env ⟨run, candidate⟩ <;> simp [hr]

theorem discovered_seeded (env : Environment) (scans : ScanCache) (plugins : List Plugin) :
    (seeded env scans plugins).context.findings.discovered =
      OrderedSet.ofList [env.configuration.testClass] := by
  have hcall := context_call (start env scans plugins) env
    (.bootstrap env.configuration.testClass)
  refine (Context.discovered_enqueueAll _ _).trans ?_
  rw [← context, hcall, Context.discovered_takeAll]
  exact Context.discovered_enqueueAll
    ((Context.start env scans).discover env.configuration.testClass)
    [env.configuration.testClass]

/-- The names of the recording visits are the inspected names that are no marker definitions. -/
theorem map_candidate_recording (env : Environment) (visits : List Visit) :
    (visits.filter fun visit => visit.isRecording env).map (·.candidate) =
      ((visits.filter fun visit => visit.isInspection env).map (·.candidate)).filter
        fun name => !env.isMarkerDefinition name := by
  rw [List.filter_map, List.filter_filter]
  congr 1
  refine List.filter_congr fun visit _ => ?_
  rw [Visit.isRecording, Bool.and_comm]
  rfl

theorem toList_discovered_complete (hf : (complete env scans plugins).failure = none) :
    (complete env scans plugins).context.findings.discovered.toList =
      env.configuration.testClass :: (complete env scans plugins).trail.inspected.filter
        fun name => decide (name ≠ env.configuration.testClass) &&
          !env.isMarkerDefinition name := by
  have hnodup : ((complete env scans plugins).trail.inspected.filter
      fun name => !env.isMarkerDefinition name).Nodup := (nodup_inspected hf).filter _
  have hdiscovered := (visits_complete env scans plugins).discovered_final
  rw [discovered_seeded, map_candidate_recording] at hdiscovered
  rw [trail_complete] at hnodup ⊢
  rw [hdiscovered, OrderedSet.toList_insertAll_of_nodup hnodup, List.filter_filter]
  refine congrArg (List.cons env.configuration.testClass) (List.filter_congr fun name _ => ?_)
  simp [OrderedSet.mem_ofList]

theorem mem_discovered_complete {name : ClassName}
    (hf : (complete env scans plugins).failure = none) :
    name ∈ (complete env scans plugins).context.findings.discovered ↔
      name = env.configuration.testClass ∨
        name ∈ (complete env scans plugins).trail.inspected ∧
          env.isMarkerDefinition name = false := by
  rw [OrderedSet.mem_def, toList_discovered_complete hf, List.mem_cons, List.mem_filter]
  by_cases htest : name = env.configuration.testClass <;> simp [htest]

/-- The test class is the first node. -/
theorem head_names_firsts (env : Environment) (scans : ScanCache) (plugins : List Plugin) :
    ∃ rest, Offer.names (Offer.firsts (offers env scans plugins)) =
      env.configuration.testClass :: rest := by
  obtain ⟨news, hnews, -⟩ := Offer.firsts_append [⟨none, env.configuration.testClass⟩]
    ((offers env scans plugins).tail)
  exact ⟨Offer.names news, by
    rw [show offers env scans plugins =
      [⟨none, env.configuration.testClass⟩] ++ (offers env scans plugins).tail from rfl,
      hnews, Offer.names_append]
    rfl⟩

theorem discovered_sublist_nodes (hf : (complete env scans plugins).failure = none) :
    (complete env scans plugins).context.findings.discovered.toList.Sublist
      (complete env scans plugins).context.findings.graph.nodes.toList := by
  obtain ⟨rest, hrest⟩ := head_names_firsts env scans plugins
  have htaken : (complete env scans plugins).trail.inspected.Sublist
      (env.configuration.testClass :: rest) := by
    rw [← hrest, ← candidates_complete hf, trail_complete]
    exact List.filter_sublist.map _
  have hothers := htaken.filter fun name =>
    decide (name ≠ env.configuration.testClass) && !env.isMarkerDefinition name
  rw [List.filter_cons_of_neg (by simp)] at hothers
  rw [toList_discovered_complete hf, nodes_complete, hrest]
  exact (hothers.trans List.filter_sublist).cons_cons _

/-- The deployed classes of a run that ends well: the test class, then the inspected classes other than
marker definitions in the order of their visits, without what was left out in the end. A visit inspects
when its name is inspectable at that moment. Hence no class is deployed twice, and the classes stand in
the order of the nodes of the graph. -/
theorem discovered_of_report {assembler : Assembler} {report : Report}
    (h : (complete env scans plugins).report assembler = .ok report) :
    let inspected := ((visits env scans plugins).filter fun visit =>
      decide (visit.before.context.Inspectable env visit.candidate)).map (·.candidate)
    (complete env scans plugins).trail.taken = (visits env scans plugins).map (·.candidate) ∧
    (complete env scans plugins).trail.inspected = inspected ∧
    inspected.Nodup ∧
    report.descriptor.discovered.toList =
      (env.configuration.testClass :: inspected.filter fun name =>
        decide (name ≠ env.configuration.testClass) && !env.isMarkerDefinition name).filter
          (fun name => decide (name ∉ (complete env scans plugins).context.findings.ignored)) ∧
    report.descriptor.discovered.toList.Nodup ∧
    report.descriptor.discovered.toList.Sublist report.graph.nodes.toList := by
  intro inspected
  have hf := failure_of_report h
  have htrail := trail_complete env scans plugins
  have hinspected : (complete env scans plugins).trail.inspected = inspected := by
    rw [htrail]
    refine congrArg (List.map _) (List.filter_congr fun visit _ => ?_)
    exact Bool.eq_iff_iff.2 (Context.target?_isSome_iff.trans (by simp))
  have hdiscovered := toList_discovered_complete hf
  rw [hinspected] at hdiscovered
  obtain rfl := eq_of_report h
  refine ⟨by rw [htrail], hinspected, hinspected ▸ nodup_inspected hf, ?_,
    OrderedSet.nodup _, List.filter_sublist.trans (discovered_sublist_nodes hf)⟩
  rw [← hdiscovered]
  rfl

theorem discovered_circle :
    (complete circle {} [circlePlugin]).report {} = .ok circleReport ∧
    (complete circle {} [circlePlugin]).trail.inspected =
      ((visits circle {} [circlePlugin]).filter fun visit =>
        decide (visit.before.context.Inspectable circle visit.candidate)).map (·.candidate) ∧
    circleReport.descriptor.discovered.toList.Sublist circleReport.graph.nodes.toList := by
  obtain ⟨-, hinspected, -, -, -, hsublist⟩ := discovered_of_report report_circle
  exact ⟨report_circle, hinspected, hsublist⟩

end Run
end BeanDiscovery
