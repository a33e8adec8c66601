import BeanDiscovery.Proofs.BuiltInPlugins
import BeanDiscovery.Proofs.ShortestPaths

/-!
# What the traversal reaches

A name is a node of the graph when it was offered before the traversal or by an inspected class, and the
edge into it comes from the first inspected class that offered it. The main statement says for the default
plugins that the graph is exactly what the inspected classes refer to, expand to and need for proxies.
-/
namespace BeanDiscovery

namespace Run
open Offer
variable {env : Environment} {scans : ScanCache} {plugins : List Plugin} {name : ClassName}

/-! ## Offers of inspected classes -/

/-- A run that ends well visits a name once. -/
theorem eq_of_candidate_eq (hf : (complete env scans plugins).failure = none) {first second : Visit}
    (hfirst : first ∈ visits env scans plugins) (hsecond : second ∈ visits env scans plugins)
    (h : first.candidate = second.candidate) : first = second :=
  List.inj_on_of_nodup_map (nodup_taken hf) hfirst hsecond h

theorem inspected_complete (env : Environment) (scans : ScanCache) (plugins : List Plugin) :
    (complete env scans plugins).trail.inspected =
      ((visits env scans plugins).filter fun visit => visit.isInspection env).map (·.candidate) :=
  congrArg Trail.inspected (trail_complete env scans plugins)

theorem mem_inspected : name ∈ (complete env scans plugins).trail.inspected ↔
    ∃ visit ∈ visits env scans plugins, visit.candidate = name ∧
      ∃ info, visit.before.context.target? env visit.candidate = some info := by
  rw [inspected_complete]
  simp only [List.mem_map, List.mem_filter, Visit.isInspection, Option.isSome_iff_exists]
  constructor
  · rintro ⟨visit, ⟨hvisit, htarget⟩, hname⟩
    exact ⟨visit, hvisit, hname, htarget⟩
  · rintro ⟨visit, hvisit, hname, htarget⟩
    exact ⟨visit, ⟨hvisit, htarget⟩, hname⟩

/-- The classes that a run inspected, in order. -/
def inspectedClasses (run : Run) (env : Environment) : List ClassInfo :=
  run.trail.inspected.filterMap env.registry.resolve

/-- The inspected classes are those of the visits, in order. -/
theorem inspectedClasses_complete (env : Environment) (scans : ScanCache) (plugins : List Plugin) :
    (complete env scans plugins).inspectedClasses env =
      (visits env scans plugins).filterMap fun visit =>
        visit.before.context.target? env visit.candidate := by
  rw [inspectedClasses, inspected_complete, List.filterMap_map, List.filterMap_filter]
  refine List.filterMap_congr fun visit _ => ?_
  cases ht : visit.before.context.target? env visit.candidate with
  | none => simp [Visit.isInspection, ht]
  | some info => simp [Visit.isInspection, ht, Context.resolve_of_target ht]

/-- The classes inspected before a class are those of the visits before its visit. -/
theorem inspectedClasses_split {earlier later : List ClassInfo} {info : ClassInfo}
    (h : (complete env scans plugins).inspectedClasses env = earlier ++ info :: later) :
    ∃ before visit after, visits env scans plugins = before ++ visit :: after ∧
      visit.before.context.target? env visit.candidate = some info ∧
      ∀ other ∈ before, ∀ found, other.before.context.target? env other.candidate = some found →
        found ∈ earlier := by
  rw [inspectedClasses_complete] at h
  obtain ⟨front, back, hvisits, rfl, hback⟩ := List.filterMap_eq_append_iff.1 h
  obtain ⟨skipped, visit, after, rfl, hskipped, ht, -⟩ := List.filterMap_eq_cons_iff.1 hback
  refine ⟨front ++ skipped, visit, after, ?_, ht, fun other hother found hfound => ?_⟩
  · rw [hvisits, List.append_assoc]
  · rcases List.mem_append.1 hother with hfront | hmem
    · exact List.mem_filterMap.2 ⟨other, hfront, hfound⟩
    · cases (hskipped other hmem).symm.trans hfound

theorem map_name_inspectedClasses (env : Environment) (scans : ScanCache) (plugins : List Plugin) :
    ((complete env scans plugins).inspectedClasses env).map (·.name) =
      (complete env scans plugins).trail.inspected := by
  rw [inspectedClasses_complete, inspected_complete, List.map_filterMap, ← List.filterMap_eq_map,
    List.filterMap_filter]
  refine List.filterMap_congr fun visit _ => ?_
  cases ht : visit.before.context.target? env visit.candidate with
  | none => simp [Visit.isInspection, ht]
  | some info => simp [Visit.isInspection, ht, Context.name_of_target ht]

theorem mem_skipped : name ∈ (complete env scans plugins).trail.skipped ↔
      ∃ visit ∈ visits env scans plugins, visit.candidate = name ∧
        visit.isInspection env = false := by
  rw [congrArg Trail.skipped (trail_complete env scans plugins)]
  simp only [List.mem_map, List.mem_filter, Bool.not_eq_true', and_assoc]
  exact exists_congr fun visit => and_congr_right fun _ => and_comm

section Turn
variable {turn : Visit} (hf : (complete env scans plugins).failure = none)
  (hturn : turn ∈ visits env scans plugins)
include hf hturn

theorem mem_inspected_iff : turn.candidate ∈ (complete env scans plugins).trail.inspected ↔
    turn.isInspection env = true := by
  rw [mem_inspected]
  constructor
  · rintro ⟨visit, hvisit, hname, info, ht⟩
    obtain rfl := eq_of_candidate_eq hf hvisit hturn hname
    rw [Visit.isInspection, ht]
    rfl
  · intro hinspection
    obtain ⟨info, hinfo⟩ := Option.isSome_iff_exists.1 hinspection
    exact ⟨turn, hturn, rfl, info, hinfo⟩

theorem mem_skipped_iff : turn.candidate ∈ (complete env scans plugins).trail.skipped ↔
    turn.isInspection env = false := by
  rw [mem_skipped]
  constructor
  · rintro ⟨visit, hvisit, hname, hskipped⟩
    obtain rfl := eq_of_candidate_eq hf hvisit hturn hname
    exact hskipped
  · exact fun hskipped => ⟨turn, hturn, rfl, hskipped⟩

end Turn

theorem target?_of_mem_offersAt {run : Run} {candidate : ClassName}
    (h : name ∈ run.offersAt env candidate) :
    ∃ info, run.context.target? env candidate = some info := by
  cases ht : run.context.target? env candidate with
  | none =>
    rw [offersAt_of_skipped ht] at h
    exact (List.not_mem_nil h).elim
  | some info => exact ⟨info, rfl⟩

theorem isInspection_of_mem_offersAt {visit : Visit}
    (h : name ∈ visit.before.offersAt env visit.candidate) : visit.isInspection env = true := by
  obtain ⟨info, ht⟩ := target?_of_mem_offersAt h
  rw [Visit.isInspection, ht]
  rfl

/-- In a run that ends well the classes that offer names are the inspected ones, and they offer what the
plugins plan for them. -/
theorem offers_iff_plan (h : ∀ plugin ∈ plugins, plugin.Truthful env.registry)
    (hf : (complete env scans plugins).failure = none) {origin : ClassName} :
    Offers env scans plugins origin name ↔
      origin ∈ (complete env scans plugins).trail.inspected ∧
        ∃ info, env.registry.resolve origin = some info ∧
          name ∈ (Plugin.planAll env (complete env scans plugins).context.scans plugins
            info.hookPoints).flatMap
              (·.offers env.registry (complete env scans plugins).context.scans) := by
  rw [mem_inspected]
  constructor
  · rintro ⟨visit, hvisit, rfl, hname⟩
    obtain ⟨info, ht⟩ := target?_of_mem_offersAt hname
    rw [offersAt_eq h hf hvisit ht] at hname
    exact ⟨⟨visit, hvisit, rfl, info, ht⟩, info, Context.resolve_of_target ht, hname⟩
  · rintro ⟨⟨visit, hvisit, rfl, info, ht⟩, other, hother, hname⟩
    cases hother.symm.trans (Context.resolve_of_target ht)
    rw [← offersAt_eq h hf hvisit ht] at hname
    exact ⟨visit, hvisit, rfl, hname⟩

/-- If the plugins offer nothing before the traversal, the seeds are those of the configuration. -/
theorem seedOffers_of_silent (h : ∀ plugin ∈ plugins, plugin.Truthful env.registry)
    (hsilent : ∀ plugin ∈ plugins, ∀ memory,
      plugin.offers env memory (.bootstrap env.configuration.testClass) = [])
    (hf : (complete env scans plugins).failure = none) :
    seedOffers env scans plugins =
      env.configuration.testClass :: env.configuration.additionalClasses := by
  have hbootstrap : (Plugin.planAll env (complete env scans plugins).context.scans plugins
      [.bootstrap env.configuration.testClass]).flatMap
        (·.offers env.registry (complete env scans plugins).context.scans) = [] := by
    refine List.eq_nil_iff_forall_not_mem.2 fun name hname => ?_
    obtain ⟨point, hpoint, plugin, hplugin, hoffer⟩ := Plugin.mem_offers_planAll.1 hname
    obtain rfl := List.mem_singleton.1 hpoint
    rw [hsilent plugin hplugin] at hoffer
    exact List.not_mem_nil hoffer
  rw [seedOffers_eq h hf, hbootstrap, List.nil_append]

/-! ## Nodes and edges -/

theorem mem_nodes_complete :
    name ∈ (complete env scans plugins).context.findings.graph.nodes ↔
      name ∈ seedOffers env scans plugins ∨ ∃ origin, Offers env scans plugins origin name := by
  rw [OrderedSet.mem_def, nodes_complete, mem_names_firsts, offers, names_append, List.mem_append]
  refine or_congr ?_ ?_
  · simp [seedLog, names]
  · simp only [names, List.mem_map, List.mem_flatMap, Offers]
    constructor
    · rintro ⟨_, ⟨visit, hvisit, hoffer⟩, rfl⟩
      obtain ⟨name, hname, rfl⟩ := List.mem_map.1 hoffer
      exact ⟨visit.candidate, visit, hvisit, rfl, hname⟩
    · rintro ⟨_, visit, hvisit, rfl, hname⟩
      exact ⟨_, ⟨visit, hvisit, List.mem_map_of_mem hname⟩, rfl⟩

/-- The first offer of a name in a visit comes from the class under inspection. -/
theorem find?_offers_visit (visit : Visit) (name : ClassName) :
    (visit.offers env).find? (fun offer => decide (offer.name = name)) =
      if name ∈ visit.before.offersAt env visit.candidate
        then some ⟨some visit.candidate, name⟩ else none := by
  rw [Visit.offers]
  induction visit.before.offersAt env visit.candidate with
  | nil => rfl
  | cons other names ih =>
    by_cases hother : other = name
    · simp [hother]
    · simp [hother, Ne.symm hother, ih]

/-- An edge leads from the first visit in which a name was offered that was not offered before the
traversal. -/
theorem mem_edges_iff_visit {origin : ClassName} :
    (origin, name) ∈ (complete env scans plugins).context.findings.graph.edges ↔
      name ∉ seedOffers env scans plugins ∧
        ∃ before visit after, visits env scans plugins = before ++ visit :: after ∧
          name ∈ visit.before.offersAt env visit.candidate ∧ visit.candidate = origin ∧
          ∀ earlier ∈ before, name ∉ earlier.before.offersAt env earlier.candidate := by
  refine (recorded_complete env scans plugins).mem_edges.trans ?_
  rw [← find?_eq_some_iff_mem_firsts, offers, List.find?_append, List.find?_flatMap]
  simp only [find?_offers_visit]
  cases hseed : (seedLog env scans plugins).find? fun offer => decide (offer.name = name) with
  | some offer =>
    obtain ⟨seed, hmem, rfl⟩ := List.mem_map.1 (List.mem_of_find?_eq_some hseed)
    obtain rfl : seed = name := by simpa using List.find?_some hseed
    simp [hmem]
  | none =>
    have hname : name ∉ seedOffers env scans plugins := fun hmem => by
      simpa using List.find?_eq_none.1 hseed ⟨none, name⟩ (List.mem_map_of_mem hmem)
    rw [Option.none_or, List.findSome?_eq_some_iff]
    simp only [hname, not_false_eq_true, true_and, Option.ite_none_right_eq_some, Option.some.injEq,
      Offer.mk.injEq, and_true, ite_eq_right_iff, reduceCtorEq, imp_false, and_assoc]

/-- The classes inspected before a class are those of the visits before its visit. -/
theorem inspected_split {earlier later : List ClassName} {origin : ClassName}
    (h : (complete env scans plugins).trail.inspected = earlier ++ origin :: later) :
    ∃ before visit after, visits env scans plugins = before ++ visit :: after ∧
      visit.candidate = origin ∧
      (before.filter fun visit => visit.isInspection env).map (·.candidate) = earlier := by
  rw [inspected_complete] at h
  obtain ⟨first, second, hfilter, rfl, hsecond⟩ := List.map_eq_append_iff.1 h
  obtain ⟨visit, rest, rfl, rfl, -⟩ := List.map_eq_cons_iff.1 hsecond
  obtain ⟨front, back, hvisits, rfl, hback⟩ := List.filter_eq_append_iff.1 hfilter
  obtain ⟨skipped, after, rfl, hskipped, -, -⟩ := List.filter_eq_cons_iff.1 hback
  refine ⟨front ++ skipped, visit, after, ?_, rfl, ?_⟩
  · rw [hvisits, List.append_assoc]
  · rw [List.filter_append, List.filter_eq_nil_iff.2 hskipped, List.append_nil]

/-- The edge into a name that was not offered before the traversal leads from the first inspected class
that offered it. -/
theorem mem_edges_complete (hf : (complete env scans plugins).failure = none) {origin : ClassName} :
    (origin, name) ∈ (complete env scans plugins).context.findings.graph.edges ↔
      name ∉ seedOffers env scans plugins ∧ Offers env scans plugins origin name ∧
        ∃ earlier later,
          (complete env scans plugins).trail.inspected = earlier ++ origin :: later ∧
          ∀ other ∈ earlier, ¬ Offers env scans plugins other name := by
  rw [mem_edges_iff_visit]
  refine and_congr_right fun _ => ?_
  constructor
  · rintro ⟨before, visit, after, hvisits, hname, rfl, hbefore⟩
    have hmem : visit ∈ visits env scans plugins := hvisits ▸ List.mem_append_right _ List.mem_cons_self
    refine ⟨⟨visit, hmem, rfl, hname⟩,
      (before.filter fun visit => visit.isInspection env).map (·.candidate),
      (after.filter fun visit => visit.isInspection env).map (·.candidate), ?_, ?_⟩
    · rw [inspected_complete, hvisits, List.filter_append,
        List.filter_cons_of_pos (isInspection_of_mem_offersAt hname), List.map_append, List.map_cons]
    · rintro other hother ⟨again, hagain, hsame, hoffered⟩
      obtain ⟨first, hfirst, rfl⟩ := List.mem_map.1 hother
      have hfirst : first ∈ before := (List.mem_filter.1 hfirst).1
      obtain rfl := eq_of_candidate_eq hf hagain
        (hvisits ▸ List.mem_append_left _ hfirst) hsame
      exact hbefore _ hfirst hoffered
  · rintro ⟨⟨again, hagain, hsame, hoffered⟩, earlier, later, hinspected, hearlier⟩
    obtain ⟨before, visit, after, hvisits, rfl, rfl⟩ := inspected_split hinspected
    have hmem : visit ∈ visits env scans plugins := hvisits ▸ List.mem_append_right _ List.mem_cons_self
    obtain rfl := eq_of_candidate_eq hf hagain hmem hsame
    refine ⟨before, again, after, hvisits, hoffered, rfl, fun first hfirst hname => ?_⟩
    have hinspected : first ∈ before.filter fun visit => visit.isInspection env :=
      List.mem_filter.2 ⟨hfirst, isInspection_of_mem_offersAt hname⟩
    exact hearlier _ (List.mem_map_of_mem hinspected)
      ⟨first, hvisits ▸ List.mem_append_left _ hfirst, rfl, hname⟩

end Run

/-- A class asks for the names it refers to, those that a memory of scans holds for the archives and
packages it expands to, and those of the proxy machinery it needs. -/
def Environment.AsksFor (env : Environment) (memory : ScanCache) (package : String)
    (origin name : ClassName) : Prop :=
  ∃ info, env.registry.resolve origin = some info ∧
    (info.Refers env.registry package name ∨ info.Expands env.registry memory package name ∨
      info.NeedsProxies env.registry memory name)

namespace Run
variable {env : Environment} {scans : ScanCache}

/-- With the default plugins every node is the test class, an additional class, or what an inspected class
asks for, whether or not the run ends well. -/
theorem source_of_mem_nodes {package : String} {name : ClassName}
    (h : name ∈ (complete env scans (Plugin.defaultSet package)).context.findings.graph.nodes) :
    name = env.configuration.testClass ∨ name ∈ env.configuration.additionalClasses ∨
      ∃ origin ∈ (complete env scans (Plugin.defaultSet package)).trail.inspected,
        env.AsksFor (complete env scans (Plugin.defaultSet package)).context.scans package origin
          name := by
  have htruthful := Plugin.truthful_defaultSet env.registry package
  rcases mem_nodes_complete.1 h with hseed | ⟨_, visit, hvisit, rfl, hname⟩
  · rcases List.mem_cons.1 (seedOffers_subset htruthful scans hseed) with rfl | hseed
    · exact Or.inl rfl
    · refine Or.inr (Or.inl ((List.mem_append.1 hseed).resolve_left fun hplan => ?_))
      obtain ⟨point, hpoint, plugin, hplugin, hoffer⟩ := Plugin.mem_offers_planAll.1 hplan
      obtain rfl := List.mem_singleton.1 hpoint
      rw [Plugin.offers_defaultSet_bootstrap hplugin] at hoffer
      exact List.not_mem_nil hoffer
  · obtain ⟨info, ht⟩ := target?_of_mem_offersAt hname
    refine Or.inr (Or.inr ⟨visit.candidate, mem_inspected.2 ⟨visit, hvisit, rfl, info, ht⟩, info,
      Context.resolve_of_target ht, ?_⟩)
    exact Plugin.mem_offers_defaultSet.1 (offersAt_subset htruthful hvisit ht hname)

/-- With the default plugins the graph of a run that ends well is what its inspected classes ask for. An
inspected class offers the names it asks for, and every scan it asks for has an answer. The nodes are the
test class, the additional classes and the offered names. Into a name that is neither the test class nor
an additional class leads an edge from the first inspected class that asks for it, and no other edge. -/
theorem traversal_of_report {package : String} {assembler : Assembler} {report : Report}
    (h : (complete env scans (Plugin.defaultSet package)).report assembler = .ok report) :
    let run := complete env scans (Plugin.defaultSet package)
    let inspected := run.trail.inspected
    let asks := env.AsksFor run.context.scans package
    (∀ origin name, Offers env scans (Plugin.defaultSet package) origin name ↔
      origin ∈ inspected ∧ asks origin name) ∧
    (∀ origin ∈ inspected, ∃ info, env.registry.resolve origin = some info ∧
      info.ScansRemembered env.registry run.context.scans package) ∧
    (∀ name, name ∈ report.graph.nodes ↔
      name = env.configuration.testClass ∨ name ∈ env.configuration.additionalClasses ∨
        ∃ origin ∈ inspected, asks origin name) ∧
    ∀ origin name, (origin, name) ∈ report.graph.edges ↔
      name ≠ env.configuration.testClass ∧ name ∉ env.configuration.additionalClasses ∧
        asks origin name ∧ ∃ earlier later, inspected = earlier ++ origin :: later ∧
          ∀ other ∈ earlier, ¬ asks other name := by
  intro run inspected asks
  have hf := failure_of_report h
  have htruthful := Plugin.truthful_defaultSet env.registry package
  have hseeds := seedOffers_of_silent htruthful
    (fun plugin hplugin _ => Plugin.offers_defaultSet_bootstrap hplugin _) hf
  obtain rfl := eq_of_report h
  have hoffers : ∀ origin name, Offers env scans (Plugin.defaultSet package) origin name ↔
      origin ∈ inspected ∧ asks origin name := fun origin name => by
    rw [offers_iff_plan htruthful hf]
    simp only [Plugin.mem_offers_defaultSet]
    exact Iff.rfl
  refine ⟨hoffers, fun origin horigin => ?_, fun name => ?_, fun origin name => ?_⟩
  · obtain ⟨visit, hvisit, rfl, info, ht⟩ := mem_inspected.1 horigin
    exact ⟨info, Context.resolve_of_target ht,
      Plugin.scansRemembered_of_answered (answered_of_visit htruthful hf hvisit ht)⟩
  · refine mem_nodes_complete.trans ?_
    simp only [hseeds, List.mem_cons, hoffers, or_assoc]
  · refine (mem_edges_complete hf).trans ?_
    rw [hseeds, List.mem_cons, not_or, and_assoc]
    refine and_congr_right fun _ => and_congr_right fun _ => ?_
    constructor
    · rintro ⟨hoffer, earlier, later, hinspected, hearlier⟩
      refine ⟨((hoffers _ _).1 hoffer).2, earlier, later, hinspected, fun other hother hasks => ?_⟩
      have hmem : other ∈ inspected := 
        (congrArg (other ∈ ·) hinspected).mpr (List.mem_append_left _ hother)
      exact hearlier other hother ((hoffers _ _).2 ⟨hmem, hasks⟩)
    · rintro ⟨hasks, earlier, later, hinspected, hearlier⟩
      have hmem : origin ∈ inspected :=
        (congrArg (origin ∈ ·) hinspected).mpr (List.mem_append_right _ List.mem_cons_self)
      exact ⟨(hoffers _ _).2 ⟨hmem, hasks⟩, earlier, later, hinspected,
        fun other hother hoffer => hearlier other hother ((hoffers _ _).1 hoffer).2⟩

/-! ## A class from a library -/

/-- The test asks for the archive of a library and injects a class of its own. -/
def libraryTest : ClassInfo where
  name := ⟨"com.example.ATest"⟩
  location := some ⟨"file:///cp/app/"⟩
  markers := [{ name := Vocabulary.additionalClasspaths, value := [⟨"org.lib.L"⟩] }]
  fields := [{ name := "c", declared := .cls ⟨"com.example.C"⟩
               markers := [{ name := Vocabulary.inject }] }]

/-- The class of the library extends the class that the test injects. -/
def libraryClass : ClassInfo where
  name := ⟨"org.lib.L"⟩
  location := some ⟨"file:///cp/lib/"⟩
  superclass := some (.cls ⟨"com.example.C"⟩)

def library : Environment where
  registry := (TypeRegistry.initial.addRoot ⟨"file:///cp/app/"⟩ true).registerAll
    [libraryTest, libraryClass,
      { name := ⟨"com.example.C"⟩, location := some ⟨"file:///cp/app/"⟩ }]
  configuration := { testClass := ⟨"com.example.ATest"⟩ }

theorem complete_library :
    complete library {} (Plugin.defaultSet Vocabulary.frameworkPackage) =
      [⟨"com.example.ATest"⟩, ⟨"org.lib.L"⟩, ⟨"com.example.C"⟩].foldl
        (fun run name => run.visit library name)
        (seeded library {} (Plugin.defaultSet Vocabulary.frameworkPackage)) :=
  drain_of_isRoute (by decide +kernel) _

/-- The class of the library asks for the injected class too, but the test did so first. -/
def libraryReport : Report where
  descriptor :=
    { discovered := .ofList [⟨"com.example.ATest"⟩, ⟨"org.lib.L"⟩, ⟨"com.example.C"⟩]
      extensions := [⟨.testScope library.configuration,
        "io.github.beanscope.testscope.TestScopeDiscovery"⟩] }
  graph :=
    { nodes := .ofList [⟨"com.example.ATest"⟩, ⟨"org.lib.L"⟩, ⟨"com.example.C"⟩]
      edges := .ofList [(⟨"com.example.ATest"⟩, ⟨"org.lib.L"⟩),
        (⟨"com.example.ATest"⟩, ⟨"com.example.C"⟩)] }
  stats := ⟨3, 3, 0⟩

theorem report_library :
    (complete library {} (Plugin.defaultSet Vocabulary.frameworkPackage)).report {} =
      .ok libraryReport := by
  rw [complete_library]
  decide +kernel

theorem traversal_library :
    (complete library {} (Plugin.defaultSet Vocabulary.frameworkPackage)).report {} =
      .ok libraryReport ∧
    library.AsksFor
      (complete library {} (Plugin.defaultSet Vocabulary.frameworkPackage)).context.scans
      Vocabulary.frameworkPackage ⟨"com.example.ATest"⟩ ⟨"org.lib.L"⟩ ∧
    ∃ earlier later,
      (complete library {} (Plugin.defaultSet Vocabulary.frameworkPackage)).trail.inspected =
        earlier ++ ⟨"com.example.ATest"⟩ :: later := by
  obtain ⟨-, -, -, hedges⟩ := traversal_of_report report_library
  obtain ⟨-, -, hasks, earlier, later, hinspected, -⟩ :=
    (hedges ⟨"com.example.ATest"⟩ ⟨"org.lib.L"⟩).1 (by decide +kernel)
  exact ⟨report_library, hasks, earlier, later, hinspected⟩

end Run
end BeanDiscovery
