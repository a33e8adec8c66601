import BeanDiscovery.Container
import BeanDiscovery.Findings
import BeanDiscovery.Frontier
import BeanDiscovery.ScanCache
import BeanDiscovery.TypeRegistry

/-! # The state of a discovery run

Each run has a context that plugins act on: they offer classes, keep classes out of the deployment,
switch classes on and hand over extensions. What a reference stands for is decided by the registry,
and scans go through the memory of earlier scans. The main statements give the frontier and the findings
after every step that a plugin may take: nothing but offers changes the frontier. -/
namespace BeanDiscovery

/-- What does not change while a run goes on. -/
structure Environment where
  registry : TypeRegistry := .initial
  scanner : Scanner := registry.scanner
  container : ContainerInterface := Container.interface {}
  configuration : TestConfiguration

inductive ClassRef where
  | ofType (type : TypeRef)
  | ofClass (name : ClassName)
  /-- A name that counts only if it can be loaded. -/
  | ofName (name : ClassName)
  deriving Inhabited

def ClassRef.identities (registry : TypeRegistry) : ClassRef → List ClassName
  | .ofType type => type.identities
  | .ofClass name => [name]
  | .ofName name => ((registry.resolve name).map (·.name)).toList

/-- A step that a plugin takes without looking at what comes of it. -/
inductive Action where
  | offer (ref : ClassRef)
  | ignore (ref : ClassRef)
  | offerPackage (ref : ClassRef)
  | offerArchive (ref : ClassRef)
  | activate (group : Activation) (ref : ClassRef)
  | register (registration : ExtensionRegistration)
  deriving Inhabited

/-- A step of a plugin: an action, or a scan whose names the plugin goes on with. -/
inductive HookStep where
  | act (action : Action)
  | scanArchives (bases : List ClassName)
  | scanPackages (bases : List ClassName)
  deriving Inhabited

/-- Enters into the findings what a step switches on or registers. -/
def HookStep.record (registry : TypeRegistry) (step : HookStep) (findings : Findings) : Findings :=
  match step with
  | .act (.activate group ref) => findings.activate group (ref.identities registry)
  | .act (.register registration) => findings.addExtension registration
  | _ => findings

structure Context where
  worklist : Worklist := {}
  findings : Findings := {}
  /-- The roots whose classes are inspected. -/
  archiveRoots : OrderedSet Url := .empty
  /-- The classes that are inspected wherever they come from. -/
  included : OrderedSet ClassName := .empty
  current : Option ClassName := none
  scans : ScanCache := {}
  deriving Inhabited

namespace Context

/-- A context in which nothing was offered yet. The bean archives and the test class will be
inspected. -/
def start (env : Environment) (scans : ScanCache) : Context :=
  let (archives, scans) := scans.beanArchiveRoots env.scanner
  { archiveRoots := .ofList archives
    included := .ofList [env.configuration.testClass]
    scans }

/-- Lets a name wait and records who offered it, unless the name is known. -/
def enqueue (context : Context) (name : ClassName) : Context :=
  if context.worklist.knows name then context
  else
    { context with
      worklist := context.worklist.enqueue name
      findings := context.findings.link context.current name }

def enqueueAll (context : Context) (names : List ClassName) : Context :=
  names.foldl enqueue context

def settle (context : Context) (name : ClassName) : Context :=
  { context with worklist := context.worklist.settle name }

def discover (context : Context) (name : ClassName) : Context :=
  { context with findings := context.findings.discover name }

def isIgnored (context : Context) (name : ClassName) : Bool :=
  decide (name ∈ context.findings.ignored)

/-- Whether a class comes from a place whose classes are inspected. -/
def covers (context : Context) (info : ClassInfo) : Bool :=
  decide (info.name ∈ context.included) ||
    info.location.any fun root => decide (root ∈ context.archiveRoots)

/-! ## Scans -/

/-- The different roots of some classes, in order; a class without a root adds none. -/
def rootsOf (registry : TypeRegistry) (bases : List ClassName) : List Url :=
  (OrderedSet.ofList (bases.filterMap registry.locationOf)).toList

/-- The classes below the roots of some classes; these roots count as bean archives from now on. -/
def scanArchives (context : Context) (env : Environment) (bases : List ClassName) :
    List ClassName × Context :=
  match rootsOf env.registry bases with
  | [] => ([], context)
  | roots =>
    let (names, scans) := context.scans.classNamesForClasspath env.scanner roots
    (names, { context with archiveRoots := context.archiveRoots.insertAll roots, scans })

/-- The classes in the package of a class below the same root; they are inspected from now on. -/
def scanPackage (context : Context) (env : Environment) (base : ClassName) :
    List ClassName × Context :=
  match env.registry.locationOf base with
  | none => ([], context)
  | some root =>
    let (names, scans) := context.scans.classNamesForPackage env.scanner base.package root
    (names, { context with included := context.included.insertAll names, scans })

def scanPackages (context : Context) (env : Environment) : List ClassName →
    List ClassName × Context
  | [] => ([], context)
  | base :: bases =>
    let (names, context) := context.scanPackage env base
    let (more, context) := context.scanPackages env bases
    (names ++ more, context)

/-! ## Actions -/

def perform (context : Context) (env : Environment) : Action → Context
  | .offer ref => context.enqueueAll (ref.identities env.registry)
  | .ignore ref =>
    { context with findings := context.findings.ignore (ref.identities env.registry) }
  | .offerPackage ref =>
    let (names, context) := context.scanPackages env (ref.identities env.registry)
    context.enqueueAll names
  | .offerArchive ref =>
    let (names, context) := context.scanArchives env (ref.identities env.registry)
    context.enqueueAll names
  | .activate group ref =>
    { context with findings := context.findings.activate group (ref.identities env.registry) }
  | .register registration =>
    { context with findings := context.findings.addExtension registration }

/-! ## What an action changes -/

theorem enqueueAll_changes (context : Context) (names : List ClassName) :
    ∃ worklist graph, context.enqueueAll names =
      { context with worklist, findings := { context.findings with graph } } := by
  induction names generalizing context with
  | nil => exact ⟨context.worklist, context.findings.graph, rfl⟩
  | cons name names ih =>
    obtain ⟨worklist, graph, h⟩ := ih (context.enqueue name)
    refine ⟨worklist, graph, h.trans ?_⟩
    rw [enqueue]
    split <;> rfl

theorem scanArchives_changes (context : Context) (env : Environment) (bases : List ClassName) :
    ∃ archiveRoots scans, (context.scanArchives env bases).2 =
      { context with archiveRoots, scans } := by
  rw [scanArchives]
  split
  · exact ⟨context.archiveRoots, context.scans, rfl⟩
  · exact ⟨_, _, rfl⟩

theorem scanPackage_changes (context : Context) (env : Environment) (base : ClassName) :
    ∃ included scans, (context.scanPackage env base).2 = { context with included, scans } := by
  rw [scanPackage]
  split
  · exact ⟨context.included, context.scans, rfl⟩
  · exact ⟨_, _, rfl⟩

theorem scanPackages_changes (context : Context) (env : Environment) (bases : List ClassName) :
    ∃ included scans, (context.scanPackages env bases).2 = { context with included, scans } := by
  induction bases generalizing context with
  | nil => exact ⟨context.included, context.scans, rfl⟩
  | cons base bases ih =>
    obtain ⟨_, _, hfirst⟩ := scanPackage_changes context env base
    obtain ⟨included, scans, hrest⟩ := ih (context.scanPackage env base).2
    refine ⟨included, scans, hrest.trans ?_⟩
    rw [hfirst]

/-! ## The steps of plugins -/

def take (context : Context) (env : Environment) : HookStep → Context
  | .act action => context.perform env action
  | .scanArchives bases => (context.scanArchives env bases).2
  | .scanPackages bases => (context.scanPackages env bases).2

def takeAll (context : Context) (env : Environment) (steps : List HookStep) : Context :=
  steps.foldl (fun context step => context.take env step) context

/-- Besides what it records, a step changes no findings but the graph and the classes left out. -/
theorem findings_take (context : Context) (env : Environment) (step : HookStep) :
    ∃ ignored graph, (context.take env step).findings =
      { step.record env.registry context.findings with ignored, graph } := by
  cases step with
  | act action =>
    cases action with
    | offer ref =>
      obtain ⟨worklist, graph, h⟩ := context.enqueueAll_changes (ref.identities env.registry)
      rw [take, perform, h]
      exact ⟨_, graph, rfl⟩
    | offerPackage ref =>
      obtain ⟨included, scans, hscan⟩ :=
        context.scanPackages_changes env (ref.identities env.registry)
      obtain ⟨worklist, graph, h⟩ :=
        (context.scanPackages env (ref.identities env.registry)).2.enqueueAll_changes
          (context.scanPackages env (ref.identities env.registry)).1
      refine ⟨context.findings.ignored, graph, (congrArg (·.findings) h).trans ?_⟩
      rw [hscan]
      rfl
    | offerArchive ref =>
      obtain ⟨archiveRoots, scans, hscan⟩ :=
        context.scanArchives_changes env (ref.identities env.registry)
      obtain ⟨worklist, graph, h⟩ :=
        (context.scanArchives env (ref.identities env.registry)).2.enqueueAll_changes
          (context.scanArchives env (ref.identities env.registry)).1
      refine ⟨context.findings.ignored, graph, (congrArg (·.findings) h).trans ?_⟩
      rw [hscan]
      rfl
    | ignore ref => exact ⟨_, context.findings.graph, rfl⟩
    | activate group ref => cases group <;> exact ⟨_, _, rfl⟩
    | register registration => exact ⟨_, _, rfl⟩
  | scanArchives bases =>
    obtain ⟨archiveRoots, scans, h⟩ := context.scanArchives_changes env bases
    rw [take, h]
    exact ⟨_, _, rfl⟩
  | scanPackages bases =>
    obtain ⟨included, scans, h⟩ := context.scanPackages_changes env bases
    rw [take, h]
    exact ⟨_, _, rfl⟩

/-- The names that a step asks to let wait, whether or not they are known. -/
def offered (context : Context) (env : Environment) : HookStep → List ClassName
  | .act (.offer ref) => ref.identities env.registry
  | .act (.offerPackage ref) => (context.scanPackages env (ref.identities env.registry)).1
  | .act (.offerArchive ref) => (context.scanArchives env (ref.identities env.registry)).1
  | _ => []

/-- The names that steps ask to let wait, one step after the other. -/
def offeredByAll (context : Context) (env : Environment) : List HookStep → List ClassName
  | [] => []
  | step :: steps => context.offered env step ++ (context.take env step).offeredByAll env steps

/-- The part of a context that offers change. -/
def frontier (context : Context) : Frontier :=
  ⟨context.worklist, context.findings.graph, context.current⟩

theorem frontier_enqueue (context : Context) (name : ClassName) :
    (context.enqueue name).frontier = context.frontier.offer name := by
  have hknows : context.frontier.worklist.knows name = context.worklist.knows name := rfl
  cases h : context.worklist.knows name with
  | true => rw [Frontier.offer_of_knows (hknows.trans h), enqueue, if_pos h]
  | false =>
    rw [Frontier.offer_of_new (hknows.trans h), enqueue, h]
    rfl

theorem frontier_enqueueAll (context : Context) (names : List ClassName) :
    (context.enqueueAll names).frontier = context.frontier.offerAll names := by
  induction names generalizing context with
  | nil => rfl
  | cons name names ih =>
    have h := ih (context.enqueue name)
    rwa [frontier_enqueue] at h

@[simp] theorem frontier_settle (context : Context) (name : ClassName) :
    (context.settle name).frontier = context.frontier.settle name := rfl

theorem frontier_scanArchives (context : Context) (env : Environment) (bases : List ClassName) :
    (context.scanArchives env bases).2.frontier = context.frontier := by
  obtain ⟨roots, scans, h⟩ := scanArchives_changes context env bases
  rw [h]
  rfl

theorem frontier_scanPackages (context : Context) (env : Environment) (bases : List ClassName) :
    (context.scanPackages env bases).2.frontier = context.frontier := by
  obtain ⟨included, scans, h⟩ := scanPackages_changes context env bases
  rw [h]
  rfl

/-- A step offers names and changes nothing else of the frontier. -/
theorem frontier_take (context : Context) (env : Environment) (step : HookStep) :
    (context.take env step).frontier = context.frontier.offerAll (context.offered env step) := by
  cases step with
  | act action =>
    cases action with
    | offer ref => exact frontier_enqueueAll context _
    | offerPackage ref =>
      rw [← frontier_scanPackages context env (ref.identities env.registry)]
      exact frontier_enqueueAll _ _
    | offerArchive ref =>
      rw [← frontier_scanArchives context env (ref.identities env.registry)]
      exact frontier_enqueueAll _ _
    | ignore ref => rfl
    | activate group ref => cases group <;> rfl
    | register registration => rfl
  | scanArchives bases => exact frontier_scanArchives context env bases
  | scanPackages bases => exact frontier_scanPackages context env bases

theorem frontier_takeAll (context : Context) (env : Environment) (steps : List HookStep) :
    (context.takeAll env steps).frontier =
      context.frontier.offerAll (context.offeredByAll env steps) := by
  induction steps generalizing context with
  | nil => rfl
  | cons step steps ih =>
    rw [offeredByAll, Frontier.offerAll_append, ← frontier_take]
    exact ih (context.take env step)

theorem takeAll_append (context : Context) (env : Environment) (first second : List HookStep) :
    context.takeAll env (first ++ second) = (context.takeAll env first).takeAll env second :=
  List.foldl_append

end Context
end BeanDiscovery
