import BeanDiscovery.Proofs.Deployment
import BeanDiscovery.Proofs.PluginRepertoire
import BeanDiscovery.Proofs.Replays

/-!
# Environments that agree

A run reads its environment in few places: it resolves names, asks which libraries are there, and scans. The
run in a second environment is compared with it. Where the second one gives the same answers the two runs
stay alike, up to the order of the archive roots, the counts of scans, and hidden names that are left out in
one of them alone. The main statement says this of whole runs with the default plugins, given that the
environments agree on what the visits of the first run read.
-/
namespace BeanDiscovery

/-! ## Probes -/

/-- A probe reads no more of a registry than whether its sentinel is there. -/
theorem LibraryProbe.askAmong_congr {registry other : TypeRegistry} {sentinel : ClassName}
    (h : other.isPresent sentinel = registry.isPresent sentinel) (probes : List LibraryProbe) :
    askAmong other sentinel probes = askAmong registry sentinel probes := by
  induction probes with
  | nil => simp only [askAmong, ask, h]
  | cons probe probes ih =>
    rw [askAmong, askAmong, ih]
    split
    next hsentinel => rw [ask, ask, hsentinel, h]
    next => rfl

/-! ## Memories -/

namespace ScanCache
variable {cache other memory : ScanCache} {scanner scanner' : Scanner}

/-- The two memories remember the same answers. -/
structure SameAnswers (cache other : ScanCache) : Prop where
  classpath : other.classpathScans = cache.classpathScans
  package : other.packageScans = cache.packageScans

theorem sameAnswers_beanArchiveRoots (cache : ScanCache) (scanner : Scanner) :
    cache.SameAnswers (cache.beanArchiveRoots scanner).2 := by
  unfold beanArchiveRoots classpathRoots
  cases cache.archives with
  | some archives => exact ⟨rfl, rfl⟩
  | none => cases cache.roots <;> exact ⟨rfl, rfl⟩

/-- A memory without answers names the bean archives of the registry. -/
theorem mem_beanArchiveRoots_fresh {registry : TypeRegistry} {root : Url} :
    root ∈ (({} : ScanCache).beanArchiveRoots registry.scanner).1 ↔
      registry.isBeanArchive root = true := by
  refine List.mem_filter.trans (and_iff_right_of_imp fun harchive => Table.get?_isSome.1 ?_)
  rw [TypeRegistry.isBeanArchive] at harchive
  cases hroot : registry.roots.get? root with
  | none =>
    rw [hroot] at harchive
    cases harchive
  | some beanArchive => rfl

theorem SameAnswers.symm (h : cache.SameAnswers other) : other.SameAnswers cache :=
  ⟨h.classpath.symm, h.package.symm⟩

theorem SameAnswers.trans {third : ScanCache} (h : cache.SameAnswers other)
    (h' : other.SameAnswers third) : cache.SameAnswers third :=
  ⟨h'.classpath.trans h.classpath, h'.package.trans h.package⟩

/-- A request that is new to both memories gets the same answer, if the second scanner finds what the first
one found. -/
theorem SameAnswers.classNamesForClasspath (h : cache.SameAnswers other) {roots : List Url}
    (hroots : roots ≠ [])
    (hscan : scanner.classNames roots = memory.namesBelow roots →
      scanner'.classNames roots = memory.namesBelow roots)
    (hmemory : (cache.classNamesForClasspath scanner roots).2.Within memory) :
    (other.classNamesForClasspath scanner' roots).1 =
        (cache.classNamesForClasspath scanner roots).1 ∧
      (cache.classNamesForClasspath scanner roots).2.SameAnswers
        (other.classNamesForClasspath scanner' roots).2 := by
  have hfound := classNamesForClasspath_eq hroots hmemory
  have hother := congrArg (·.get? (classpathKey roots)) h.classpath
  cases hkey : cache.classpathScans.get? (classpathKey roots) with
  | some names =>
    rw [classNamesForClasspath_of_known hkey, classNamesForClasspath_of_known (hother.trans hkey)]
    exact ⟨rfl, h.classpath, h.package⟩
  | none =>
    simp only [ScanCache.classNamesForClasspath, hkey] at hfound
    simp only [ScanCache.classNamesForClasspath, hkey, hother.trans hkey, hscan hfound, ← hfound]
    exact ⟨trivial, congrArg (fun table : Table String (List ClassName) =>
      table.insert (classpathKey roots) (scanner.classNames roots)) h.classpath, h.package⟩

theorem SameAnswers.classNamesForPackage (h : cache.SameAnswers other) {package : String} {root : Url}
    (hscan : scanner.packageClassNames package root = memory.namesInPackage package root →
      scanner'.packageClassNames package root = memory.namesInPackage package root)
    (hmemory : (cache.classNamesForPackage scanner package root).2.Within memory) :
    (other.classNamesForPackage scanner' package root).1 =
        (cache.classNamesForPackage scanner package root).1 ∧
      (cache.classNamesForPackage scanner package root).2.SameAnswers
        (other.classNamesForPackage scanner' package root).2 := by
  have hfound := classNamesForPackage_eq hmemory
  have hother := congrArg (·.get? (packageKey package root)) h.package
  cases hkey : cache.packageScans.get? (packageKey package root) with
  | some names =>
    rw [classNamesForPackage_of_known hkey, classNamesForPackage_of_known (hother.trans hkey)]
    exact ⟨rfl, h.classpath, h.package⟩
  | none =>
    simp only [ScanCache.classNamesForPackage, hkey] at hfound
    simp only [ScanCache.classNamesForPackage, hkey, hother.trans hkey, hscan hfound, ← hfound]
    exact ⟨trivial, h.classpath, congrArg (fun table : Table String (List ClassName) =>
      table.insert (packageKey package root) (scanner.packageClassNames package root)) h.package⟩

end ScanCache

/-! ## Agreement on a step -/

/-- Types are resolved and class paths are scanned in one registry. -/
def Environment.inMemory (registry : TypeRegistry) (container : ContainerInterface)
    (configuration : TestConfiguration) : Environment := { registry, container, configuration }

/-- The second environment has the same roots for some classes, and finds below them what a memory holds if
the first one does. -/
structure Environment.AgreeOnArchives (env env' : Environment) (memory : ScanCache)
    (bases : List ClassName) : Prop where
  roots : Context.rootsOf env'.registry bases = Context.rootsOf env.registry bases
  names : env.scanner.classNames (Context.rootsOf env.registry bases) =
      memory.archiveNames env.registry bases →
    env'.scanner.classNames (Context.rootsOf env.registry bases) =
      memory.archiveNames env.registry bases

/-- The second environment has the same roots for some classes, and finds in their packages what a memory
holds if the first one does. -/
structure Environment.AgreeOnPackages (env env' : Environment) (memory : ScanCache)
    (bases : List ClassName) : Prop where
  root : ∀ base ∈ bases, env'.registry.locationOf base = env.registry.locationOf base
  names : ∀ base ∈ bases, ∀ root, env.registry.locationOf base = some root →
    env.scanner.packageClassNames base.package root = memory.namesInPackage base.package root →
      env'.scanner.packageClassNames base.package root = memory.namesInPackage base.package root

/-- Two environments agree on a step if it stands for the same names and finds the same ones in both. What it
leaves out may differ in hidden names. -/
def HookStep.Agrees (env env' : Environment) (hidden : ClassName → Prop) (memory : ScanCache) :
    HookStep → Prop
  | .act (.offer ref) => ref.identities env'.registry = ref.identities env.registry
  | .act (.ignore ref) => ∀ name, ¬ hidden name →
    (name ∈ ref.identities env'.registry ↔ name ∈ ref.identities env.registry)
  | .act (.offerPackage ref) =>
    ref.identities env'.registry = ref.identities env.registry ∧
      env.AgreeOnPackages env' memory (ref.identities env.registry)
  | .act (.offerArchive ref) =>
    ref.identities env'.registry = ref.identities env.registry ∧
      env.AgreeOnArchives env' memory (ref.identities env.registry)
  | .act (.activate _ ref) => ref.identities env'.registry = ref.identities env.registry
  | .act (.register _) => True
  | .scanArchives bases => env.AgreeOnArchives env' memory bases
  | .scanPackages bases => env.AgreeOnPackages env' memory bases

/-! ## Contexts -/

namespace Context
variable {env env' : Environment} {hidden : ClassName → Prop} {memory : ScanCache}
  {context other : Context}

/-- The same context with other names left out, other archive roots and another memory behind it. -/
def replaced (context : Context) (ignored : OrderedSet ClassName) (archiveRoots : OrderedSet Url)
    (scans : ScanCache) : Context :=
  { context with findings := { context.findings with ignored }, archiveRoots, scans }

/-- Two contexts differ in the order of the archive roots, in what their memories count, and in hidden names
that are left out. -/
structure Alike (hidden : ClassName → Prop) (context other : Context) : Prop where
  same : other = context.replaced other.findings.ignored other.archiveRoots other.scans
  ignored : ∀ name, ¬ hidden name →
    (name ∈ other.findings.ignored ↔ name ∈ context.findings.ignored)
  archiveRoots : ∀ root, root ∈ other.archiveRoots ↔ root ∈ context.archiveRoots
  scans : context.scans.SameAnswers other.scans

theorem Alike.exists_replaced (h : context.Alike hidden other) :
    ∃ ignored archiveRoots scans, other = context.replaced ignored archiveRoots scans :=
  ⟨_, _, _, h.same⟩

theorem enqueue_replaced (context : Context) (ignored : OrderedSet ClassName)
    (archiveRoots : OrderedSet Url) (scans : ScanCache) (name : ClassName) :
    (context.replaced ignored archiveRoots scans).enqueue name =
      (context.enqueue name).replaced ignored archiveRoots scans := by
  rw [enqueue, enqueue]
  change (if context.worklist.knows name then _ else _) = _
  split <;> rfl

theorem Alike.enqueueAll (h : context.Alike hidden other) (names : List ClassName) :
    (context.enqueueAll names).Alike hidden (other.enqueueAll names) := by
  obtain ⟨ignored, archiveRoots, scans, rfl⟩ := h.exists_replaced
  have hsame := enqueueAll_comm (fun context name => enqueue_replaced context ignored archiveRoots
    scans name) context names
  obtain ⟨worklist, graph, hchanges⟩ := context.enqueueAll_changes names
  rw [hsame, hchanges]
  exact ⟨rfl, h.ignored, h.archiveRoots, h.scans⟩

theorem Alike.settle (h : context.Alike hidden other) (name : ClassName) :
    (context.settle name).Alike hidden (other.settle name) :=
  ⟨congrArg (·.settle name) h.same, h.ignored, h.archiveRoots, h.scans⟩

theorem Alike.discover (h : context.Alike hidden other) (name : ClassName) :
    (context.discover name).Alike hidden (other.discover name) :=
  ⟨congrArg (·.discover name) h.same, h.ignored, h.archiveRoots, h.scans⟩

theorem Alike.turnAway (h : context.Alike hidden other) :
    context.turnAway.Alike hidden other.turnAway :=
  ⟨congrArg (·.turnAway) h.same, h.ignored, h.archiveRoots, h.scans⟩

theorem Alike.turnTo (h : context.Alike hidden other) (info : ClassInfo) :
    (context.turnTo info).Alike hidden (other.turnTo info) := by
  have hturned : Alike hidden { context with current := some info.name }
      { other with current := some info.name } :=
    ⟨congrArg (fun context : Context => { context with current := some info.name }) h.same,
      h.ignored, h.archiveRoots, h.scans⟩
  rw [Context.turnTo, Context.turnTo]
  split
  · exact hturned
  · exact hturned.discover info.name

/-! ### Scans -/

/-- A scan below roots finds the same names and leaves the contexts alike. -/
theorem Alike.scanArchives (h : context.Alike hidden other) {bases : List ClassName}
    (hagree : env.AgreeOnArchives env' memory bases)
    (hmemory : (context.scanArchives env bases).2.scans.Within memory) :
    (other.scanArchives env' bases).1 = (context.scanArchives env bases).1 ∧
      (context.scanArchives env bases).2.Alike hidden (other.scanArchives env' bases).2 := by
  obtain ⟨ignored, archiveRoots, scans, rfl⟩ := h.exists_replaced
  by_cases hroots : rootsOf env.registry bases = []
  · rw [scanArchives_of_no_roots hroots, scanArchives_of_no_roots (hagree.roots.trans hroots)]
    exact ⟨rfl, h⟩
  · have hroots' : rootsOf env'.registry bases ≠ [] := hagree.roots.symm ▸ hroots
    rw [scanArchives_of_roots hroots] at hmemory ⊢
    rw [scanArchives_of_roots hroots', hagree.roots]
    obtain ⟨hnames, hscans⟩ := h.scans.classNamesForClasspath hroots hagree.names hmemory
    refine ⟨hnames, rfl, h.ignored, fun root => ?_, hscans⟩
    exact (OrderedSet.mem_insertAll.trans (or_congr_left (h.archiveRoots root))).trans
      OrderedSet.mem_insertAll.symm

theorem Alike.scanPackage (h : context.Alike hidden other) {base : ClassName}
    (hroot : env'.registry.locationOf base = env.registry.locationOf base)
    (hnames : ∀ root, env.registry.locationOf base = some root →
      env.scanner.packageClassNames base.package root = memory.namesInPackage base.package root →
        env'.scanner.packageClassNames base.package root = memory.namesInPackage base.package root)
    (hmemory : (context.scanPackage env base).2.scans.Within memory) :
    (other.scanPackage env' base).1 = (context.scanPackage env base).1 ∧
      (context.scanPackage env base).2.Alike hidden (other.scanPackage env' base).2 := by
  obtain ⟨ignored, archiveRoots, scans, rfl⟩ := h.exists_replaced
  rw [Context.scanPackage] at hmemory
  rw [Context.scanPackage, Context.scanPackage, hroot]
  cases hlocation : env.registry.locationOf base with
  | none => exact ⟨rfl, h⟩
  | some root =>
    rw [hlocation] at hmemory
    obtain ⟨hfound, hscans⟩ := h.scans.classNamesForPackage (hnames root hlocation) hmemory
    refine ⟨hfound, ?_, h.ignored, h.archiveRoots, hscans⟩
    simp only [replaced] at hfound ⊢
    rw [hfound]

theorem Alike.scanPackages (h : context.Alike hidden other) {bases : List ClassName}
    (hagree : env.AgreeOnPackages env' memory bases)
    (hmemory : (context.scanPackages env bases).2.scans.Within memory) :
    (other.scanPackages env' bases).1 = (context.scanPackages env bases).1 ∧
      (context.scanPackages env bases).2.Alike hidden (other.scanPackages env' bases).2 := by
  induction bases generalizing context other with
  | nil => exact ⟨rfl, h⟩
  | cons base bases ih =>
    obtain ⟨hroot, hroots⟩ := List.forall_mem_cons.1 hagree.root
    obtain ⟨hnames, hrest⟩ := List.forall_mem_cons.1 hagree.names
    have hgrows := grows_scanPackages (context.scanPackage env base).2 env bases
    obtain ⟨hfirst, hafter⟩ := h.scanPackage hroot hnames (hgrows.scans.trans hmemory)
    obtain ⟨hothers, hend⟩ := ih hafter ⟨hroots, hrest⟩ hmemory
    simp only [Context.scanPackages, hfirst, hothers]
    exact ⟨trivial, hend⟩

/-! ### Actions and visits -/

/-- A step on which the environments agree leaves the contexts alike. -/
theorem Alike.perform (h : context.Alike hidden other) {action : Action}
    (hagree : HookStep.Agrees env env' hidden memory (.act action))
    (hmemory : (context.perform env action).scans.Within memory) :
    (context.perform env action).Alike hidden (other.perform env' action) := by
  cases action with
  | offer ref =>
    rw [Context.perform, Context.perform, show ref.identities env'.registry = _ from hagree]
    exact h.enqueueAll _
  | ignore ref =>
    obtain ⟨ignored, archiveRoots, scans, rfl⟩ := h.exists_replaced
    refine ⟨rfl, fun name hname => ?_, h.archiveRoots, h.scans⟩
    exact (OrderedSet.mem_insertAll.trans
      (or_congr (h.ignored name hname) (hagree name hname))).trans OrderedSet.mem_insertAll.symm
  | offerPackage ref =>
    obtain ⟨hnames, hafter⟩ := h.scanPackages hagree.2 (scans_enqueueAll _ _ ▸ hmemory)
    simp only [Context.perform, hagree.1, hnames]
    exact hafter.enqueueAll _
  | offerArchive ref =>
    obtain ⟨hnames, hafter⟩ := h.scanArchives hagree.2 (scans_enqueueAll _ _ ▸ hmemory)
    simp only [Context.perform, hagree.1, hnames]
    exact hafter.enqueueAll _
  | activate group ref =>
    rw [Context.perform, Context.perform, show ref.identities env'.registry = _ from hagree]
    obtain ⟨ignored, archiveRoots, scans, rfl⟩ := h.exists_replaced
    cases group <;> exact ⟨rfl, h.ignored, h.archiveRoots, h.scans⟩
  | register registration =>
    obtain ⟨ignored, archiveRoots, scans, rfl⟩ := h.exists_replaced
    exact ⟨rfl, h.ignored, h.archiveRoots, h.scans⟩

/-- Whether a name is inspected does not change, unless it is hidden. -/
theorem Alike.target? (h : context.Alike hidden other) {candidate : ClassName}
    (hcontainer : env'.container = env.container)
    (hresolve : env'.registry.resolve candidate = env.registry.resolve candidate)
    (hhidden : ¬ hidden candidate) : other.target? env' candidate = context.target? env candidate := by
  have hignored : other.isIgnored candidate = context.isIgnored candidate :=
    decide_eq_decide.2 (h.ignored candidate hhidden)
  have hincluded : other.included = context.included := congrArg (·.included) h.same
  have hcovers : ∀ info, other.covers info = context.covers info := fun info => by
    rw [Bool.eq_iff_iff, covers_iff, covers_iff, hincluded]
    simp only [h.archiveRoots]
  simp only [Context.target?, hignored, hresolve, hcontainer, hcovers]

theorem Alike.start {scans : ScanCache} (hconfiguration : env'.configuration = env.configuration)
    (harchives : ∀ root, root ∈ (scans.beanArchiveRoots env'.scanner).1 ↔
      root ∈ (scans.beanArchiveRoots env.scanner).1) :
    (Context.start env scans).Alike hidden (Context.start env' scans) := by
  refine ⟨?_, fun _ _ => Iff.rfl, fun root => ?_,
    (ScanCache.sameAnswers_beanArchiveRoots scans env.scanner).symm.trans
      (ScanCache.sameAnswers_beanArchiveRoots scans env'.scanner)⟩
  · rw [Context.start, Context.start, hconfiguration]
    rfl
  · exact (OrderedSet.mem_ofList.trans (harchives root)).trans OrderedSet.mem_ofList.symm

end Context

/-! ## What the default plugins read -/

/-- Two environments have the same container, the same test and the same libraries. -/
structure Environment.Matches (env env' : Environment) : Prop where
  container : env'.container = env.container
  configuration : env'.configuration = env.configuration
  libraries : ∀ sentinel ∈ Plugin.librarySentinels,
    env'.registry.isPresent sentinel = env.registry.isPresent sentinel

/-- The names that the default plugins resolve to find out what to do at a hook point: the test class before
the traversal, and the alternatives that a class switches on. -/
inductive HookPoint.LooksUp (package : String) : HookPoint → ClassName → Prop
  | test (test) : LooksUp package (.bootstrap test) test
  | alternative {info marker name}
      (hmarker : info.marker? (Vocabulary.relocated Vocabulary.activatedAlternatives package) =
        some marker)
      (hname : name ∈ marker.value) : LooksUp package (.process info) name

/-- Two environments resolve alike what the default plugins look up at a hook point. -/
def Environment.AgreeAt (env env' : Environment) (package : String) (point : HookPoint) : Prop :=
  ∀ name, point.LooksUp package name → env'.registry.resolve name = env.registry.resolve name

namespace Plugin
variable {env env' : Environment} {package : String} {point : HookPoint}

theorem respond_standard_congr (h : env'.container = env.container) (point : HookPoint) :
    standard.respond env' point = standard.respond env point := by
  cases point with
  | process info =>
    change extensionContribution env' info ++ _ = extensionContribution env info ++ _
    rw [extensionContribution, extensionContribution, h]
  | _ => rfl

theorem onMarker_congr {info : ClassInfo} {marker : ClassName}
    {first second : MarkerUse → Contribution}
    (h : ∀ found, info.marker? (Vocabulary.relocated marker package) = some found →
      second found = first found) :
    onMarker package info marker second = onMarker package info marker first := by
  rw [onMarker, onMarker]
  split
  next found hfound => exact h found hfound
  next => rfl

theorem respond_testMarkers_congr (h : env.AgreeAt env' package point) :
    (testMarkers package).respond env' point = (testMarkers package).respond env point := by
  cases point with
  | process info =>
    have halternatives : onMarker package info Vocabulary.activatedAlternatives (fun marker =>
          .actions (marker.value.flatMap (activateAlternative env'.registry))) =
        onMarker package info Vocabulary.activatedAlternatives fun marker =>
          .actions (marker.value.flatMap (activateAlternative env.registry)) := by
      refine onMarker_congr fun found hfound => congrArg _ (List.flatMap_congr fun name hname => ?_)
      rw [activateAlternative, activateAlternative, h name (.alternative hfound hname)]
    change testMarkersOnClass package env'.registry info = testMarkersOnClass package env.registry info
    rw [testMarkersOnClass, testMarkersOnClass, halternatives]
  | _ => rfl

theorem respond_mocking_congr (framework : MockFramework) (h : env.AgreeAt env' package point) :
    (mocking framework).respond env' point = (mocking framework).respond env point := by
  cases point with
  | bootstrap test =>
    change mockingResponse framework env' (.bootstrap test) =
      mockingResponse framework env (.bootstrap test)
    rw [mockingResponse, mockingResponse, h test (.test test)]
  | _ => rfl

/-- At a hook point where the environments agree the default plugins answer alike. -/
theorem respond_defaultSet_congr (hmatch : env.Matches env') (h : env.AgreeAt env' package point)
    {plugin : Plugin} (hplugin : plugin ∈ defaultSet package) :
    plugin.respond env' point = plugin.respond env point := by
  simp only [defaultSet, List.mem_cons, List.not_mem_nil, or_false] at hplugin
  rcases hplugin with rfl | rfl | rfl | rfl | rfl | rfl | rfl | rfl
  · exact respond_standard_congr hmatch.container point
  · exact respond_testMarkers_congr h
  · exact respond_mocking_congr _ h
  · exact respond_mocking_congr _ h
  · simp only [testScope, hmatch.configuration]
  · rfl
  · simp only [producerConfig, hmatch.configuration]
  · rfl

end Plugin

/-! ## Calls -/

/-- Two calls have alike contexts and the same probes, answers and failure. -/
structure Call.Alike (hidden : ClassName → Prop) (call other : Call) : Prop where
  context : call.context.Alike hidden other.context
  probes : other.probes = call.probes
  answers : other.answers = call.answers
  failure : other.failure = call.failure

/-- A contribution leaves calls alike, if the environments agree on its steps and have the same of the
libraries that it may ask for. -/
theorem Contribution.alike_perform {env env' : Environment} {hidden : ClassName → Prop}
    {memory : ScanCache} {permitted : HookStep → Prop} (contribution : Contribution)
    {call other : Call} (h : call.Alike hidden other)
    (hlibraries : contribution.StaysWithin permitted fun sentinel =>
      env'.registry.isPresent sentinel = env.registry.isPresent sentinel)
    (hsteps : ∀ step ∈ contribution.steps env call, step.Agrees env env' hidden memory)
    (hmemory : (contribution.perform env call).context.scans.Within memory) :
    (contribution.perform env call).Alike hidden (contribution.perform env' other) := by
  induction contribution generalizing call other with
  | done => exact h
  | fail error => exact ⟨h.context, h.probes, h.answers, rfl⟩
  | act action rest ih =>
    obtain ⟨hstep, hrest⟩ := List.forall_mem_cons.1 hsteps
    have hgrows := rest.grows_perform env { call with context := call.context.perform env action }
    have hafter := h.context.perform hstep (hgrows.scans.trans hmemory)
    exact ih ⟨hafter, h.probes, h.answers, h.failure⟩ hlibraries.2 hrest hmemory
  | scanArchives bases next ih =>
    obtain ⟨hstep, hrest⟩ := List.forall_mem_cons.1 hsteps
    have hgrows := (next (call.context.scanArchives env bases).1).grows_perform env
      { call with context := (call.context.scanArchives env bases).2 }
    obtain ⟨hnames, hafter⟩ := h.context.scanArchives hstep (hgrows.scans.trans hmemory)
    simp only [perform, hnames]
    exact ih _ ⟨hafter, h.probes, h.answers, h.failure⟩ (hlibraries.2 _) hrest hmemory
  | scanPackages bases next ih =>
    obtain ⟨hstep, hrest⟩ := List.forall_mem_cons.1 hsteps
    have hgrows := (next (call.context.scanPackages env bases).1).grows_perform env
      { call with context := (call.context.scanPackages env bases).2 }
    obtain ⟨hnames, hafter⟩ := h.context.scanPackages hstep (hgrows.scans.trans hmemory)
    simp only [perform, hnames]
    exact ih _ ⟨hafter, h.probes, h.answers, h.failure⟩ (hlibraries.2 _) hrest hmemory
  | consult sentinel next ih =>
    have hask := LibraryProbe.askAmong_congr hlibraries.1 call.probes
    simp only [perform, h.probes, hask]
    refine ih _ ?_ (hlibraries.2 _) hsteps hmemory
    exact ⟨h.context, rfl, h.answers, h.failure⟩
  | note answer rest ih =>
    exact ih ⟨h.context, h.probes, congrArg (· ++ [answer]) h.answers, h.failure⟩ hlibraries hsteps
      hmemory

/-- Two runs have come equally far, with alike contexts. -/
structure Progress.Alike (hidden : ClassName → Prop) (progress other : Progress) : Prop where
  context : progress.context.Alike hidden other.context
  account : other.account = progress.account
  failure : other.failure = progress.failure

namespace Plugin
variable {env env' : Environment} {hidden : ClassName → Prop} {memory : ScanCache}
  {permitted : HookStep → Prop} {point : HookPoint} {progress other : Progress} {position : Nat}

/-- The plugin keeps its answer to a hook call in the second environment, which has the same of the libraries
that the plugin may ask for. -/
structure KeepsAnswers (env env' : Environment) (point : HookPoint) (plugin : Plugin) : Prop where
  respond : plugin.respond env' point = plugin.respond env point
  libraries : (plugin.respond env point).StaysWithin (fun _ => True) fun sentinel =>
    env'.registry.isPresent sentinel = env.registry.isPresent sentinel

theorem alike_call {plugin : Plugin} (h : progress.Alike hidden other)
    (hplugin : plugin.KeepsAnswers env env' point)
    (hsteps : ∀ step ∈ plugin.steps env point progress, step.Agrees env env' hidden memory)
    (hmemory : (plugin.call env point position progress).2.context.scans.Within memory) :
    (plugin.call env' point position other).1 = (plugin.call env point position progress).1 ∧
      (plugin.call env point position progress).2.Alike hidden
        (plugin.call env' point position other).2 := by
  by_cases hfailed : progress.failure.isSome = true
  · have hfailed' : other.failure.isSome = true := h.failure ▸ hfailed
    rw [call_of_failure hfailed, call_of_failure hfailed']
    exact ⟨rfl, h⟩
  · have hfailed' : ¬ other.failure.isSome = true := h.failure ▸ hfailed
    rw [steps, if_neg hfailed] at hsteps
    rw [call, if_neg hfailed] at hmemory
    have hstart : Call.Alike hidden { context := progress.context, probes := plugin.probes }
        { context := other.context, probes := plugin.probes } := ⟨h.context, rfl, rfl, rfl⟩
    have hend := Contribution.alike_perform _ hstart hplugin.libraries hsteps hmemory
    rw [call, call, if_neg hfailed, if_neg hfailed', hplugin.respond]
    refine ⟨congrArg (fun probes => { plugin with probes }) hend.probes, hend.context, ?_,
      hend.failure⟩
    simp only [Progress.after, hend.answers, h.account]

theorem alike_callEach {plugins : List Plugin} (h : progress.Alike hidden other)
    (hplugins : ∀ plugin ∈ plugins, plugin.KeepsAnswers env env' point)
    (hsteps : ∀ step ∈ stepsOfEach env point position plugins progress,
      step.Agrees env env' hidden memory)
    (hmemory : (callEach env point position plugins progress).2.context.scans.Within memory) :
    (callEach env' point position plugins other).1 =
        (callEach env point position plugins progress).1 ∧
      (callEach env point position plugins progress).2.Alike hidden
        (callEach env' point position plugins other).2 := by
  induction plugins generalizing position progress other with
  | nil => exact ⟨rfl, h⟩
  | cons plugin plugins ih =>
    obtain ⟨hplugin, hothers⟩ := List.forall_mem_cons.1 hplugins
    rw [stepsOfEach, List.forall_mem_append] at hsteps
    have hgrows := grows_callEach env point (position + 1) plugins
      (plugin.call env point position progress).2
    obtain ⟨hfirst, hafter⟩ := alike_call h hplugin hsteps.1 (hgrows.scans.trans hmemory)
    obtain ⟨hrest, hend⟩ := ih hafter hothers hsteps.2 hmemory
    rw [callEach_cons, callEach_cons, hfirst, hrest]
    exact ⟨rfl, hend⟩

end Plugin

/-! ## Runs -/

namespace Run
open Plugin
variable {env env' : Environment} {hidden : ClassName → Prop} {scans memory : ScanCache}
  {package : String} {plugins : List Plugin} {run other : Run} {candidate : ClassName}
  {info : ClassInfo}

/-- Two runs have come equally far, with the same plugins and alike contexts. -/
structure Alike (hidden : ClassName → Prop) (run other : Run) : Prop where
  plugins : other.plugins = run.plugins
  progress : run.progress.Alike hidden other.progress
  trail : other.trail = run.trail

theorem Alike.update (h : run.Alike hidden other) {f g : Context → Context}
    (hcontext : (f run.context).Alike hidden (g other.context)) :
    (run.update f).Alike hidden (other.update g) :=
  ⟨h.plugins, ⟨hcontext, h.progress.account, h.progress.failure⟩, h.trail⟩

theorem keepsAnswers_of_areDefault (hmatch : env.Matches env') {point : HookPoint}
    (hpoint : env.AgreeAt env' package point) (hplugins : AreDefault package plugins) :
    ∀ plugin ∈ plugins, plugin.KeepsAnswers env env' point := by
  have hrespond := hplugins.forall_respond
    (P := fun respond => respond env' point = respond env point)
    fun plugin hplugin => respond_defaultSet_congr hmatch hpoint hplugin
  have hlibraries := hplugins.forall_respond (P := fun respond =>
    (respond env point).StaysWithin (fun _ => True) fun sentinel =>
      env'.registry.isPresent sentinel = env.registry.isPresent sentinel)
    fun plugin hplugin => (staysWithin_defaultSet hplugin env point).mono (fun _ _ => trivial)
      hmatch.libraries
  exact fun plugin hplugin => ⟨hrespond plugin hplugin, hlibraries plugin hplugin⟩

theorem Alike.call (h : run.Alike hidden other) (hmatch : env.Matches env') {point : HookPoint}
    (hplugins : AreDefault package run.plugins) (hpoint : env.AgreeAt env' package point)
    (hsteps : ∀ step ∈ run.steps env point, step.Agrees env env' hidden memory)
    (hmemory : (run.call env point).context.scans.Within memory) :
    (run.call env point).Alike hidden (other.call env' point) := by
  obtain ⟨hcalled, hprogress⟩ := alike_callEach h.progress
    (keepsAnswers_of_areDefault hmatch hpoint hplugins) hsteps hmemory
  rw [Run.call, Run.call, h.plugins]
  exact ⟨hcalled, hprogress, h.trail⟩

theorem Alike.callAll (h : run.Alike hidden other) (hmatch : env.Matches env')
    {points : List HookPoint} (hplugins : AreDefault package run.plugins)
    (hpoints : ∀ point ∈ points, env.AgreeAt env' package point)
    (hsteps : ∀ step ∈ run.stepsAtAll env points, step.Agrees env env' hidden memory)
    (hmemory : (run.callAll env points).context.scans.Within memory) :
    (run.callAll env points).Alike hidden (other.callAll env' points) := by
  induction points generalizing run other with
  | nil => exact h
  | cons point points ih =>
    obtain ⟨hpoint, hrest⟩ := List.forall_mem_cons.1 hpoints
    rw [stepsAtAll, List.forall_mem_append] at hsteps
    have hgrows := grows_callAll (run.call env point) env points
    exact ih (h.call hmatch hplugins hpoint hsteps.1 (hgrows.scans.trans hmemory))
      (areDefault_call hplugins point) hrest hsteps.2 hmemory

end Run

/-- Two environments agree on what a visit reads: its name, which is not hidden, what the default plugins
look up for the inspected class, and the steps that they take. -/
structure Visit.ReadsAlike (env env' : Environment) (hidden : ClassName → Prop) (memory : ScanCache)
    (package : String) (visit : Visit) : Prop where
  visible : ¬ hidden visit.candidate
  resolve : env'.registry.resolve visit.candidate = env.registry.resolve visit.candidate
  lookUps : ∀ info, visit.before.context.target? env visit.candidate = some info →
    ∀ point ∈ info.hookPoints, env.AgreeAt env' package point
  steps : ∀ step ∈ visit.steps env, step.Agrees env env' hidden memory

namespace Run
open Plugin
variable {env env' : Environment} {hidden : ClassName → Prop} {scans memory : ScanCache}
  {package : String} {plugins : List Plugin} {run other : Run} {candidate : ClassName}
  {info : ClassInfo}

theorem Alike.inspect (h : run.Alike hidden other) (hmatch : env.Matches env')
    (hplugins : AreDefault package run.plugins)
    (hpoints : ∀ point ∈ info.hookPoints, env.AgreeAt env' package point)
    (hsteps : ∀ step ∈ run.inspectionSteps env info, step.Agrees env env' hidden memory)
    (hmemory : ((run.update (·.turnTo info)).callAll env info.hookPoints).context.scans.Within
      memory) :
    (run.inspect env info).Alike hidden (other.inspect env' info) := by
  have hturned : (run.update (·.turnTo info)).Alike hidden (other.update (·.turnTo info)) :=
    h.update (h.progress.context.turnTo info)
  have hcalled := hturned.callAll hmatch hplugins hpoints hsteps hmemory
  exact hcalled.update hcalled.progress.context.turnAway

/-- A visit that reads the same in both environments leaves the runs alike. -/
theorem Alike.visit (h : run.Alike hidden other) (hmatch : env.Matches env')
    (hplugins : AreDefault package run.plugins)
    (hreads : Visit.ReadsAlike env env' hidden memory package ⟨run, candidate⟩)
    (hmemory : (run.visit env candidate).context.scans.Within memory) :
    (run.visit env candidate).Alike hidden (other.visit env' candidate) := by
  have htarget : other.context.target? env' candidate = run.context.target? env candidate :=
    h.progress.context.target? hmatch.container hreads.resolve hreads.visible
  cases ht : run.context.target? env candidate with
  | none =>
    rw [visit_of_skipped ht, visit_of_skipped (htarget.trans ht), h.trail]
    exact ⟨h.plugins, ⟨h.progress.context.settle candidate, h.progress.account,
      h.progress.failure⟩, rfl⟩
  | some info =>
    have hsteps : ∀ step ∈ run.inspectionSteps env info, step.Agrees env env' hidden memory := by
      intro step hstep
      refine hreads.steps step ?_
      rw [Visit.steps, ht, Option.toList_some, List.flatMap_singleton]
      exact hstep
    rw [context_visit_of_target ht, ← context_inspect] at hmemory
    have hinspected := h.inspect hmatch hplugins (hreads.lookUps info ht) hsteps hmemory
    have htrail : (other.visit env' candidate).trail = (run.visit env candidate).trail := by
      rw [trail_visit_of_target ht, trail_visit_of_target (htarget.trans ht), h.trail]
    rw [visit_of_target ht, visit_of_target (htarget.trans ht)] at htrail ⊢
    exact ⟨hinspected.plugins, ⟨hinspected.progress.context.settle candidate,
      hinspected.progress.account, hinspected.progress.failure⟩, htrail⟩

/-- Runs with the default plugins begin alike, if the memory names the same bean archives for both. -/
theorem alike_seeded (hmatch : env.Matches env') (hplugins : AreDefault package plugins)
    (harchives : ∀ root, root ∈ (scans.beanArchiveRoots env'.scanner).1 ↔
      root ∈ (scans.beanArchiveRoots env.scanner).1)
    (htest : env'.registry.resolve env.configuration.testClass =
      env.registry.resolve env.configuration.testClass)
    (hsteps : ∀ step ∈ (start env scans plugins).steps env (.bootstrap env.configuration.testClass),
      step.Agrees env env' hidden memory)
    (hmemory : (seeded env scans plugins).context.scans.Within memory) :
    (seeded env scans plugins).Alike hidden (seeded env' scans plugins) := by
  have hstart : (start env scans plugins).Alike hidden (start env' scans plugins) := by
    rw [start, start, hmatch.configuration]
    exact ⟨rfl, ⟨((Context.Alike.start hmatch.configuration harchives).discover _).enqueueAll [_],
      rfl, rfl⟩, rfl⟩
  have hpoint : env.AgreeAt env' package (.bootstrap env.configuration.testClass) := by
    rintro name ⟨⟩
    exact htest
  have hcalled := hstart.call hmatch hplugins hpoint hsteps (Context.scans_enqueueAll _ _ ▸ hmemory)
  rw [seeded, seeded, hmatch.configuration]
  exact hcalled.update (hcalled.progress.context.enqueueAll _)

/-- A run with the default plugins stays alike in a second environment that agrees with the first one on all
that the run reads. -/
theorem alike_complete (hmatch : env.Matches env') (hplugins : AreDefault package plugins)
    (harchives : ∀ root, root ∈ (scans.beanArchiveRoots env'.scanner).1 ↔
      root ∈ (scans.beanArchiveRoots env.scanner).1)
    (htest : env'.registry.resolve env.configuration.testClass =
      env.registry.resolve env.configuration.testClass)
    (hbootstrap : ∀ step ∈ (start env scans plugins).steps env
      (.bootstrap env.configuration.testClass),
        step.Agrees env env' hidden (complete env scans plugins).context.scans)
    (hreads : ∀ visit ∈ visits env scans plugins,
      visit.ReadsAlike env env' hidden (complete env scans plugins).context.scans package) :
    (complete env scans plugins).Alike hidden (complete env' scans plugins) := by
  have hvisits := visits_complete env scans plugins
  refine hvisits.drain_of_partner (R := Alike hidden) ?_ ?_ ?_
    (alike_seeded hmatch hplugins harchives htest hbootstrap hvisits.grows.1.scans) _
  · exact fun run other h => h.progress.failure
  · intro run other h
    have hworklist : other.context.worklist = run.context.worklist :=
      congrArg (·.worklist) h.progress.context.same
    rw [worklist, worklist, hworklist]
  · intro visit hvisit other h
    obtain ⟨first, rest, hsplit⟩ := List.append_of_mem hvisit
    have hsame := hvisits
    rw [hsplit] at hsame
    exact h.visit hmatch (areDefault_before hplugins hvisit) (hreads visit hvisit)
      hsame.grows_after.1.scans

/-- Alike runs have the same report or the same failure, unless one of them deploys a hidden name. -/
theorem Alike.report (h : run.Alike hidden other)
    (hvisible : ∀ name ∈ run.context.findings.discovered, ¬ hidden name) (assembler : Assembler) :
    other.report assembler = run.report assembler := by
  have hfindings : other.context.findings =
      { run.context.findings with ignored := other.context.findings.ignored } :=
    congrArg (·.findings) h.progress.context.same
  have hdiscovered : run.context.findings.discovered.filter
        (fun name => decide (name ∉ other.context.findings.ignored)) =
      run.context.findings.discovered.filter
        fun name => decide (name ∉ run.context.findings.ignored) := by
    refine OrderedSet.ext (List.filter_congr fun name hname => decide_eq_decide.2 ?_)
    exact not_congr (h.progress.context.ignored name (hvisible name hname))
  have hdescriptor : assembler.assemble other.context.findings =
      assembler.assemble run.context.findings := by
    rw [hfindings, Assembler.assemble, Assembler.assemble]
    simp only [hdiscovered]
  have hgraph : other.context.findings.graph = run.context.findings.graph := by rw [hfindings]
  have hfailure : other.failure = run.failure := h.progress.failure
  rw [Run.report, Run.report, hfailure, hdescriptor, hgraph, h.trail]

end Run
end BeanDiscovery
