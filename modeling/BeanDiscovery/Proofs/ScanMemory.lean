import BeanDiscovery.Context

/-!
# What a context accumulates

Steps of plugins add archive roots, included classes, ignored names and remembered scans, and take
nothing back. A memory of scans keeps its answers, so whatever a scan returned can be read off any later
memory. The main statements say that a context only grows, and give the offers of steps in terms of a
later memory alone.
-/
namespace BeanDiscovery

namespace ScanCache

/-- Whatever the first memory answers, the second one answers as well. -/
structure Within (cache memory : ScanCache) : Prop where
  classpath : ∀ {key names}, cache.classpathScans.get? key = some names →
    memory.classpathScans.get? key = some names
  package : ∀ {key names}, cache.packageScans.get? key = some names →
    memory.packageScans.get? key = some names

/-- The remembered names below some roots; below no roots there are none. -/
def namesBelow (memory : ScanCache) (roots : List Url) : List ClassName :=
  if roots = [] then [] else (memory.classpathScans.get? (classpathKey roots)).getD []

/-- The remembered names in a package below a root. -/
def namesInPackage (memory : ScanCache) (package : String) (root : Url) : List ClassName :=
  (memory.packageScans.get? (packageKey package root)).getD []

/-- The remembered names below the roots of some classes. -/
def archiveNames (memory : ScanCache) (registry : TypeRegistry) (bases : List ClassName) :
    List ClassName :=
  memory.namesBelow (Context.rootsOf registry bases)

/-- The remembered names in the packages of some classes, one class after the other. -/
def packageNames (memory : ScanCache) (registry : TypeRegistry) (bases : List ClassName) :
    List ClassName :=
  bases.flatMap fun base =>
    (registry.locationOf base).elim [] (memory.namesInPackage base.package)

theorem Within.refl (cache : ScanCache) : cache.Within cache := ⟨id, id⟩

theorem Within.trans {first second third : ScanCache} (h : first.Within second)
    (h' : second.Within third) : first.Within third :=
  ⟨fun hkey => h'.classpath (h.classpath hkey), fun hkey => h'.package (h.package hkey)⟩

variable (cache : ScanCache) (scanner : Scanner) {memory : ScanCache}

theorem within_classNamesForClasspath (roots : List Url) :
    cache.Within (cache.classNamesForClasspath scanner roots).2 := by
  unfold classNamesForClasspath
  split
  · exact ⟨id, id⟩
  next hnew =>
    refine ⟨fun {key names} hkey => ?_, id⟩
    have hne : classpathKey roots ≠ key := by
      rintro rfl
      cases hnew.symm.trans hkey
    rw [Table.get?_insert, if_neg hne]
    exact hkey

theorem within_classNamesForPackage (package : String) (root : Url) :
    cache.Within (cache.classNamesForPackage scanner package root).2 := by
  unfold classNamesForPackage
  split
  · exact ⟨id, id⟩
  next hnew =>
    refine ⟨id, fun {key names} hkey => ?_⟩
    have hne : packageKey package root ≠ key := by
      rintro rfl
      cases hnew.symm.trans hkey
    rw [Table.get?_insert, if_neg hne]
    exact hkey

variable {cache scanner}

theorem classNamesForClasspath_eq {roots : List Url} (hroots : roots ≠ [])
    (h : (cache.classNamesForClasspath scanner roots).2.Within memory) :
    (cache.classNamesForClasspath scanner roots).1 = memory.namesBelow roots := by
  have hkey := h.classpath (get?_classpathScans_classNamesForClasspath cache scanner roots)
  rw [namesBelow, if_neg hroots, hkey]
  rfl

theorem classNamesForPackage_eq {package : String} {root : Url}
    (h : (cache.classNamesForPackage scanner package root).2.Within memory) :
    (cache.classNamesForPackage scanner package root).1 = memory.namesInPackage package root := by
  have hkey := h.package (get?_packageScans_classNamesForPackage cache scanner package root)
  rw [namesInPackage, hkey]
  rfl

end ScanCache

namespace Context

/-- The second context has everything that the first one has gathered. -/
structure Grows (earlier later : Context) : Prop where
  archiveRoots : ∀ root ∈ earlier.archiveRoots, root ∈ later.archiveRoots
  included : ∀ name ∈ earlier.included, name ∈ later.included
  ignored : ∀ name ∈ earlier.findings.ignored, name ∈ later.findings.ignored
  scans : earlier.scans.Within later.scans

theorem Grows.refl (context : Context) : context.Grows context :=
  ⟨fun _ => id, fun _ => id, fun _ => id, .refl _⟩

theorem Grows.trans {first second third : Context} (h : first.Grows second)
    (h' : second.Grows third) : first.Grows third where
  archiveRoots := fun root hroot => h'.archiveRoots root (h.archiveRoots root hroot)
  included := fun name hname => h'.included name (h.included name hname)
  ignored := fun name hname => h'.ignored name (h.ignored name hname)
  scans := h.scans.trans h'.scans

/-- A class that is inspected wherever it comes from stays so. -/
theorem Grows.covers {earlier later : Context} (h : earlier.Grows later) {info : ClassInfo}
    (hcovers : earlier.covers info = true) : later.covers info = true := by
  simp only [Context.covers, Bool.or_eq_true, decide_eq_true_eq, Option.any_eq_true] at hcovers ⊢
  rcases hcovers with hname | ⟨root, hlocation, hroot⟩
  · exact Or.inl (h.included _ hname)
  · exact Or.inr ⟨root, hlocation, h.archiveRoots root hroot⟩

variable (context : Context) (env : Environment)

/-! ## Scans -/

theorem grows_scanArchives (bases : List ClassName) :
    context.Grows (context.scanArchives env bases).2 := by
  rw [scanArchives]
  split
  · exact .refl context
  · exact ⟨fun root hroot => OrderedSet.mem_insertAll.2 (Or.inl hroot), fun _ => id, fun _ => id,
      ScanCache.within_classNamesForClasspath _ _ _⟩

theorem grows_scanPackage (base : ClassName) : context.Grows (context.scanPackage env base).2 := by
  rw [scanPackage]
  split
  · exact .refl context
  · exact ⟨fun _ => id, fun name hname => OrderedSet.mem_insertAll.2 (Or.inl hname), fun _ => id,
      ScanCache.within_classNamesForPackage _ _ _ _⟩

theorem grows_scanPackages (bases : List ClassName) :
    context.Grows (context.scanPackages env bases).2 := by
  induction bases generalizing context with
  | nil => exact .refl context
  | cons base bases ih => exact (context.grows_scanPackage env base).trans (ih _)

variable {context env} {memory : ScanCache}

theorem scanArchives_eq {bases : List ClassName}
    (h : (context.scanArchives env bases).2.scans.Within memory) :
    (context.scanArchives env bases).1 = memory.archiveNames env.registry bases := by
  rw [scanArchives] at h ⊢
  rw [ScanCache.archiveNames]
  split at h
  next hroots => rw [hroots]; rfl
  next hroots => exact ScanCache.classNamesForClasspath_eq hroots h

theorem scanPackage_eq {base : ClassName}
    (h : (context.scanPackage env base).2.scans.Within memory) :
    (context.scanPackage env base).1 =
      (env.registry.locationOf base).elim [] (memory.namesInPackage base.package) := by
  rw [scanPackage] at h ⊢
  split at h
  next hroot => rw [hroot]; rfl
  next root hroot => rw [hroot]; exact ScanCache.classNamesForPackage_eq h

theorem scanPackages_eq {bases : List ClassName}
    (h : (context.scanPackages env bases).2.scans.Within memory) :
    (context.scanPackages env bases).1 = memory.packageNames env.registry bases := by
  induction bases generalizing context with
  | nil => rfl
  | cons base bases ih =>
    have hrest := (grows_scanPackages (context.scanPackage env base).2 env bases).scans
    rw [ScanCache.packageNames, List.flatMap_cons, ← scanPackage_eq (hrest.trans h)]
    exact congrArg _ (ih h)

end Context

/-! ## Steps -/

/-- The names that a step asks to let wait, when a memory is known that answers its scans. -/
def HookStep.offers (registry : TypeRegistry) (memory : ScanCache) : HookStep → List ClassName
  | .act (.offer ref) => ref.identities registry
  | .act (.offerPackage ref) => memory.packageNames registry (ref.identities registry)
  | .act (.offerArchive ref) => memory.archiveNames registry (ref.identities registry)
  | _ => []

namespace Context
variable {context : Context} {env : Environment} {memory : ScanCache}

/-- Offers commute with a change of the context that a single offer commutes with. -/
theorem enqueueAll_comm {f : Context → Context}
    (h : ∀ context name, (f context).enqueue name = f (context.enqueue name)) (context : Context)
    (names : List ClassName) : (f context).enqueueAll names = f (context.enqueueAll names) := by
  induction names generalizing context with
  | nil => rfl
  | cons name names ih =>
    have hrest := ih (context.enqueue name)
    rwa [← h] at hrest

theorem grows_enqueueAll (context : Context) (names : List ClassName) :
    context.Grows (context.enqueueAll names) := by
  obtain ⟨worklist, graph, h⟩ := context.enqueueAll_changes names
  rw [h]
  exact ⟨fun _ => id, fun _ => id, fun _ => id, .refl _⟩

theorem grows_take (context : Context) (env : Environment) (step : HookStep) :
    context.Grows (context.take env step) := by
  cases step with
  | act action =>
    cases action with
    | offer ref => exact grows_enqueueAll context _
    | offerPackage ref => exact (context.grows_scanPackages env _).trans (grows_enqueueAll _ _)
    | offerArchive ref => exact (context.grows_scanArchives env _).trans (grows_enqueueAll _ _)
    | ignore ref =>
      exact ⟨fun _ => id, fun _ => id, fun name hname => OrderedSet.mem_insertAll.2 (Or.inl hname),
        .refl _⟩
    | activate group ref => cases group <;> exact ⟨fun _ => id, fun _ => id, fun _ => id, .refl _⟩
    | register registration => exact ⟨fun _ => id, fun _ => id, fun _ => id, .refl _⟩
  | scanArchives bases => exact context.grows_scanArchives env bases
  | scanPackages bases => exact context.grows_scanPackages env bases

theorem grows_takeAll (context : Context) (env : Environment) (steps : List HookStep) :
    context.Grows (context.takeAll env steps) := by
  induction steps generalizing context with
  | nil => exact .refl context
  | cons step steps ih => exact (context.grows_take env step).trans (ih _)

theorem scans_enqueueAll (context : Context) (names : List ClassName) :
    (context.enqueueAll names).scans = context.scans := by
  obtain ⟨worklist, graph, h⟩ := context.enqueueAll_changes names
  rw [h]

theorem offered_eq {step : HookStep} (h : (context.take env step).scans.Within memory) :
    context.offered env step = step.offers env.registry memory := by
  cases step with
  | act action =>
    cases action with
    | offerPackage ref => exact scanPackages_eq (scans_enqueueAll _ _ ▸ h)
    | offerArchive ref => exact scanArchives_eq (scans_enqueueAll _ _ ▸ h)
    | _ => rfl
  | _ => rfl

/-- What steps offer can be read off any later memory. -/
theorem offeredByAll_eq {steps : List HookStep}
    (h : (context.takeAll env steps).scans.Within memory) :
    context.offeredByAll env steps = steps.flatMap (·.offers env.registry memory) := by
  induction steps generalizing context with
  | nil => rfl
  | cons step steps ih =>
    have hrest := (grows_takeAll (context.take env step) env steps).scans
    rw [offeredByAll, List.flatMap_cons, offered_eq (hrest.trans h)]
    exact congrArg _ (ih h)

end Context

/-! ## Requests -/

/-- The memory has an answer for the archives of some classes. -/
def ScanCache.HasArchives (memory : ScanCache) (registry : TypeRegistry) (bases : List ClassName) :
    Prop :=
  Context.rootsOf registry bases ≠ [] →
    (memory.classpathScans.get? (classpathKey (Context.rootsOf registry bases))).isSome = true

/-- The memory has an answer for the package of every one of some classes. -/
def ScanCache.HasPackages (memory : ScanCache) (registry : TypeRegistry) (bases : List ClassName) :
    Prop :=
  ∀ base ∈ bases, ∀ root, registry.locationOf base = some root →
    (memory.packageScans.get? (packageKey base.package root)).isSome = true

/-- The memory has an answer for the scan that a step asks for. -/
def HookStep.Answered (registry : TypeRegistry) (memory : ScanCache) : HookStep → Prop
  | .act (.offerArchive ref) => memory.HasArchives registry (ref.identities registry)
  | .act (.offerPackage ref) => memory.HasPackages registry (ref.identities registry)
  | .act _ => True
  | .scanArchives bases => memory.HasArchives registry bases
  | .scanPackages bases => memory.HasPackages registry bases

namespace Context
variable {env : Environment} {memory : ScanCache}

theorem hasArchives_scanArchives {context : Context} {bases : List ClassName}
    (h : (context.scanArchives env bases).2.scans.Within memory) :
    memory.HasArchives env.registry bases := by
  intro hroots
  rw [scanArchives] at h
  split at h
  next hnil => exact absurd hnil hroots
  next =>
    have hkey := h.classpath
      (ScanCache.get?_classpathScans_classNamesForClasspath context.scans env.scanner _)
    rw [hkey]
    rfl

theorem hasPackages_scanPackages {context : Context} {bases : List ClassName}
    (h : (context.scanPackages env bases).2.scans.Within memory) :
    memory.HasPackages env.registry bases := by
  induction bases generalizing context with
  | nil => exact fun _ hbase => (List.not_mem_nil hbase).elim
  | cons base bases ih =>
    refine List.forall_mem_cons.2 ⟨fun root hroot => ?_, ih h⟩
    have hfirst := (grows_scanPackages (context.scanPackage env base).2 env bases).scans.trans h
    rw [scanPackage] at hfirst
    simp only [hroot] at hfirst
    have hkey := hfirst.package
      (ScanCache.get?_packageScans_classNamesForPackage context.scans env.scanner base.package root)
    rw [hkey]
    rfl

theorem answered_take {context : Context} {step : HookStep}
    (h : (context.take env step).scans.Within memory) : step.Answered env.registry memory := by
  cases step with
  | act action =>
    cases action with
    | offerPackage ref => exact hasPackages_scanPackages (scans_enqueueAll _ _ ▸ h)
    | offerArchive ref => exact hasArchives_scanArchives (scans_enqueueAll _ _ ▸ h)
    | _ => trivial
  | scanArchives bases => exact hasArchives_scanArchives h
  | scanPackages bases => exact hasPackages_scanPackages h

/-- Every scan that steps ask for is remembered. -/
theorem answered_takeAll {context : Context} {steps : List HookStep}
    (h : (context.takeAll env steps).scans.Within memory) :
    ∀ step ∈ steps, step.Answered env.registry memory := by
  induction steps generalizing context with
  | nil => exact fun _ hstep => (List.not_mem_nil hstep).elim
  | cons step steps ih =>
    have hrest := (grows_takeAll (context.take env step) env steps).scans
    exact List.forall_mem_cons.2 ⟨answered_take (hrest.trans h), ih h⟩

/-! ## Classes that scans bring in -/

theorem mem_archiveRoots_scanArchives (context : Context) {bases : List ClassName} {root : Url}
    (h : root ∈ rootsOf env.registry bases) :
    root ∈ (context.scanArchives env bases).2.archiveRoots := by
  rw [scanArchives]
  split
  next hnil => exact (List.not_mem_nil (hnil ▸ h)).elim
  next => exact OrderedSet.mem_insertAll.2 (Or.inr h)

theorem mem_included_scanPackages {context : Context} {bases : List ClassName} {name : ClassName}
    (h : name ∈ (context.scanPackages env bases).1) :
    name ∈ (context.scanPackages env bases).2.included := by
  induction bases generalizing context with
  | nil => exact (List.not_mem_nil h).elim
  | cons base bases ih =>
    change name ∈ (context.scanPackage env base).1 ++
      ((context.scanPackage env base).2.scanPackages env bases).1 at h
    rcases List.mem_append.1 h with hfirst | hrest
    · refine (grows_scanPackages (context.scanPackage env base).2 env bases).included _ ?_
      rw [scanPackage] at hfirst ⊢
      split at hfirst
      next => exact (List.not_mem_nil hfirst).elim
      next => exact OrderedSet.mem_insertAll.2 (Or.inr hfirst)
    · exact ih hrest

/-- Roots that a step scans count as archive roots after the steps. -/
theorem mem_archiveRoots_takeAll (context : Context) {steps : List HookStep}
    {bases : List ClassName} (hstep : .scanArchives bases ∈ steps) {root : Url}
    (h : root ∈ rootsOf env.registry bases) : root ∈ (context.takeAll env steps).archiveRoots := by
  obtain ⟨first, rest, rfl⟩ := List.append_of_mem hstep
  rw [takeAll_append]
  exact (grows_takeAll _ env rest).archiveRoots _ (mem_archiveRoots_scanArchives _ h)

/-- Names that a step finds in packages are included after the steps. -/
theorem mem_included_takeAll {context : Context} {steps : List HookStep} {bases : List ClassName}
    (hstep : .scanPackages bases ∈ steps)
    (hmemory : (context.takeAll env steps).scans.Within memory) {name : ClassName}
    (h : name ∈ memory.packageNames env.registry bases) :
    name ∈ (context.takeAll env steps).included := by
  obtain ⟨first, rest, rfl⟩ := List.append_of_mem hstep
  rw [takeAll_append] at hmemory ⊢
  have hgrows := grows_takeAll (((context.takeAll env first).scanPackages env bases).2) env rest
  refine hgrows.included _ (mem_included_scanPackages ?_)
  rwa [scanPackages_eq (hgrows.scans.trans hmemory)]

end Context
end BeanDiscovery
