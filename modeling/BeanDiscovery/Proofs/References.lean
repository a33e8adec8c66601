import BeanDiscovery.Plugin.DefaultSet
import BeanDiscovery.Proofs.VisitSteps

/-!
# What a class refers to

A class refers to other classes through its injection points, its markers and its superclass, and through
the framework markers that name more classes. Three more markers refer to whole archives and packages,
whose names come from a scan. The main statements say that the plugins for the container's own notions and
for the framework markers offer exactly these names, and that the other default plugins offer nothing but
the archives of the proxy machinery.
-/
namespace BeanDiscovery

/-- One of the markers makes a member an injection point. -/
def IsInjected (markers : List MarkerUse) : Prop :=
  ∃ marker ∈ markers, marker.name = Vocabulary.inject ∨ marker.name = Vocabulary.produces

/-- A field that is injected, or through which beans are looked up on demand. -/
def FieldInfo.IsFollowed (field : FieldInfo) : Prop :=
  IsInjected field.markers ∨ field.declared.raw? = some Vocabulary.provider ∨
    field.declared.raw? = some Vocabulary.instanceLookup

namespace ClassInfo

/-- The names that stand in the metadata of a class and are to be explored with it. Of several uses of a
framework marker the first one counts. -/
inductive Refers (registry : TypeRegistry) (package : String) (info : ClassInfo) : ClassName → Prop
  | field {field name} (hfield : field ∈ info.fields) (hfollowed : field.IsFollowed)
      (hname : name ∈ field.declared.identities) : Refers registry package info name
  | parameter {method type name} (hmethod : method ∈ info.methods)
      (hinjected : IsInjected method.markers) (htype : type ∈ method.params)
      (hname : name ∈ type.identities) : Refers registry package info name
  | result {method type name} (hmethod : method ∈ info.methods)
      (hinjected : IsInjected method.markers) (htype : method.returns = some type)
      (hname : name ∈ type.identities) : Refers registry package info name
  | marker {marker} (hmarker : marker ∈ info.markers) (hforeign : marker.name.package ≠ package) :
      Refers registry package info marker.name
  | superclass {type name} (htype : info.superclass = some type)
      (hraw : type.raw? ≠ some Vocabulary.object) (hname : name ∈ type.identities) :
      Refers registry package info name
  | additional {marker name}
      (hmarker : info.marker? (Vocabulary.relocated Vocabulary.additionalClasses package) =
        some marker)
      (hname : name ∈ marker.value) : Refers registry package info name
  | late {marker text other}
      (hmarker : info.marker? (Vocabulary.relocated Vocabulary.additionalClasses package) =
        some marker)
      (htext : text ∈ marker.late) (hother : registry.resolve ⟨text⟩ = some other) :
      Refers registry package info other.name
  | alternative {marker name}
      (hmarker : info.marker? (Vocabulary.relocated Vocabulary.activatedAlternatives package) =
        some marker)
      (hname : name ∈ marker.value) : Refers registry package info name

/-- The names that a memory of scans holds for the archives and packages a class refers to. -/
inductive Expands (registry : TypeRegistry) (memory : ScanCache) (package : String)
    (info : ClassInfo) : ClassName → Prop
  | archives {marker roots names name}
      (hmarker : info.marker? (Vocabulary.relocated Vocabulary.additionalClasspaths package) =
        some marker)
      (hroots : roots = (OrderedSet.ofList (marker.value.filterMap registry.locationOf)).toList)
      (hne : roots ≠ [])
      (hnames : memory.classpathScans.get? (ScanCache.classpathKey roots) = some names)
      (hname : name ∈ names) : Expands registry memory package info name
  | packages {marker base root names name}
      (hmarker : info.marker? (Vocabulary.relocated Vocabulary.additionalPackages package) =
        some marker)
      (hbase : base ∈ marker.value) (hroot : registry.locationOf base = some root)
      (hnames : memory.packageScans.get? (ScanCache.packageKey base.package root) = some names)
      (hname : name ∈ names) : Expands registry memory package info name

/-- The names that a memory of scans holds for the archives of the proxy machinery, if the class asks for
proxies. -/
inductive NeedsProxies (registry : TypeRegistry) (memory : ScanCache) (info : ClassInfo) :
    ClassName → Prop
  | archive {sentinel root names name} (hinfo : info.name = Plugin.proxySupportMarker)
      (hsentinel : sentinel ∈ Plugin.proxySentinels)
      (hroot : registry.locationOf sentinel = some root)
      (hnames : memory.classpathScans.get? (ScanCache.classpathKey [root]) = some names)
      (hname : name ∈ names) : NeedsProxies registry memory info name

/-- A memory of scans has an answer for every scan that a class asks for. -/
structure ScansRemembered (registry : TypeRegistry) (memory : ScanCache) (package : String)
    (info : ClassInfo) : Prop where
  archives : ∀ marker,
    info.marker? (Vocabulary.relocated Vocabulary.additionalClasspaths package) = some marker →
      memory.HasArchives registry marker.value
  packages : ∀ marker,
    info.marker? (Vocabulary.relocated Vocabulary.additionalPackages package) = some marker →
      memory.HasPackages registry marker.value
  proxies : info.name = Plugin.proxySupportMarker →
    ∀ sentinel ∈ Plugin.proxySentinels, memory.HasArchives registry [sentinel]

/-- A container has to build the extension of such a class. -/
def isConcreteExtension (container : ContainerInterface) (info : ClassInfo) : Bool :=
  !info.isAbstract && container.isExtensionType info

/-- What a container makes of a class: a registration if it is a concrete extension type that the container
can build. -/
def registrations (container : ContainerInterface) (info : ClassInfo) :
    List ExtensionRegistration :=
  if info.isAbstract || !container.isExtensionType info then []
  else match container.instantiate info with
    | .ok extension => [⟨extension, info.name.text⟩]
    | .error _ => []

theorem registrations_of_not_concrete {container : ContainerInterface} {info : ClassInfo}
    (h : ¬ info.isConcreteExtension container = true) : info.registrations container = [] := by
  have hplain : (info.isAbstract || !container.isExtensionType info) = true := by
    simpa [isConcreteExtension, Classical.or_iff_not_imp_left] using h
  rw [registrations, if_pos hplain]

theorem registrations_of_concrete {container : ContainerInterface} {info : ClassInfo}
    {extension : ContainerExtension} (h : info.isConcreteExtension container = true)
    (hbuilt : container.instantiate info = .ok extension) :
    info.registrations container = [⟨extension, info.name.text⟩] := by
  have hconcrete : ¬ (info.isAbstract || !container.isExtensionType info) = true := by
    simpa [isConcreteExtension] using h
  rw [registrations, if_neg hconcrete, hbuilt]

end ClassInfo

namespace TypeRegistry
variable {registry : TypeRegistry} {info : ClassInfo}

/-- No other class has the name of a registered class. -/
theorem resolve_of_mem (h : info ∈ registry.classes) : registry.resolve info.name = some info := by
  have hsome : (registry.resolve info.name).isSome = true :=
    resolve_isSome.2 (List.mem_map_of_mem h)
  obtain ⟨other, hother⟩ := Option.isSome_iff_exists.1 hsome
  rw [hother, List.inj_on_of_nodup_map registry.distinct (mem_of_resolve hother) h
    (name_of_resolve hother)]

end TypeRegistry

/-! ## Remembered names -/

namespace ScanCache
variable {memory : ScanCache} {registry : TypeRegistry} {bases : List ClassName} {name : ClassName}

theorem mem_namesBelow {roots : List Url} : name ∈ memory.namesBelow roots ↔
    roots ≠ [] ∧ ∃ names, memory.classpathScans.get? (classpathKey roots) = some names ∧
      name ∈ names := by
  rw [namesBelow]
  split
  next h => simp [h]
  next h => cases memory.classpathScans.get? (classpathKey roots) <;> simp [h]

theorem mem_packageNames : name ∈ memory.packageNames registry bases ↔
    ∃ base ∈ bases, ∃ root, registry.locationOf base = some root ∧
      ∃ names, memory.packageScans.get? (packageKey base.package root) = some names ∧
        name ∈ names := by
  rw [packageNames, List.mem_flatMap]
  refine exists_congr fun base => and_congr_right fun _ => ?_
  cases registry.locationOf base with
  | none => simp
  | some root =>
    cases h : memory.packageScans.get? (packageKey base.package root) <;>
      simp [namesInPackage, h]

end ScanCache

/-! ## Plans of the plugins -/

namespace Plugin
variable {env : Environment} {registry : TypeRegistry} {memory : ScanCache} {package : String}
  {info : ClassInfo} {name : ClassName}

/-- The names that a plugin plans to offer at a hook point. -/
def offers (env : Environment) (memory : ScanCache) (point : HookPoint) (plugin : Plugin) :
    List ClassName := (plugin.plan env memory point).flatMap (·.offers env.registry memory)

theorem mem_offers_planAll {plugins : List Plugin} {points : List HookPoint} :
    name ∈ (planAll env memory plugins points).flatMap (·.offers env.registry memory) ↔
      ∃ point ∈ points, ∃ plugin ∈ plugins, name ∈ plugin.offers env memory point := by
  simp only [planAll, offers, List.flatMap_assoc, List.mem_flatMap]

theorem mem_planAll {plugins : List Plugin} {points : List HookPoint} {step : HookStep} :
    step ∈ planAll env memory plugins points ↔
      ∃ point ∈ points, ∃ plugin ∈ plugins, step ∈ plugin.plan env memory point := by
  simp only [planAll, List.mem_flatMap]

theorem flatMap_plan_actions {α : Type} (f : HookStep → List α) (actions : List Action) :
    ((Contribution.actions actions).plan registry memory).flatMap f =
      actions.flatMap fun action => f (.act action) := by
  rw [Contribution.plan_actions, List.flatMap_map]

/-- Offered names are planned as they are. -/
theorem offers_offers (names : List ClassName) :
    ((Contribution.offers names).plan registry memory).flatMap (·.offers registry memory) =
      names := by
  rw [Contribution.offers, flatMap_plan_actions, List.flatMap_map]
  exact List.flatMap_singleton' names

theorem offers_scanArchives (bases : List ClassName) :
    ((Contribution.scanArchives bases .offers).plan registry memory).flatMap
      (·.offers registry memory) = memory.archiveNames registry bases :=
  offers_offers _

theorem offers_scanPackages (bases : List ClassName) :
    ((Contribution.scanPackages bases .offers).plan registry memory).flatMap
      (·.offers registry memory) = memory.packageNames registry bases :=
  offers_offers _

/-! ### The container's own notions -/

theorem isInjectionPoint_iff {markers : List MarkerUse} :
    isInjectionPoint markers = true ↔ IsInjected markers := by
  simp [isInjectionPoint, IsInjected]

theorem isLookup_iff {field : FieldInfo} : isLookup field = true ↔
    field.declared.raw? = some Vocabulary.provider ∨
      field.declared.raw? = some Vocabulary.instanceLookup := by
  rw [isLookup, FieldInfo.rawType?]
  cases field.declared.raw? <;> simp

theorem plan_extensionContribution (env : Environment) (info : ClassInfo) :
    (extensionContribution env info).plan registry memory =
      (info.registrations env.container).map fun registration => .act (.register registration) := by
  rw [extensionContribution, ClassInfo.registrations]
  split
  · rfl
  · cases env.container.instantiate info <;> rfl

theorem plan_ite_actions (condition : Prop) [Decidable condition] (actions : List Action) :
    (if condition then Contribution.actions actions else .done).plan registry memory =
      if condition then actions.map .act else [] := by
  split
  · exact Contribution.plan_actions registry memory actions
  · rfl

/-- A class that can be built if it has to be is registered and put in its groups; otherwise nothing is
done for it. -/
theorem plan_standard_process (env : Environment) (memory : ScanCache) (info : ClassInfo) :
    standard.plan env memory (.process info) =
      ((info.registrations env.container).map fun registration => .act (.register registration)) ++
        ((extensionContribution env info).verdict env.registry memory).elim
          ((activationsOf info).map fun group => .act (.activate group (.ofClass info.name)))
          fun _ => [] := by
  refine (Contribution.plan_append env.registry memory (extensionContribution env info) _).trans ?_
  rw [plan_extensionContribution, Contribution.plan_actions, List.map_map]
  rfl

theorem plan_standard_field (env : Environment) (memory : ScanCache) (info : ClassInfo)
    (field : FieldInfo) :
    standard.plan env memory (.field info field) =
      if isInjectionPoint field.markers || isLookup field
        then [.act (.offer (.ofType field.declared))] else [] :=
  plan_ite_actions _ _

theorem plan_standard_method (env : Environment) (memory : ScanCache) (info : ClassInfo)
    (method : MethodInfo) :
    standard.plan env memory (.method info method) =
      if isInjectionPoint method.markers
        then (method.params ++ method.returns.toList).map fun type => .act (.offer (.ofType type))
        else [] := by
  refine (plan_ite_actions _ _).trans ?_
  rw [List.map_map]
  rfl

theorem offers_standard_process (info : ClassInfo) :
    standard.offers env memory (.process info) = [] := by
  rw [offers, plan_standard_process, List.flatMap_append, List.append_eq_nil_iff]
  constructor
  · rw [List.flatMap_map]
    exact List.flatMap_eq_nil_iff.2 fun _ _ => rfl
  · cases (extensionContribution env info).verdict env.registry memory with
    | none =>
      rw [Option.elim_none, List.flatMap_map]
      exact List.flatMap_eq_nil_iff.2 fun _ _ => rfl
    | some error => rfl

theorem mem_offers_standard_field {field : FieldInfo} :
    name ∈ standard.offers env memory (.field info field) ↔
      field.IsFollowed ∧ name ∈ field.declared.identities := by
  rw [offers, plan_standard_field, FieldInfo.IsFollowed, ← isInjectionPoint_iff, ← isLookup_iff,
    ← Bool.or_eq_true]
  split
  next h => simp [h, HookStep.offers, ClassRef.identities]
  next h => simp [h]

theorem mem_offers_standard_method {method : MethodInfo} :
    name ∈ standard.offers env memory (.method info method) ↔
      IsInjected method.markers ∧
        ∃ type, (type ∈ method.params ∨ method.returns = some type) ∧ name ∈ type.identities := by
  rw [offers, plan_standard_method, ← isInjectionPoint_iff]
  split
  next h => simp [h, HookStep.offers, ClassRef.identities, or_and_right, exists_or]
  next h => simp [h]

/-! ### The framework's own markers -/

theorem verdict_onMarker (package : String) (info : ClassInfo) (marker : ClassName)
    {contribution : MarkerUse → Contribution}
    (h : ∀ found, (contribution found).verdict registry memory = none) :
    (onMarker package info marker contribution).verdict registry memory = none := by
  rw [onMarker]
  split
  · exact h _
  · rfl

theorem plan_onMarker (package : String) (info : ClassInfo) (marker : ClassName)
    (contribution : MarkerUse → Contribution) :
    (onMarker package info marker contribution).plan registry memory =
      (info.marker? (Vocabulary.relocated marker package)).toList.flatMap
        fun found => (contribution found).plan registry memory := by
  rw [onMarker]
  split
  next found h => simp [h]
  next h => simp [h, Contribution.plan]

/-- None of the framework markers makes a run fail. -/
theorem verdict_testMarkersOnClass (package : String) (registry : TypeRegistry)
    (memory : ScanCache) (info : ClassInfo) :
    (testMarkersOnClass package registry info).verdict registry memory = none := by
  refine Contribution.verdict_sequence.2 fun contribution hmem => ?_
  simp only [List.mem_cons, List.not_mem_nil, or_false] at hmem
  rcases hmem with rfl | rfl | rfl | rfl | rfl | rfl | rfl
  all_goals first
    | exact verdict_onMarker _ _ _ fun _ => Contribution.verdict_actions _ _ _
    | exact Contribution.verdict_actions _ _ _

/-- The steps that the framework markers on a class plan: a scan for archives and one for packages with
offers of what they hold, offers, exclusions, activations, and offers of the other markers and of the
superclass. -/
theorem plan_testMarkers_process (env : Environment) (memory : ScanCache) (package : String)
    (info : ClassInfo) :
    (testMarkers package).plan env memory (.process info) =
      ((info.marker? (Vocabulary.relocated Vocabulary.additionalClasspaths package)).toList.flatMap
        fun marker => (Contribution.scanArchives marker.value .offers).plan env.registry memory) ++
      (((info.marker? (Vocabulary.relocated Vocabulary.additionalPackages package)).toList.flatMap
        fun marker => (Contribution.scanPackages marker.value .offers).plan env.registry memory) ++
      (((info.marker? (Vocabulary.relocated Vocabulary.additionalClasses package)).toList.flatMap
        fun marker => (markedRefs marker).map fun ref => .act (.offer ref)) ++
      (((info.marker? (Vocabulary.relocated Vocabulary.ignoredClasses package)).toList.flatMap
        fun marker => (markedRefs marker).map fun ref => .act (.ignore ref)) ++
      (((info.marker? (Vocabulary.relocated Vocabulary.activatedAlternatives package)).toList.flatMap
        fun marker => (marker.value.flatMap (activateAlternative env.registry)).map .act) ++
      (((foreignMarkers package info).map fun name => .act (.offer (.ofClass name))) ++
        (followedSuperclass info).map fun type => .act (.offer (.ofType type))))))) := by
  refine (Contribution.plan_sequence
    (verdict_testMarkersOnClass package env.registry memory info)).trans ?_
  simp only [List.flatMap_cons, List.flatMap_nil, List.append_nil, plan_onMarker,
    Contribution.offers, Contribution.plan_actions, List.map_map]
  rfl

theorem plan_testMarkers_field (env : Environment) (memory : ScanCache) (package : String)
    (info : ClassInfo) (field : FieldInfo) :
    (testMarkers package).plan env memory (.field info field) =
      if field.hasMarker (Vocabulary.relocated Vocabulary.ignoredClasses package)
        then [.act (.ignore (.ofType field.declared))] else [] :=
  plan_ite_actions _ _

theorem plan_testMarkers_method (env : Environment) (memory : ScanCache) (package : String)
    (info : ClassInfo) (method : MethodInfo) :
    (testMarkers package).plan env memory (.method info method) =
      if method.hasMarker (Vocabulary.relocated Vocabulary.ignoredClasses package)
        then method.returns.toList.map fun type => .act (.ignore (.ofType type)) else [] := by
  refine (plan_ite_actions _ _).trans ?_
  rw [List.map_map]
  rfl

theorem offers_activateAlternative (registry : TypeRegistry) (memory : ScanCache)
    (name : ClassName) :
    (activateAlternative registry name).flatMap
      (fun action => (HookStep.act action).offers registry memory) = [name] := by
  rw [activateAlternative]
  split <;> rfl

/-- What the framework markers on a class plan to offer: what the archives and packages hold, the classes
that are named, the other markers and the superclass. -/
theorem offers_testMarkers_process (package : String) (info : ClassInfo) :
    (testMarkers package).offers env memory (.process info) =
      (info.marker? (Vocabulary.relocated Vocabulary.additionalClasspaths package)).toList.flatMap
        (fun marker => memory.archiveNames env.registry marker.value) ++
      ((info.marker? (Vocabulary.relocated Vocabulary.additionalPackages package)).toList.flatMap
        (fun marker => memory.packageNames env.registry marker.value) ++
      ((info.marker? (Vocabulary.relocated Vocabulary.additionalClasses package)).toList.flatMap
        (fun marker => (markedRefs marker).flatMap (·.identities env.registry)) ++
      ((info.marker? (Vocabulary.relocated Vocabulary.activatedAlternatives package)).toList.flatMap
        (·.value) ++
      (foreignMarkers package info ++
      (followedSuperclass info).flatMap (·.identities))))) := by
  have hignored : ∀ refs : List ClassRef, refs.flatMap
      (fun ref => (HookStep.act (.ignore ref)).offers env.registry memory) = [] :=
    fun refs => List.flatMap_eq_nil_iff.2 fun _ _ => rfl
  have hnil : ∀ markers : List MarkerUse, markers.flatMap (fun _ => ([] : List ClassName)) = [] :=
    fun markers => List.flatMap_eq_nil_iff.2 fun _ _ => rfl
  have hnames : ∀ names : List ClassName, names.flatMap (fun name =>
      (HookStep.act (.offer (.ofClass name))).offers env.registry memory) = names :=
    List.flatMap_singleton'
  rw [offers, plan_testMarkers_process]
  simp only [List.flatMap_append, List.flatMap_assoc, List.flatMap_map, offers_scanArchives,
    offers_scanPackages, offers_activateAlternative, List.flatMap_singleton', hignored, hnil, hnames,
    List.nil_append]
  rfl

theorem scanArchives_mem_plan {package : String} {marker : MarkerUse}
    (h : info.marker? (Vocabulary.relocated Vocabulary.additionalClasspaths package) =
      some marker) :
    .scanArchives marker.value ∈ (testMarkers package).plan env memory (.process info) := by
  rw [plan_testMarkers_process, h]
  exact List.mem_append_left _ List.mem_cons_self

theorem scanPackages_mem_plan {package : String} {marker : MarkerUse}
    (h : info.marker? (Vocabulary.relocated Vocabulary.additionalPackages package) =
      some marker) :
    .scanPackages marker.value ∈ (testMarkers package).plan env memory (.process info) := by
  rw [plan_testMarkers_process, h]
  exact List.mem_append_right _ (List.mem_append_left _ List.mem_cons_self)

/-- A marker on a member leaves classes out and offers none. -/
theorem offers_testMarkers_member {package : String} {point : HookPoint}
    (h : ∀ info, point ≠ .process info) : (testMarkers package).offers env memory point = [] := by
  cases point with
  | bootstrap test => rfl
  | process info => exact absurd rfl (h info)
  | field info field =>
    rw [offers, plan_testMarkers_field]
    split <;> rfl
  | method info method =>
    rw [offers, plan_testMarkers_method]
    split
    · rw [List.flatMap_map]
      exact List.flatMap_eq_nil_iff.2 fun _ _ => rfl
    · rfl

theorem mem_identities_markedRefs {marker : MarkerUse} :
    name ∈ (markedRefs marker).flatMap (·.identities registry) ↔
      name ∈ marker.value ∨
        ∃ text ∈ marker.late, ∃ other, registry.resolve ⟨text⟩ = some other ∧ other.name = name := by
  simp only [markedRefs, List.flatMap_append, List.flatMap_map, List.mem_append, List.mem_flatMap,
    ClassRef.identities, List.mem_singleton, Option.mem_toList, Option.map_eq_some_iff]
  simp

theorem mem_foreignMarkers {package : String} :
    name ∈ foreignMarkers package info ↔
      ∃ marker ∈ info.markers, marker.name.package ≠ package ∧ marker.name = name := by
  simp only [foreignMarkers, List.mem_filter, List.mem_map, decide_eq_true_eq]
  constructor
  · rintro ⟨⟨marker, hmarker, rfl⟩, hforeign⟩
    exact ⟨marker, hmarker, hforeign, rfl⟩
  · rintro ⟨marker, hmarker, hforeign, rfl⟩
    exact ⟨⟨marker, hmarker, rfl⟩, hforeign⟩

theorem mem_followedSuperclass {type : TypeRef} :
    type ∈ followedSuperclass info ↔
      info.superclass = some type ∧ type.raw? ≠ some Vocabulary.object := by
  simp [followedSuperclass]

theorem expands_iff {package : String} :
    info.Expands registry memory package name ↔
      (∃ marker,
        info.marker? (Vocabulary.relocated Vocabulary.additionalClasspaths package) = some marker ∧
          name ∈ memory.archiveNames registry marker.value) ∨
      ∃ marker,
        info.marker? (Vocabulary.relocated Vocabulary.additionalPackages package) = some marker ∧
          name ∈ memory.packageNames registry marker.value := by
  simp only [ScanCache.archiveNames, ScanCache.mem_namesBelow, ScanCache.mem_packageNames]
  constructor
  · rintro (⟨hmarker, rfl, hne, hnames, hname⟩ | ⟨hmarker, hbase, hroot, hnames, hname⟩)
    · exact Or.inl ⟨_, hmarker, hne, _, hnames, hname⟩
    · exact Or.inr ⟨_, hmarker, _, hbase, _, hroot, _, hnames, hname⟩
  · rintro (⟨_, hmarker, hne, _, hnames, hname⟩ | ⟨_, hmarker, _, hbase, _, hroot, _, hnames, hname⟩)
    · exact .archives hmarker rfl hne hnames hname
    · exact .packages hmarker hbase hroot hnames hname

/-- On a class the framework markers plan to offer what the class expands to and what it refers to by its
markers and its superclass. -/
theorem mem_offers_testMarkers_process {package : String} :
    name ∈ (testMarkers package).offers env memory (.process info) ↔
      info.Expands env.registry memory package name ∨
      (∃ marker,
        info.marker? (Vocabulary.relocated Vocabulary.additionalClasses package) = some marker ∧
          (name ∈ marker.value ∨ ∃ text ∈ marker.late, ∃ other,
            env.registry.resolve ⟨text⟩ = some other ∧ other.name = name)) ∨
      (∃ marker,
        info.marker? (Vocabulary.relocated Vocabulary.activatedAlternatives package) = some marker ∧
          name ∈ marker.value) ∨
      (∃ marker ∈ info.markers, marker.name.package ≠ package ∧ marker.name = name) ∨
      ∃ type, (info.superclass = some type ∧ type.raw? ≠ some Vocabulary.object) ∧
        name ∈ type.identities := by
  rw [offers_testMarkers_process, expands_iff]
  simp only [List.mem_append, List.mem_flatMap (b := name), Option.mem_toList, mem_foreignMarkers,
    mem_followedSuperclass, ← mem_identities_markedRefs, or_assoc]

theorem mem_hookPoints {point : HookPoint} : point ∈ info.hookPoints ↔
    point = .process info ∨ (∃ field ∈ info.fields, point = .field info field) ∨
      ∃ method ∈ info.methods, point = .method info method := by
  simp only [ClassInfo.hookPoints, List.mem_cons, List.mem_append, List.mem_map, eq_comm]

theorem process_mem_hookPoints {other : ClassInfo} :
    .process other ∈ info.hookPoints ↔ other = info := by
  simp [mem_hookPoints]

theorem refers_of_offers {package : String} {point : HookPoint} (hpoint : point ∈ info.hookPoints)
    (hname : name ∈ standard.offers env memory point ∨
      name ∈ (testMarkers package).offers env memory point) :
    info.Refers env.registry package name ∨ info.Expands env.registry memory package name := by
  rcases mem_hookPoints.1 hpoint with rfl | ⟨field, hfield, rfl⟩ | ⟨method, hmethod, rfl⟩
  · rw [offers_standard_process, mem_offers_testMarkers_process] at hname
    rcases hname.resolve_left List.not_mem_nil with hexpands |
        ⟨marker, hmarker, hvalue | ⟨text, htext, other, hother, rfl⟩⟩ | ⟨marker, hmarker, hvalue⟩ |
        ⟨marker, hmarker, hforeign, rfl⟩ | ⟨type, ⟨htype, hraw⟩, htypes⟩
    · exact Or.inr hexpands
    · exact Or.inl (.additional hmarker hvalue)
    · exact Or.inl (.late hmarker htext hother)
    · exact Or.inl (.alternative hmarker hvalue)
    · exact Or.inl (.marker hmarker hforeign)
    · exact Or.inl (.superclass htype hraw htypes)
  · rw [mem_offers_standard_field, offers_testMarkers_member (by simp)] at hname
    obtain ⟨hfollowed, htypes⟩ := hname.resolve_right List.not_mem_nil
    exact Or.inl (.field hfield hfollowed htypes)
  · rw [mem_offers_standard_method, offers_testMarkers_member (by simp)] at hname
    obtain ⟨hinjected, type, hparam | hresult, htypes⟩ := hname.resolve_right List.not_mem_nil
    · exact Or.inl (.parameter hmethod hinjected hparam htypes)
    · exact Or.inl (.result hmethod hinjected hresult htypes)

theorem exists_offers_of_refers {package : String} (h : info.Refers env.registry package name) :
    ∃ point ∈ info.hookPoints, name ∈ standard.offers env memory point ∨
      name ∈ (testMarkers package).offers env memory point := by
  have hprocess : HookPoint.process info ∈ info.hookPoints := mem_hookPoints.2 (Or.inl rfl)
  cases h with
  | field hfield hfollowed hname =>
    exact ⟨_, mem_hookPoints.2 (Or.inr (Or.inl ⟨_, hfield, rfl⟩)),
      Or.inl (mem_offers_standard_field.2 ⟨hfollowed, hname⟩)⟩
  | parameter hmethod hinjected htype hname =>
    exact ⟨_, mem_hookPoints.2 (Or.inr (Or.inr ⟨_, hmethod, rfl⟩)),
      Or.inl (mem_offers_standard_method.2 ⟨hinjected, _, Or.inl htype, hname⟩)⟩
  | result hmethod hinjected htype hname =>
    exact ⟨_, mem_hookPoints.2 (Or.inr (Or.inr ⟨_, hmethod, rfl⟩)),
      Or.inl (mem_offers_standard_method.2 ⟨hinjected, _, Or.inr htype, hname⟩)⟩
  | marker hmarker hforeign =>
    exact ⟨_, hprocess, Or.inr (mem_offers_testMarkers_process.2
      (Or.inr (Or.inr (Or.inr (Or.inl ⟨_, hmarker, hforeign, rfl⟩)))))⟩
  | superclass htype hraw hname =>
    exact ⟨_, hprocess, Or.inr (mem_offers_testMarkers_process.2
      (Or.inr (Or.inr (Or.inr (Or.inr ⟨_, ⟨htype, hraw⟩, hname⟩)))))⟩
  | additional hmarker hname =>
    exact ⟨_, hprocess, Or.inr (mem_offers_testMarkers_process.2
      (Or.inr (Or.inl ⟨_, hmarker, Or.inl hname⟩)))⟩
  | late hmarker htext hother =>
    exact ⟨_, hprocess, Or.inr (mem_offers_testMarkers_process.2
      (Or.inr (Or.inl ⟨_, hmarker, Or.inr ⟨_, htext, _, hother, rfl⟩⟩)))⟩
  | alternative hmarker hname =>
    exact ⟨_, hprocess, Or.inr (mem_offers_testMarkers_process.2
      (Or.inr (Or.inr (Or.inl ⟨_, hmarker, hname⟩))))⟩

/-- At the hook points of a class the two plugins plan to offer what the class refers to and what it
expands to, and nothing else. -/
theorem exists_offers_iff {package : String} :
    (∃ point ∈ info.hookPoints, name ∈ standard.offers env memory point ∨
        name ∈ (testMarkers package).offers env memory point) ↔
      info.Refers env.registry package name ∨ info.Expands env.registry memory package name := by
  refine ⟨fun ⟨_, hpoint, hname⟩ => refers_of_offers hpoint hname, ?_⟩
  rintro (hrefers | hexpands)
  · exact exists_offers_of_refers hrefers
  · exact ⟨_, mem_hookPoints.2 (Or.inl rfl),
      Or.inr (mem_offers_testMarkers_process.2 (Or.inl hexpands))⟩

/-! ### The other default plugins -/

/-- Actions that ignore classes and register extensions offer nothing. -/
theorem offers_actions_eq_nil {actions : List Action}
    (h : ∀ action ∈ actions, (HookStep.act action).offers registry memory = []) :
    ((Contribution.actions actions).plan registry memory).flatMap (·.offers registry memory) =
      [] := by
  rw [flatMap_plan_actions]
  exact List.flatMap_eq_nil_iff.2 h

theorem offers_ignoreMocked {framework : MockFramework} {field : FieldInfo} {action : Action}
    (h : action ∈ ignoreMocked framework field) :
    (HookStep.act action).offers registry memory = [] := by
  rw [ignoreMocked] at h
  split at h
  · obtain ⟨raw, -, rfl⟩ := List.mem_map.1 h
    rfl
  · exact (List.not_mem_nil h).elim

theorem offers_mocking (framework : MockFramework) (point : HookPoint) :
    (mocking framework).offers env memory point = [] := by
  cases point with
  | bootstrap test =>
    change ((if env.registry.isPresent framework.sentinel then Contribution.actions
      (.register _ :: ((env.registry.resolve test).toList.flatMap (·.fields)).flatMap
        (ignoreMocked framework)) else .done).plan env.registry memory).flatMap _ = []
    split
    · refine offers_actions_eq_nil (List.forall_mem_cons.2 ⟨rfl, fun action haction => ?_⟩)
      obtain ⟨field, -, hfield⟩ := List.mem_flatMap.1 haction
      exact offers_ignoreMocked hfield
    · rfl
  | field info field =>
    change ((if env.registry.isPresent framework.sentinel then Contribution.actions
      (ignoreMocked framework field) else .done).plan env.registry memory).flatMap _ = []
    split
    · exact offers_actions_eq_nil fun _ => offers_ignoreMocked
    · rfl
  | process info => rfl
  | method info method => rfl

theorem offers_testScope (point : HookPoint) : testScope.offers env memory point = [] := by
  cases point <;> rfl

theorem offers_viewScope (point : HookPoint) : viewScope.offers env memory point = [] := by
  cases point with
  | bootstrap test =>
    change ((if env.registry.isPresent viewScopeSentinel then Contribution.actions [.register _]
      else .done).plan env.registry memory).flatMap _ = []
    split <;> rfl
  | _ => rfl

theorem offers_producerConfig (point : HookPoint) :
    producerConfig.offers env memory point = [] := by
  cases point with
  | bootstrap test =>
    change ((if env.registry.isPresent producerConfigSentinel then
      Contribution.actions [.register _] else .done).plan env.registry memory).flatMap _ = []
    split <;> rfl
  | _ => rfl

theorem rootsOf_singleton (registry : TypeRegistry) (base : ClassName) :
    Context.rootsOf registry [base] = (registry.locationOf base).toList := by
  rw [Context.rootsOf]
  cases h : registry.locationOf base with
  | none => rw [List.filterMap_cons_none h]; rfl
  | some root => rw [List.filterMap_cons_some h]; rfl

/-- The archive of a type that cannot be loaded has no names. -/
theorem offers_proxyArchive (sentinel : ClassName) :
    ((proxyArchive sentinel).plan registry memory).flatMap (·.offers registry memory) =
      memory.archiveNames registry [sentinel] := by
  change ((if registry.isPresent sentinel then Contribution.scanArchives [sentinel] .offers
    else .done).plan registry memory).flatMap _ = _
  split
  next => exact offers_scanArchives _
  next h =>
    rw [TypeRegistry.isPresent, Option.not_isSome_iff_eq_none] at h
    rw [ScanCache.archiveNames, rootsOf_singleton, TypeRegistry.locationOf, h]
    rfl

theorem verdict_proxyArchive (sentinel : ClassName) :
    (proxyArchive sentinel).verdict registry memory = none := by
  change (if registry.isPresent sentinel then Contribution.scanArchives [sentinel] .offers
    else .done).verdict registry memory = _
  split
  · exact Contribution.verdict_actions _ _ _
  · rfl

theorem needsProxies_iff : info.NeedsProxies registry memory name ↔
    info.name = proxySupportMarker ∧
      ∃ sentinel ∈ proxySentinels, name ∈ memory.archiveNames registry [sentinel] := by
  simp only [ScanCache.archiveNames, rootsOf_singleton, ScanCache.mem_namesBelow]
  constructor
  · rintro ⟨hinfo, hsentinel, hroot, hnames, hname⟩
    refine ⟨hinfo, _, hsentinel, ?_⟩
    rw [hroot]
    exact ⟨List.cons_ne_nil _ _, _, hnames, hname⟩
  · rintro ⟨hinfo, sentinel, hsentinel, hne, names, hnames, hname⟩
    cases hroot : registry.locationOf sentinel with
    | none => exact absurd (by rw [hroot]; rfl) hne
    | some root =>
      rw [hroot] at hnames
      exact .archive hinfo hsentinel hroot hnames hname

theorem mem_offers_partialBeanProxies :
    name ∈ partialBeanProxies.offers env memory (.process info) ↔
      info.NeedsProxies env.registry memory name := by
  change name ∈ ((if info.name = proxySupportMarker then
    Contribution.sequence (proxySentinels.map proxyArchive) else .done).plan env.registry
      memory).flatMap _ ↔ _
  rw [needsProxies_iff]
  split
  next h =>
    rw [Contribution.plan_sequence (Contribution.verdict_sequence.2 (List.forall_mem_map.2
      fun sentinel _ => verdict_proxyArchive sentinel)), List.flatMap_map, List.flatMap_assoc,
      List.mem_flatMap]
    simp only [offers_proxyArchive, h, true_and]
  next h => simp [h, Contribution.plan]

theorem scanArchives_mem_plan_of_needsProxies (h : info.name = proxySupportMarker)
    {sentinel : ClassName} (hsentinel : sentinel ∈ proxySentinels)
    (hpresent : env.registry.isPresent sentinel = true) :
    .scanArchives [sentinel] ∈ partialBeanProxies.plan env memory (.process info) := by
  change _ ∈ (if info.name = proxySupportMarker then
    Contribution.sequence (proxySentinels.map proxyArchive) else .done).plan env.registry memory
  rw [if_pos h, Contribution.plan_sequence (Contribution.verdict_sequence.2 (List.forall_mem_map.2
    fun sentinel _ => verdict_proxyArchive sentinel)), List.flatMap_map, List.mem_flatMap]
  refine ⟨sentinel, hsentinel, ?_⟩
  rw [proxyArchive, Contribution.plan, hpresent]
  exact List.mem_cons_self

/-- The default plugins offer nothing before the traversal. -/
theorem offers_defaultSet_bootstrap {package : String} {plugin : Plugin}
    (h : plugin ∈ defaultSet package) (test : ClassName) :
    plugin.offers env memory (.bootstrap test) = [] := by
  simp only [defaultSet, List.mem_cons, List.not_mem_nil, or_false] at h
  rcases h with rfl | rfl | rfl | rfl | rfl | rfl | rfl | rfl
  · rfl
  · rfl
  · exact offers_mocking _ _
  · exact offers_mocking _ _
  · exact offers_testScope _
  · exact offers_viewScope _
  · exact offers_producerConfig _
  · rfl

/-- At the hook points of a class the default plugins plan to offer what the class refers to, what it
expands to and the proxy machinery it needs, and nothing else. -/
theorem mem_offers_defaultSet {package : String} :
    name ∈ (planAll env memory (defaultSet package) info.hookPoints).flatMap
        (·.offers env.registry memory) ↔
      info.Refers env.registry package name ∨ info.Expands env.registry memory package name ∨
        info.NeedsProxies env.registry memory name := by
  rw [mem_offers_planAll, ← or_assoc, ← exists_offers_iff, ← mem_offers_partialBeanProxies]
  constructor
  · rintro ⟨point, hpoint, plugin, hplugin, hname⟩
    simp only [defaultSet, List.mem_cons, List.not_mem_nil, or_false] at hplugin
    rcases hplugin with rfl | rfl | rfl | rfl | rfl | rfl | rfl | rfl
    · exact Or.inl ⟨point, hpoint, Or.inl hname⟩
    · exact Or.inl ⟨point, hpoint, Or.inr hname⟩
    · exact absurd hname (by rw [offers_mocking]; exact List.not_mem_nil)
    · exact absurd hname (by rw [offers_mocking]; exact List.not_mem_nil)
    · exact absurd hname (by rw [offers_testScope]; exact List.not_mem_nil)
    · exact absurd hname (by rw [offers_viewScope]; exact List.not_mem_nil)
    · exact absurd hname (by rw [offers_producerConfig]; exact List.not_mem_nil)
    · rcases mem_hookPoints.1 hpoint with rfl | ⟨field, -, rfl⟩ | ⟨method, -, rfl⟩
      · exact Or.inr hname
      · exact absurd hname List.not_mem_nil
      · exact absurd hname List.not_mem_nil
  · rintro (⟨point, hpoint, hname⟩ | hname)
    · rcases hname with hname | hname
      · exact ⟨point, hpoint, standard, by simp [defaultSet], hname⟩
      · exact ⟨point, hpoint, testMarkers package, by simp [defaultSet], hname⟩
    · exact ⟨.process info, mem_hookPoints.2 (Or.inl rfl), partialBeanProxies, by simp [defaultSet],
        hname⟩

/-- The plugins for the container's own notions and for the framework markers plan to offer what a class
refers to and what it expands to, and nothing else. -/
theorem mem_offers_standard_testMarkers {package : String} :
    name ∈ (planAll env memory [standard, testMarkers package] info.hookPoints).flatMap
        (·.offers env.registry memory) ↔
      info.Refers env.registry package name ∨ info.Expands env.registry memory package name := by
  rw [mem_offers_planAll, ← exists_offers_iff]
  simp only [List.mem_cons, List.not_mem_nil, or_false, or_and_right, exists_or, exists_eq_left]

/-- Where the planned scans of the default plugins are answered, the scans of the class are remembered. -/
theorem scansRemembered_of_answered {package : String}
    (h : ∀ step ∈ planAll env memory (defaultSet package) info.hookPoints,
      step.Answered env.registry memory) :
    info.ScansRemembered env.registry memory package where
  archives := fun _ hmarker => h _ (mem_planAll.2 ⟨_, mem_hookPoints.2 (Or.inl rfl),
    testMarkers package, by simp [defaultSet], scanArchives_mem_plan hmarker⟩)
  packages := fun _ hmarker => h _ (mem_planAll.2 ⟨_, mem_hookPoints.2 (Or.inl rfl),
    testMarkers package, by simp [defaultSet], scanPackages_mem_plan hmarker⟩)
  proxies := fun hinfo sentinel hsentinel => by
    cases hpresent : env.registry.isPresent sentinel with
    | true =>
      exact h _ (mem_planAll.2 ⟨_, mem_hookPoints.2 (Or.inl rfl), partialBeanProxies,
        by simp [defaultSet], scanArchives_mem_plan_of_needsProxies hinfo hsentinel hpresent⟩)
    | false =>
      intro hroots
      rw [TypeRegistry.isPresent, ← Bool.not_eq_true, Option.not_isSome_iff_eq_none] at hpresent
      rw [rootsOf_singleton, TypeRegistry.locationOf, hpresent] at hroots
      exact absurd rfl hroots

end Plugin
end BeanDiscovery
