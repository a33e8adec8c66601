import BeanDiscovery.Proofs.ChangedRuns
import Mathlib.Data.List.Find

/-!
# Markers of a framework that has moved

When the framework moves to another package, the uses of its markers get the names that the markers have
there, and nothing else changes about a class. The main statement says that the default plugins for the new
package contribute at a moved hook point what the default plugins contributed at the old one.
-/
namespace BeanDiscovery
open Vocabulary

/-! ## Names -/

namespace Vocabulary
variable {marker other name : ClassName} {package : String}

/-- The markers of the framework. -/
def frameworkMarkers : List ClassName :=
  [additionalClasses, additionalClasspaths, additionalPackages, ignoredClasses,
    activatedAlternatives, producesAlternative]

/-- Their names without a package. -/
def frameworkSimpleNames : List String :=
  ["AdditionalClasses", "AdditionalClasspaths", "AdditionalPackages", "IgnoredClasses",
    "ActivatedAlternatives", "ProducesAlternative"]

/-- A name that no marker of the framework has, whatever its package is. -/
def IsElsewhere (name : ClassName) : Prop := name.simpleName ∉ frameworkSimpleNames

instance (name : ClassName) : Decidable (IsElsewhere name) :=
  inferInstanceAs (Decidable (name.simpleName ∉ frameworkSimpleNames))

theorem map_simpleName_frameworkMarkers :
    frameworkMarkers.map (·.simpleName) = frameworkSimpleNames := by
  decide +kernel

theorem simpleName_mem_of_mem (h : marker ∈ frameworkMarkers) :
    marker.simpleName ∈ frameworkSimpleNames :=
  map_simpleName_frameworkMarkers ▸ List.mem_map_of_mem h

theorem package_of_mem_frameworkMarkers (h : marker ∈ frameworkMarkers) :
    marker.package = frameworkPackage := by
  revert marker
  decide +kernel

theorem relocated_of_mem (h : marker ∈ frameworkMarkers) (package : String) :
    relocated marker package = ClassName.inPackage package marker.simpleName := by
  rw [relocated]
  split
  next hpackage =>
    subst hpackage
    revert marker
    decide +kernel
  next => rfl

private theorem dot_notMem_simpleName (h : marker ∈ frameworkMarkers) :
    '.' ∉ marker.simpleName.toList := by
  have hnames : ∀ simple ∈ frameworkSimpleNames, '.' ∉ simple.toList := by decide +kernel
  exact hnames _ (simpleName_mem_of_mem h)

/-- A marker of the framework lies in the package that the framework has moved to. -/
theorem package_relocated (h : marker ∈ frameworkMarkers) (package : String) :
    (relocated marker package).package = package := by
  rw [relocated_of_mem h, ClassName.package_inPackage (dot_notMem_simpleName h)]

theorem simpleName_relocated (h : marker ∈ frameworkMarkers) (package : String) :
    (relocated marker package).simpleName = marker.simpleName := by
  rw [relocated_of_mem h, ClassName.simpleName_inPackage (dot_notMem_simpleName h)]

theorem relocated_injOn (h : marker ∈ frameworkMarkers) (h' : other ∈ frameworkMarkers)
    (heq : relocated marker package = relocated other package) : marker = other := by
  have hnodup : (frameworkMarkers.map (·.simpleName)).Nodup := by
    rw [map_simpleName_frameworkMarkers]
    decide +kernel
  refine List.inj_on_of_nodup_map hnodup h h' ?_
  rw [← simpleName_relocated h package, heq, simpleName_relocated h' package]

theorem IsElsewhere.ne_relocated (h : IsElsewhere name) (hmarker : marker ∈ frameworkMarkers)
    (package : String) : relocated marker package ≠ name := by
  rintro rfl
  exact h (simpleName_relocated hmarker package ▸ simpleName_mem_of_mem hmarker)

end Vocabulary

/-! ## Classes -/

namespace MarkerUse
variable {package : String} {name : ClassName} {uses : List MarkerUse} {marker : MarkerUse}

/-- The use of a marker, which is renamed if it is a marker of the framework. -/
def relocated (package : String) (marker : MarkerUse) : MarkerUse :=
  if marker.name ∈ frameworkMarkers
    then { marker with name := Vocabulary.relocated marker.name package }
    else marker

/-- The marker is not declared in a package, and only the markers of the framework are declared in the
package of the framework. -/
structure IsRelocatable (package : String) (marker : MarkerUse) : Prop where
  outside : marker.name.package ≠ package
  framework : marker.name.package = frameworkPackage → marker.name ∈ frameworkMarkers

instance (package : String) (marker : MarkerUse) : Decidable (marker.IsRelocatable package) :=
  decidable_of_iff (marker.name.package ≠ package ∧
      (marker.name.package = frameworkPackage → marker.name ∈ frameworkMarkers))
    ⟨fun h => ⟨h.1, h.2⟩, fun h => ⟨h.1, h.2⟩⟩

@[simp] theorem value_relocated (package : String) (marker : MarkerUse) :
    (marker.relocated package).value = marker.value := by
  rw [relocated]
  split <;> rfl

@[simp] theorem late_relocated (package : String) (marker : MarkerUse) :
    (marker.relocated package).late = marker.late := by
  rw [relocated]
  split <;> rfl

theorem name_relocated_eq_iff (h : marker.IsRelocatable package) (hname : name ∈ frameworkMarkers) :
    (marker.relocated package).name = Vocabulary.relocated name package ↔ marker.name = name := by
  rw [relocated]
  split
  next hmarker => exact ⟨relocated_injOn hmarker hname, congrArg (Vocabulary.relocated · package)⟩
  next hmarker =>
    refine ⟨fun heq => ?_, fun heq => absurd (heq ▸ hname) hmarker⟩
    exact absurd (heq ▸ package_relocated hname package) h.outside

theorem name_relocated_eq_iff_of_elsewhere (h : IsElsewhere name) :
    (marker.relocated package).name = name ↔ marker.name = name := by
  rw [relocated]
  split
  next hmarker =>
    refine ⟨fun heq => absurd heq (h.ne_relocated hmarker package), fun heq => ?_⟩
    exact absurd (simpleName_mem_of_mem hmarker) (heq ▸ h)
  next => exact Iff.rfl

/-- Renaming markers keeps the first use of a marker, if it keeps apart which uses are uses of it. -/
theorem find?_map_relocated {name' : ClassName}
    (h : ∀ marker ∈ uses, (marker.relocated package).name = name' ↔ marker.name = name) :
    find? (uses.map (relocated package)) name' = (find? uses name).map (relocated package) := by
  rw [find?, List.find?_map, find?]
  exact congrArg _ (List.find?_congr fun marker hmarker => decide_eq_decide.2 (h marker hmarker))

/-- A marker of the framework is found under its new name. -/
theorem find?_relocated (h : ∀ marker ∈ uses, marker.IsRelocatable package)
    (hname : name ∈ frameworkMarkers) :
    find? (uses.map (relocated package)) (Vocabulary.relocated name package) =
      (find? uses name).map (relocated package) :=
  find?_map_relocated fun marker hmarker => name_relocated_eq_iff (h marker hmarker) hname

/-- Any other marker is found under its old name. -/
theorem find?_relocated_of_elsewhere (h : IsElsewhere name) :
    find? (uses.map (relocated package)) name = (find? uses name).map (relocated package) :=
  find?_map_relocated fun _ _ => name_relocated_eq_iff_of_elsewhere h

/-- The names that do not lie in the package of the framework stay what they are. -/
theorem filter_names_relocated (h : ∀ marker ∈ uses, marker.IsRelocatable package) :
    ((uses.map (relocated package)).map (·.name)).filter (fun name => name.package ≠ package) =
      (uses.map (·.name)).filter fun name => name.package ≠ frameworkPackage := by
  induction uses with
  | nil => rfl
  | cons marker uses ih =>
    obtain ⟨hmarker, huses⟩ := List.forall_mem_cons.1 h
    rw [List.map_cons, List.map_cons, List.map_cons]
    by_cases hframework : marker.name ∈ frameworkMarkers
    · have hname : (marker.relocated package).name = Vocabulary.relocated marker.name package := by
        rw [relocated, if_pos hframework]
      rw [List.filter_cons_of_neg (by simp [hname, package_relocated hframework]),
        List.filter_cons_of_neg (by simp [package_of_mem_frameworkMarkers hframework])]
      exact ih huses
    · have hname : (marker.relocated package).name = marker.name := by
        rw [relocated, if_neg hframework]
      have hforeign : marker.name.package ≠ frameworkPackage := fun heq =>
        hframework (hmarker.framework heq)
      rw [hname, List.filter_cons_of_pos (by simp [hmarker.outside]),
        List.filter_cons_of_pos (by simp [hforeign]), ih huses]

end MarkerUse

namespace FieldInfo
variable {package : String} {field : FieldInfo} {name : ClassName}

def relocated (package : String) (field : FieldInfo) : FieldInfo :=
  { field with markers := field.markers.map (MarkerUse.relocated package) }

theorem hasMarker_relocated (h : ∀ marker ∈ field.markers, marker.IsRelocatable package)
    (hname : name ∈ frameworkMarkers) :
    (field.relocated package).hasMarker (Vocabulary.relocated name package) = field.hasMarker name :=
  (congrArg Option.isSome (MarkerUse.find?_relocated h hname)).trans Option.isSome_map

theorem hasMarker_relocated_of_elsewhere (h : IsElsewhere name) :
    (field.relocated package).hasMarker name = field.hasMarker name :=
  (congrArg Option.isSome (MarkerUse.find?_relocated_of_elsewhere h)).trans Option.isSome_map

end FieldInfo

namespace MethodInfo
variable {package : String} {method : MethodInfo} {name : ClassName}

def relocated (package : String) (method : MethodInfo) : MethodInfo :=
  { method with markers := method.markers.map (MarkerUse.relocated package) }

theorem hasMarker_relocated (h : ∀ marker ∈ method.markers, marker.IsRelocatable package)
    (hname : name ∈ frameworkMarkers) :
    (method.relocated package).hasMarker (Vocabulary.relocated name package) =
      method.hasMarker name :=
  (congrArg Option.isSome (MarkerUse.find?_relocated h hname)).trans Option.isSome_map

end MethodInfo

namespace ClassInfo
variable {package : String} {info : ClassInfo} {name : ClassName}

/-- A class whose markers, and those of its members, have moved to a package. -/
def relocated (package : String) (info : ClassInfo) : ClassInfo :=
  { info with
    markers := info.markers.map (MarkerUse.relocated package)
    fields := info.fields.map (FieldInfo.relocated package)
    methods := info.methods.map (MethodInfo.relocated package) }

/-- The uses of markers on a class, on its fields and on its methods. -/
def markerUses (info : ClassInfo) : List MarkerUse :=
  info.markers ++ info.fields.flatMap (·.markers) ++ info.methods.flatMap (·.markers)

theorem marker?_relocated (h : ∀ marker ∈ info.markers, marker.IsRelocatable package)
    (hname : name ∈ frameworkMarkers) :
    (info.relocated package).marker? (Vocabulary.relocated name package) =
      (info.marker? name).map (MarkerUse.relocated package) :=
  MarkerUse.find?_relocated h hname

theorem hasMarker_relocated_of_elsewhere (h : IsElsewhere name) :
    (info.relocated package).hasMarker name = info.hasMarker name :=
  (congrArg Option.isSome (MarkerUse.find?_relocated_of_elsewhere h)).trans Option.isSome_map

@[simp] theorem isAlternativeStereotype_relocated (package : String) (info : ClassInfo) :
    (info.relocated package).isAlternativeStereotype = info.isAlternativeStereotype := by
  rw [isAlternativeStereotype, hasMarker_relocated_of_elsewhere (by decide +kernel),
    hasMarker_relocated_of_elsewhere (by decide +kernel), ← isAlternativeStereotype]

end ClassInfo

/-! ## Environments -/

namespace TypeRegistry
variable {package : String}

/-- The registry with the markers of every class moved to a package. -/
def relocated (package : String) (registry : TypeRegistry) : TypeRegistry where
  classes := registry.classes.map (ClassInfo.relocated package)
  roots := registry.roots
  distinct := by
    rw [List.map_map]
    exact registry.distinct

/-- No marker is declared in the package that the framework moves to, and only the markers of the framework
are declared in its old package. -/
def IsRelocatable (package : String) (registry : TypeRegistry) : Prop :=
  ∀ info ∈ registry.classes, ∀ marker ∈ info.markerUses, marker.IsRelocatable package

instance (package : String) (registry : TypeRegistry) : Decidable (registry.IsRelocatable package) :=
  inferInstanceAs (Decidable
    (∀ info ∈ registry.classes, ∀ marker ∈ info.markerUses, marker.IsRelocatable package))

theorem resolve_relocated (registry : TypeRegistry) (package : String) (name : ClassName) :
    (registry.relocated package).resolve name =
      (registry.resolve name).map (ClassInfo.relocated package) :=
  List.find?_map

end TypeRegistry

/-- A container that does not look at the names of the framework's markers. -/
structure ContainerInterface.IsIndifferent (package : String) (container : ContainerInterface) :
    Prop where
  isExtensionType : ∀ info,
    container.isExtensionType (info.relocated package) = container.isExtensionType info
  instantiate : ∀ info, container.instantiate (info.relocated package) = container.instantiate info

theorem Container.isIndifferent_interface (container : Container) (package : String) :
    container.interface.IsIndifferent package := ⟨fun _ => rfl, fun _ => rfl⟩

/-- The environment in which the markers of all classes have moved to a package. -/
def Environment.relocated (package : String) (env : Environment) : Environment :=
  { env with registry := env.registry.relocated package }

namespace HookPoint

/-- The hook point at a class whose markers have moved to a package. -/
def relocated (package : String) : HookPoint → HookPoint
  | .bootstrap test => .bootstrap test
  | .process info => .process (info.relocated package)
  | .field info member => .field (info.relocated package) (member.relocated package)
  | .method info member => .method (info.relocated package) (member.relocated package)

/-- The uses of markers that plugins see at a hook point. -/
def markerUses : HookPoint → List MarkerUse
  | .bootstrap _ => []
  | .process info => info.markers
  | .field _ member => member.markers
  | .method _ member => member.markers

end HookPoint

/-- Relocation as a change of classes. -/
def ClassChange.relocation (package : String) : ClassChange where
  cls := ClassInfo.relocated package
  point := HookPoint.relocated package
  name _ := rfl
  kind _ := rfl
  location _ := rfl
  hookPoints info := by
    simp only [ClassInfo.hookPoints, ClassInfo.relocated, List.map_cons, List.map_append, List.map_map]
    rfl
  bootstrap _ := rfl

theorem Environment.inMemory_relocated (registry : TypeRegistry) (container : ContainerInterface)
    (configuration : TestConfiguration) (package : String) :
    inMemory (registry.relocated package) container configuration =
      (inMemory registry container configuration).relocated package :=
  inMemory_changed (.relocation package) registry container configuration

theorem ClassInfo.mem_markerUses_of_hookPoints {info : ClassInfo} {point : HookPoint}
    (hpoint : point ∈ info.hookPoints) {marker : MarkerUse} (h : marker ∈ point.markerUses) :
    marker ∈ info.markerUses := by
  simp only [hookPoints, List.mem_cons, List.mem_append, List.mem_map] at hpoint
  rw [markerUses, List.mem_append, List.mem_append]
  obtain rfl | ⟨field, hfield, rfl⟩ | ⟨method, hmethod, rfl⟩ := hpoint
  · exact Or.inl (Or.inl h)
  · exact Or.inl (Or.inr (List.mem_flatMap.2 ⟨field, hfield, h⟩))
  · exact Or.inr (List.mem_flatMap.2 ⟨method, hmethod, h⟩)

/-! ## Contributions -/

namespace Plugin
variable {env : Environment} {package : String} {point : HookPoint} {info : ClassInfo}

theorem isInjectionPoint_relocated (uses : List MarkerUse) (package : String) :
    isInjectionPoint (uses.map (MarkerUse.relocated package)) = isInjectionPoint uses := by
  have hinject : IsElsewhere inject := by decide +kernel
  have hproduces : IsElsewhere produces := by decide +kernel
  rw [isInjectionPoint, List.any_map, isInjectionPoint]
  refine congrArg uses.any (funext fun marker => ?_)
  simp only [Function.comp, MarkerUse.name_relocated_eq_iff_of_elsewhere hinject,
    MarkerUse.name_relocated_eq_iff_of_elsewhere hproduces]

theorem respond_standard_relocated (h : env.container.IsIndifferent package) (point : HookPoint) :
    standard.respond (env.relocated package) (point.relocated package) =
      standard.respond env point := by
  cases point with
  | bootstrap test => rfl
  | process info =>
    have hactivations : activationsOf (info.relocated package) = activationsOf info := by
      rw [activationsOf, ClassInfo.hasMarker_relocated_of_elsewhere (by decide +kernel),
        ClassInfo.hasMarker_relocated_of_elsewhere (by decide +kernel),
        ClassInfo.isAlternativeStereotype_relocated, ← activationsOf]
    have hextension : extensionContribution (env.relocated package) (info.relocated package) =
        extensionContribution env info := by
      have htype : (env.relocated package).container.isExtensionType (info.relocated package) = _ :=
        h.isExtensionType info
      have hbuild : (env.relocated package).container.instantiate (info.relocated package) = _ :=
        h.instantiate info
      rw [extensionContribution, htype, hbuild]
      rfl
    change extensionContribution _ (info.relocated package) ++ _ = extensionContribution _ _ ++ _
    rw [hextension, hactivations]
    rfl
  | field info field =>
    change (if isInjectionPoint (field.markers.map _) || isLookup field then _ else _) = _
    rw [isInjectionPoint_relocated]
    rfl
  | method info method =>
    change (if isInjectionPoint (method.markers.map _) then _ else _) = _
    rw [isInjectionPoint_relocated]
    rfl

/-- What a plugin does on a marker of the framework it does under the new name of the marker. -/
theorem onMarker_relocated (h : ∀ marker ∈ info.markers, marker.IsRelocatable package)
    {name : ClassName} (hname : name ∈ frameworkMarkers) {f : MarkerUse → Contribution}
    (hf : ∀ marker, f (marker.relocated package) = f marker) :
    onMarker package (info.relocated package) name f = onMarker frameworkPackage info name f := by
  rw [onMarker, onMarker, ClassInfo.marker?_relocated h hname, Vocabulary.relocated_frameworkPackage]
  cases info.marker? name with
  | none => rfl
  | some marker => exact hf marker

theorem markedRefs_relocated (package : String) (marker : MarkerUse) :
    markedRefs (marker.relocated package) = markedRefs marker := by
  rw [markedRefs, MarkerUse.value_relocated, MarkerUse.late_relocated, ← markedRefs]

/-- The markers from elsewhere are the same, since none of those of the framework is among them. -/
theorem foreignMarkers_relocated (h : ∀ marker ∈ info.markers, marker.IsRelocatable package) :
    foreignMarkers package (info.relocated package) = foreignMarkers frameworkPackage info :=
  MarkerUse.filter_names_relocated h

theorem activateAlternative_relocated (registry : TypeRegistry) (package : String) :
    activateAlternative (registry.relocated package) = activateAlternative registry := by
  funext name
  have hresolve : ((registry.relocated package).resolve name).any (·.isAlternativeStereotype) =
      (registry.resolve name).any (·.isAlternativeStereotype) := by
    rw [TypeRegistry.resolve_relocated]
    cases registry.resolve name with
    | none => rfl
    | some info => exact ClassInfo.isAlternativeStereotype_relocated package info
  rw [activateAlternative, activateAlternative, hresolve]

theorem testMarkersOnClass_relocated (registry : TypeRegistry)
    (h : ∀ marker ∈ info.markers, marker.IsRelocatable package) :
    testMarkersOnClass package (registry.relocated package) (info.relocated package) =
      testMarkersOnClass frameworkPackage registry info := by
  rw [testMarkersOnClass, testMarkersOnClass, foreignMarkers_relocated h,
    activateAlternative_relocated,
    onMarker_relocated h (by decide) fun marker => by rw [MarkerUse.value_relocated],
    onMarker_relocated h (by decide) fun marker => by rw [MarkerUse.value_relocated],
    onMarker_relocated h (by decide) fun marker => by rw [markedRefs_relocated],
    onMarker_relocated h (by decide) fun marker => by rw [markedRefs_relocated],
    onMarker_relocated h (by decide) fun marker => by rw [MarkerUse.value_relocated]]
  rfl

theorem respond_testMarkers_relocated
    (h : ∀ marker ∈ point.markerUses, marker.IsRelocatable package) :
    (testMarkers package).respond (env.relocated package) (point.relocated package) =
      (testMarkers frameworkPackage).respond env point := by
  have hignored : ignoredClasses ∈ frameworkMarkers := by decide
  cases point with
  | bootstrap test => rfl
  | process info => exact testMarkersOnClass_relocated env.registry h
  | field info field =>
    change (if (field.relocated package).hasMarker _ then _ else _) = if field.hasMarker _ then _ else _
    rw [FieldInfo.hasMarker_relocated h hignored, Vocabulary.relocated_frameworkPackage]
    rfl
  | method info method =>
    change (if (method.relocated package).hasMarker _ then _ else _) = if method.hasMarker _ then _ else _
    rw [MethodInfo.hasMarker_relocated h hignored, Vocabulary.relocated_frameworkPackage]
    rfl

theorem ignoreMocked_relocated (framework : MockFramework) (field : FieldInfo) (package : String) :
    ignoreMocked framework (field.relocated package) = ignoreMocked framework field := by
  have helsewhere : IsElsewhere framework.marker := by cases framework <;> decide +kernel
  rw [ignoreMocked, FieldInfo.hasMarker_relocated_of_elsewhere helsewhere]
  rfl

theorem respond_mocking_relocated (framework : MockFramework) (point : HookPoint) :
    (mocking framework).respond (env.relocated package) (point.relocated package) =
      (mocking framework).respond env point := by
  cases point with
  | bootstrap test =>
    have hfields : (((env.relocated package).registry.resolve test).toList.flatMap
          (·.fields)).flatMap (ignoreMocked framework) =
        ((env.registry.resolve test).toList.flatMap (·.fields)).flatMap (ignoreMocked framework) := by
      change (((env.registry.relocated package).resolve test).toList.flatMap _).flatMap _ = _
      rw [TypeRegistry.resolve_relocated]
      cases env.registry.resolve test with
      | none => rfl
      | some info =>
        simp only [Option.map_some, Option.toList_some, List.flatMap_singleton]
        rw [ClassInfo.relocated, List.flatMap_map]
        exact List.flatMap_congr fun field _ => ignoreMocked_relocated framework field package
    change mockingResponse framework (env.relocated package) (.bootstrap test) =
      mockingResponse framework env (.bootstrap test)
    rw [mockingResponse, mockingResponse, hfields]
  | field info field =>
    change (Contribution.consult framework.sentinel fun present =>
      if present then .actions (ignoreMocked framework (field.relocated package)) else .done) = _
    rw [ignoreMocked_relocated]
    rfl
  | process info => rfl
  | method info method => rfl

/-- A plugin for the framework in its new package answers at moved hook points as another one answers at the
old ones, and its probes know the same. -/
structure Follows (env : Environment) (package : String) (plugin other : Plugin) : Prop where
  probes : other.probes = plugin.probes
  respond : ∀ point, (∀ marker ∈ point.markerUses, marker.IsRelocatable package) →
    other.respond (env.relocated package) (point.relocated package) = plugin.respond env point

/-- The default plugins for a package follow the default plugins. -/
theorem follows_defaultSet (h : env.container.IsIndifferent package) :
    List.Forall₂ (Follows env package) (defaultSet frameworkPackage) (defaultSet package) := by
  refine .cons ⟨rfl, fun point _ => respond_standard_relocated h point⟩ ?_
  refine .cons ⟨rfl, fun point hpoint => respond_testMarkers_relocated hpoint⟩ ?_
  refine .cons ⟨rfl, fun point _ => respond_mocking_relocated _ point⟩ ?_
  refine .cons ⟨rfl, fun point _ => respond_mocking_relocated _ point⟩ ?_
  refine .cons ⟨rfl, fun point _ => ?_⟩ (.cons ⟨rfl, fun point _ => ?_⟩
    (.cons ⟨rfl, fun point _ => ?_⟩ (.cons ⟨rfl, fun point _ => ?_⟩ .nil)))
  all_goals cases point <;> rfl

end Plugin
end BeanDiscovery
