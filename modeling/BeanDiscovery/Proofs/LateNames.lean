import BeanDiscovery.Proofs.ChangedRuns
import BeanDiscovery.Proofs.RelocatedMarkers
import BeanDiscovery.Proofs.SparedRuns

/-!
# Late names

A marker that asks for classes, or leaves classes out, may name them by text. Such a late name is looked up
when the marker is read, and dropped if it cannot be loaded. The main statement says that late names are values
that may be missing: when every late name that can be loaded is written behind the values and the others are
forgotten, discovery with the default plugins finds the same.
-/
namespace BeanDiscovery
open Vocabulary

/-! ## Bound marker uses -/

namespace MarkerUse
variable {registry : TypeRegistry} {package : String} {marker : MarkerUse} {name : ClassName}

/-- The late names that can be loaded, in order. -/
def loadable (registry : TypeRegistry) (marker : MarkerUse) : List ClassName :=
  (marker.late.map ClassName.mk).filter registry.isPresent

/-- The late names that can be loaded are values, and there are no others. -/
def bound (registry : TypeRegistry) (marker : MarkerUse) : MarkerUse :=
  { marker with value := marker.value ++ marker.loadable registry, late := [] }

/-- The late names that cannot be loaded are dropped. -/
def pruned (registry : TypeRegistry) (marker : MarkerUse) : MarkerUse :=
  { marker with late := marker.late.filter fun text => registry.isPresent ⟨text⟩ }

/-- Whether late names of the marker are looked up: it asks for classes or leaves classes out. -/
def readsLate (package : String) (marker : MarkerUse) : Bool :=
  marker.name = Vocabulary.relocated additionalClasses package ||
    marker.name = Vocabulary.relocated ignoredClasses package

/-- A change of marker uses that keeps the marker and the classes that a use stands for. -/
structure IsRewording (registry : TypeRegistry) (reword : MarkerUse → MarkerUse) : Prop where
  name : ∀ marker, (reword marker).name = marker.name
  classes : ∀ marker, (reword marker).value ++ (reword marker).loadable registry =
    marker.value ++ marker.loadable registry

theorem isRewording_bound (registry : TypeRegistry) : IsRewording registry (bound registry) where
  name _ := rfl
  classes _ := List.append_nil _

theorem isRewording_pruned (registry : TypeRegistry) : IsRewording registry (pruned registry) where
  name _ := rfl
  classes marker := by
    rw [loadable, loadable, pruned, List.filter_map, List.filter_map, List.filter_filter]
    refine congrArg (fun texts : List String => marker.value ++ texts.map ClassName.mk)
      (List.filter_congr fun text _ => ?_)
    exact Bool.and_self _

/-- Rewords the uses of the markers whose late names are looked up. -/
def reworded (package : String) (reword : MarkerUse → MarkerUse) (marker : MarkerUse) : MarkerUse :=
  if marker.readsLate package then reword marker else marker

variable {reword : MarkerUse → MarkerUse}

theorem name_reworded (h : IsRewording registry reword) (marker : MarkerUse) :
    (marker.reworded package reword).name = marker.name := by
  rw [reworded]
  split
  · exact h.name marker
  · rfl

theorem find?_reworded (h : IsRewording registry reword) (uses : List MarkerUse) (name : ClassName) :
    find? (uses.map (reworded package reword)) name =
      (find? uses name).map (reworded package reword) := by
  rw [find?, List.find?_map, find?]
  exact congrArg _ (List.find?_congr fun marker _ => decide_eq_decide.2 (name_reworded h marker ▸ Iff.rfl))

end MarkerUse

/-! ## Reworded classes -/

namespace ClassInfo
variable {registry : TypeRegistry} {package : String} {reword : MarkerUse → MarkerUse}
  {info : ClassInfo} {name : ClassName}

/-- The class with its marker uses reworded, but not those on its members. -/
def reworded (package : String) (reword : MarkerUse → MarkerUse) (info : ClassInfo) : ClassInfo :=
  { info with markers := info.markers.map (MarkerUse.reworded package reword) }

theorem marker?_reworded (h : MarkerUse.IsRewording registry reword) (info : ClassInfo)
    (name : ClassName) :
    (info.reworded package reword).marker? name =
      (info.marker? name).map (MarkerUse.reworded package reword) :=
  MarkerUse.find?_reworded h info.markers name

theorem hasMarker_reworded (h : MarkerUse.IsRewording registry reword) (info : ClassInfo)
    (name : ClassName) :
    (info.reworded package reword).hasMarker name = info.hasMarker name := by
  rw [hasMarker, marker?_reworded h, Option.isSome_map, ← hasMarker]

theorem isAlternativeStereotype_reworded (h : MarkerUse.IsRewording registry reword)
    (info : ClassInfo) :
    (info.reworded package reword).isAlternativeStereotype = info.isAlternativeStereotype := by
  rw [isAlternativeStereotype, hasMarker_reworded h, hasMarker_reworded h, ← isAlternativeStereotype]

theorem name_of_marker? {marker : MarkerUse} (h : info.marker? name = some marker) :
    marker.name = name := by
  simpa using List.find?_some h

end ClassInfo

/-- Rewording as a change of classes. -/
def ClassChange.rewording (package : String) (reword : MarkerUse → MarkerUse) : ClassChange where
  cls := ClassInfo.reworded package reword
  point
    | .bootstrap test => .bootstrap test
    | .process info => .process (info.reworded package reword)
    | .field info member => .field (info.reworded package reword) member
    | .method info member => .method (info.reworded package reword) member
  name _ := rfl
  kind _ := rfl
  location _ := rfl
  hookPoints info := by
    simp only [ClassInfo.hookPoints, ClassInfo.reworded, List.map_cons, List.map_append, List.map_map]
    rfl
  bootstrap _ := rfl

namespace TypeRegistry

/-- The registry with the late names of all classes bound. -/
def bound (package : String) (registry : TypeRegistry) : TypeRegistry :=
  registry.changed (.rewording package (MarkerUse.bound registry))

/-- The registry without the late names that it does not know. -/
def pruned (package : String) (registry : TypeRegistry) : TypeRegistry :=
  registry.changed (.rewording package (MarkerUse.pruned registry))

end TypeRegistry

/-! ## References that stand for the same classes -/

namespace Context
variable {env : Environment}

/-- Offering or leaving out what references stand for is to do so name by name. -/
theorem foldl_refs {act : ClassRef → Action}
    (hact : ∀ (context : Context) (ref : ClassRef), context.perform env (act ref) =
      (ref.identities env.registry).foldl
        (fun context name => context.perform env (act (.ofClass name))) context)
    (refs : List ClassRef) (context : Context) :
    (refs.map act).foldl (fun context action => context.perform env action) context =
      (refs.flatMap (·.identities env.registry)).foldl
        (fun context name => context.perform env (act (.ofClass name))) context := by
  rw [List.foldl_map, List.foldl_flatMap]
  exact congrArg (fun step => refs.foldl step context) (funext₂ hact)

theorem perform_offer (context : Context) (ref : ClassRef) :
    context.perform env (.offer ref) = (ref.identities env.registry).foldl
      (fun context name => context.perform env (.offer (.ofClass name))) context := rfl

theorem perform_ignore (context : Context) (ref : ClassRef) :
    context.perform env (.ignore ref) = (ref.identities env.registry).foldl
      (fun context name => context.perform env (.ignore (.ofClass name))) context := by
  have h := foldl_ignore context env (ref.identities env.registry)
  rw [List.foldl_map] at h
  exact h.symm

end Context

namespace Plugin
variable {registry : TypeRegistry} {env : Environment} {package : String}
  {reword : MarkerUse → MarkerUse} {info : ClassInfo}

/-- The references of a use stand for its values and for the late names that can be loaded. -/
theorem identities_markedRefs (registry : TypeRegistry) (marker : MarkerUse) :
    (markedRefs marker).flatMap (·.identities registry) = marker.value ++ marker.loadable registry := by
  have hlate : ∀ texts : List String,
      (texts.map fun text => ClassRef.ofName ⟨text⟩).flatMap (·.identities registry) =
        (texts.map ClassName.mk).filter registry.isPresent := by
    intro texts
    induction texts with
    | nil => rfl
    | cons text texts ih =>
      rw [List.map_cons, List.flatMap_cons, ih, List.map_cons, List.filter_cons, ClassRef.identities,
        TypeRegistry.isPresent]
      cases hresolve : registry.resolve ⟨text⟩ with
      | none => rfl
      | some info => exact congrArg (· :: _) (TypeRegistry.name_of_resolve hresolve)
  rw [markedRefs, List.flatMap_append, hlate, List.flatMap_map]
  exact congrArg (· ++ _) (List.flatMap_singleton' marker.value)

/-- A reworded use has the effect of the use, whatever is done to the classes it stands for. -/
theorem sameEffect_markedRefs (h : MarkerUse.IsRewording env.registry reword)
    {act : ClassRef → Action}
    (hact : ∀ (context : Context) (ref : ClassRef), context.perform env (act ref) =
      (ref.identities env.registry).foldl
        (fun context name => context.perform env (act (.ofClass name))) context)
    (marker : MarkerUse) :
    (Contribution.actions ((markedRefs (reword marker)).map act)).SameEffect env
      (.actions ((markedRefs marker).map act)) := by
  intro call _
  rw [Contribution.actions, Contribution.perform_foldr_act, Contribution.actions,
    Contribution.perform_foldr_act, Context.foldl_refs hact, Context.foldl_refs hact,
    identities_markedRefs, identities_markedRefs, h.classes]

/-- What a plugin does on a marker that reads late names has the same effect on the reworded class. -/
theorem sameEffect_onMarker (h : MarkerUse.IsRewording env.registry reword) {marker : ClassName}
    (hmarker : marker = additionalClasses ∨ marker = ignoredClasses)
    {contribution : MarkerUse → Contribution}
    (hcontribution : ∀ found, (contribution (reword found)).SameEffect env (contribution found)) :
    (onMarker package (info.reworded package reword) marker contribution).SameEffect env
      (onMarker package info marker contribution) := by
  rw [onMarker, ClassInfo.marker?_reworded h, onMarker]
  cases hfound : info.marker? (relocated marker package) with
  | none => exact .refl env .done
  | some found =>
    have hname := ClassInfo.name_of_marker? hfound
    have hreads : found.readsLate package = true := by
      rw [MarkerUse.readsLate, hname]
      rcases hmarker with rfl | rfl <;> simp
    have hreworded : found.reworded package reword = reword found := if_pos hreads
    simpa only [Option.map_some, hreworded] using hcontribution found

/-- On any other marker of the framework a plugin does the same. -/
theorem onMarker_reworded (h : MarkerUse.IsRewording registry reword) (marker : ClassName)
    (hmem : marker ∈ frameworkMarkers) (hadditional : marker ≠ additionalClasses)
    (hignored : marker ≠ ignoredClasses) (contribution : MarkerUse → Contribution) :
    onMarker package (info.reworded package reword) marker contribution =
      onMarker package info marker contribution := by
  rw [onMarker, ClassInfo.marker?_reworded h, onMarker]
  cases hfound : info.marker? (relocated marker package) with
  | none => rfl
  | some found =>
    have hreads : found.readsLate package = false := by
      rw [MarkerUse.readsLate, ClassInfo.name_of_marker? hfound]
      have hne : relocated marker package ≠ relocated additionalClasses package := fun heq =>
        hadditional (relocated_injOn hmem (by decide) heq)
      have hne' : relocated marker package ≠ relocated ignoredClasses package := fun heq =>
        hignored (relocated_injOn hmem (by decide) heq)
      simp [hne, hne']
    have hreworded : found.reworded package reword = found := if_neg (hreads ▸ Bool.false_ne_true)
    rw [Option.map_some, hreworded]

theorem foreignMarkers_reworded (h : MarkerUse.IsRewording registry reword) (info : ClassInfo) :
    foreignMarkers package (info.reworded package reword) = foreignMarkers package info := by
  rw [foreignMarkers, foreignMarkers, ClassInfo.reworded, List.map_map]
  refine congrArg _ (List.map_congr_left fun marker _ => MarkerUse.name_reworded h marker)

theorem activateAlternative_reworded (h : MarkerUse.IsRewording registry reword) :
    activateAlternative (registry.changed (.rewording package reword)) =
      activateAlternative registry := by
  funext name
  have hstereotype :
      ((registry.changed (.rewording package reword)).resolve name).any (·.isAlternativeStereotype) =
        (registry.resolve name).any (·.isAlternativeStereotype) := by
    rw [TypeRegistry.resolve_changed]
    cases registry.resolve name with
    | none => rfl
    | some info => exact ClassInfo.isAlternativeStereotype_reworded h info
  rw [activateAlternative, activateAlternative, hstereotype]

/-- The framework's markers on a reworded class have the effect of those on the class. -/
theorem sameEffect_testMarkersOnClass (h : MarkerUse.IsRewording env.registry reword)
    (info : ClassInfo) :
    (testMarkersOnClass package (env.registry.changed (.rewording package reword))
      (info.reworded package reword)).SameEffect env
      (testMarkersOnClass package env.registry info) := by
  rw [testMarkersOnClass, testMarkersOnClass, activateAlternative_reworded h,
    foreignMarkers_reworded h,
    onMarker_reworded h additionalClasspaths (by decide) (by decide) (by decide),
    onMarker_reworded h additionalPackages (by decide) (by decide) (by decide),
    onMarker_reworded h activatedAlternatives (by decide) (by decide) (by decide)]
  refine Contribution.sameEffect_sequence (.cons (.refl _ _) (.cons (.refl _ _) (.cons ?_ (.cons ?_
    (.cons (.refl _ _) (.cons (.refl _ _) (.cons (.refl _ _) .nil)))))))
  · exact sameEffect_onMarker h (Or.inl rfl) fun found =>
      sameEffect_markedRefs h Context.perform_offer found
  · exact sameEffect_onMarker h (Or.inr rfl) fun found =>
      sameEffect_markedRefs h Context.perform_ignore found

end Plugin

/-! ## Runs over reworded classes -/

/-- A container that does not look at how marker uses are worded. -/
structure ContainerInterface.Overlooks (package : String) (reword : MarkerUse → MarkerUse)
    (container : ContainerInterface) : Prop where
  isExtensionType : ∀ info,
    container.isExtensionType (info.reworded package reword) = container.isExtensionType info
  instantiate : ∀ info,
    container.instantiate (info.reworded package reword) = container.instantiate info

theorem Container.overlooks_interface (container : Container) (package : String)
    (reword : MarkerUse → MarkerUse) : container.interface.Overlooks package reword :=
  ⟨fun _ => rfl, fun _ => rfl⟩

namespace Plugin
variable {env : Environment} {package : String} {reword : MarkerUse → MarkerUse}

theorem respond_standard_reworded (h : MarkerUse.IsRewording env.registry reword)
    (hcontainer : env.container.Overlooks package reword) (point : HookPoint) :
    standard.respond (env.changed (.rewording package reword))
        ((ClassChange.rewording package reword).point point) = standard.respond env point := by
  cases point with
  | bootstrap test => rfl
  | process info =>
    have hactivations : activationsOf (info.reworded package reword) = activationsOf info := by
      rw [activationsOf, ClassInfo.hasMarker_reworded h, ClassInfo.hasMarker_reworded h,
        ClassInfo.isAlternativeStereotype_reworded h, ← activationsOf]
    have hextension : extensionContribution (env.changed (.rewording package reword))
        (info.reworded package reword) = extensionContribution env info := by
      simp only [extensionContribution, Environment.changed, hcontainer.isExtensionType,
        hcontainer.instantiate]
      rfl
    change extensionContribution _ (info.reworded package reword) ++ _ = extensionContribution _ _ ++ _
    rw [hextension, hactivations]
    rfl
  | field info field => rfl
  | method info method => rfl

theorem respond_mocking_reworded (framework : MockFramework) (point : HookPoint) :
    (mocking framework).respond (env.changed (.rewording package reword))
        ((ClassChange.rewording package reword).point point) =
      (mocking framework).respond env point := by
  cases point with
  | bootstrap test =>
    have hfields : ((env.registry.changed (.rewording package reword)).resolve test).toList.flatMap
        (·.fields) = (env.registry.resolve test).toList.flatMap (·.fields) := by
      rw [TypeRegistry.resolve_changed]
      cases env.registry.resolve test <;> rfl
    change mockingResponse framework _ (.bootstrap test) = mockingResponse framework _ (.bootstrap test)
    simp only [mockingResponse, Environment.changed, hfields]
  | _ => rfl

/-- The default plugins do on reworded classes what they do on the classes. -/
theorem echoes_defaultSet (h : MarkerUse.IsRewording env.registry reword)
    (hcontainer : env.container.Overlooks package reword) :
    List.Forall₂ (Echoes (.rewording package reword) env) (defaultSet package)
      (defaultSet package) := by
  have htestMarkers : (testMarkers package).Echoes (.rewording package reword) env
      (testMarkers package) := by
    refine ⟨rfl, fun point => ?_⟩
    cases point with
    | process info => exact sameEffect_testMarkersOnClass h info
    | _ => exact .refl env _
  refine .cons (.of_respond (respond_standard_reworded h hcontainer)) (.cons htestMarkers
    (.cons (.of_respond (respond_mocking_reworded _))
      (.cons (.of_respond (respond_mocking_reworded _)) ?_)))
  refine .cons (.of_respond fun point => ?_) (.cons (.of_respond fun point => ?_)
    (.cons (.of_respond fun point => ?_) (.cons (.of_respond fun point => ?_) .nil)))
  all_goals cases point <;> rfl

end Plugin

namespace Run
open Environment

/-- Discovery with the default plugins does not depend on how uses are worded. -/
theorem report_reworded {env : Environment} {package : String} {reword : MarkerUse → MarkerUse}
    (h : MarkerUse.IsRewording env.registry reword)
    (hcontainer : env.container.Overlooks package reword) (scans : ScanCache) (assembler : Assembler) :
    (complete (env.changed (.rewording package reword)) scans
        (Plugin.defaultSet package)).report assembler =
      (complete env scans (Plugin.defaultSet package)).report assembler := by
  have hparallel := parallel_complete hcontainer.isExtensionType
    (Plugin.isCoupling_echoes (.rewording package reword) env) trivial (fun _ _ _ _ => trivial)
    (Plugin.echoes_defaultSet h hcontainer) scans
  exact hparallel.report assembler

/-- Late names are values that may be missing. A container that looks at how the uses of markers are worded
could tell the two registries apart; one that is kept in memory does not. -/
theorem report_of_late_names (package : String) (registry : TypeRegistry)
    (configuration : TestConfiguration) (scans : ScanCache) (assembler : Assembler) :
    let reportOver := fun (registry : TypeRegistry) (container : ContainerInterface) =>
      (complete (inMemory registry container configuration) scans
        (Plugin.defaultSet package)).report assembler
    (∀ container : Container,
      reportOver (registry.bound package) container.interface =
        reportOver registry container.interface ∧
      reportOver (registry.pruned package) container.interface =
        reportOver registry container.interface) ∧
    ∀ container : ContainerInterface, container.Overlooks package (MarkerUse.bound registry) →
      reportOver (registry.bound package) container = reportOver registry container := by
  intro reportOver
  have hreworded : ∀ {container : ContainerInterface} {reword : MarkerUse → MarkerUse},
      MarkerUse.IsRewording registry reword → container.Overlooks package reword →
        reportOver (registry.changed (.rewording package reword)) container =
          reportOver registry container := by
    intro container reword h hcontainer
    have hrun := @report_reworded (inMemory registry container configuration) package reword h
      hcontainer scans assembler
    rwa [← inMemory_changed] at hrun
  have hbound := MarkerUse.isRewording_bound registry
  have hpruned := MarkerUse.isRewording_pruned registry
  exact ⟨fun container => ⟨hreworded hbound (container.overlooks_interface package _),
    hreworded hpruned (container.overlooks_interface package _)⟩, fun container => hreworded hbound⟩

/-! ## A test that names classes by text -/

/-- The test asks for a class and leaves out the one that it has injected, each next to a name that cannot be
loaded. -/
def askingTest : ClassInfo where
  name := ⟨"com.example.ATest"⟩
  location := some ⟨"file:///cp/app/"⟩
  markers := [
    { name := additionalClasses, value := [⟨"com.example.B"⟩]
      late := ["org.lib.Missing", "com.example.C"] },
    { name := ignoredClasses, late := ["com.example.D", "org.lib.Missing"] }]
  fields := [{ name := "d", declared := .cls ⟨"com.example.D"⟩, markers := [{ name := inject }] }]

def askingRegistry : TypeRegistry :=
  (TypeRegistry.initial.addRoot ⟨"file:///cp/app/"⟩ true).registerAll
    [askingTest, circleClass "com.example.B" [], circleClass "com.example.C" [],
      circleClass "com.example.D" []]

def asking : Environment :=
  .inMemory askingRegistry (Container.interface {}) { testClass := askingTest.name }

def askingReport : Report where
  descriptor :=
    { discovered := .ofList [⟨"com.example.ATest"⟩, ⟨"com.example.B"⟩, ⟨"com.example.C"⟩]
      alternativeStereotypes := [producesAlternative]
      extensions := [⟨.testScope asking.configuration,
        "io.github.beanscope.testscope.TestScopeDiscovery"⟩] }
  graph :=
    { nodes := .ofList [⟨"com.example.ATest"⟩, ⟨"com.example.B"⟩, ⟨"com.example.C"⟩,
        ⟨"com.example.D"⟩]
      edges := .ofList [(⟨"com.example.ATest"⟩, ⟨"com.example.B"⟩),
        (⟨"com.example.ATest"⟩, ⟨"com.example.C"⟩),
        (⟨"com.example.ATest"⟩, ⟨"com.example.D"⟩)] }
  stats := ⟨4, 3, 1⟩

theorem complete_asking :
    complete asking {} (Plugin.defaultSet frameworkPackage) =
      [⟨"com.example.ATest"⟩, ⟨"com.example.B"⟩, ⟨"com.example.C"⟩, ⟨"com.example.D"⟩].foldl
        (fun run name => run.visit asking name)
        (seeded asking {} (Plugin.defaultSet frameworkPackage)) :=
  drain_of_isRoute (by decide +kernel) _

theorem report_asking :
    (complete asking {} (Plugin.defaultSet frameworkPackage)).report (.forPackage frameworkPackage) =
      .ok askingReport := by
  rw [complete_asking]
  decide +kernel

/-- A container that takes the abstract classes for its extension types, and builds none of them. -/
def abstractContainer : ContainerInterface where
  isExtensionType := ClassInfo.isAbstract
  instantiate info := .error info.name.text

theorem late_names_asking :
    let reportOver := fun (registry : TypeRegistry) (container : ContainerInterface) =>
      (complete (.inMemory registry container asking.configuration) {}
        (Plugin.defaultSet frameworkPackage)).report (.forPackage frameworkPackage)
    reportOver (askingRegistry.bound frameworkPackage) (Container.interface {}) = .ok askingReport ∧
      reportOver (askingRegistry.pruned frameworkPackage) (Container.interface {}) = .ok askingReport ∧
      reportOver (askingRegistry.bound frameworkPackage) abstractContainer =
        reportOver askingRegistry abstractContainer := by
  intro reportOver
  obtain ⟨hmemory, hany⟩ := report_of_late_names frameworkPackage askingRegistry
    asking.configuration {} (.forPackage frameworkPackage)
  have hoverlooks : abstractContainer.Overlooks frameworkPackage (MarkerUse.bound askingRegistry) :=
    ⟨fun _ => rfl, fun _ => rfl⟩
  exact ⟨(hmemory {}).1.trans report_asking, (hmemory {}).2.trans report_asking,
    hany abstractContainer hoverlooks⟩

end Run
end BeanDiscovery
