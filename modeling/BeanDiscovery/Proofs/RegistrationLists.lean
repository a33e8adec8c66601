import BeanDiscovery.Proofs.Registrations

/-!
# The registration lists of a deployment

With the default plugins the lists of a deployment can be read off the inspected classes. A class is switched
on by the markers it carries and registered if it is a concrete extension type, and the libraries that are
there register their extensions before all classes. The other default plugins add nothing for a class. The
main statement gives all five lists with their order.
-/
namespace BeanDiscovery

/-! ## Extensions of libraries -/

/-- An extension that a default plugin registers before the traversal, with the type that shows that its
library is there. Without such a type it is registered in every run. -/
structure LibraryExtension where
  sentinel : Option ClassName
  registration : ExtensionRegistration

namespace LibraryExtension

def ofMocks (framework : MockFramework) : LibraryExtension :=
  ⟨some framework.sentinel, ⟨.mocks framework, framework.extensionLocation⟩⟩

def ofTestScope (configuration : TestConfiguration) : LibraryExtension :=
  ⟨none, ⟨.testScope configuration, "io.github.beanscope.testscope.TestScopeDiscovery"⟩⟩

def ofViewScope : LibraryExtension :=
  ⟨some Plugin.viewScopeSentinel, ⟨.viewScope, "io.github.beanscope.jsf.ViewScopeDiscovery"⟩⟩

def ofProducerConfig (configuration : TestConfiguration) : LibraryExtension :=
  ⟨some Plugin.producerConfigSentinel,
    ⟨.producerConfig configuration, "io.github.beanscope.producerconfig.ProducerConfigDiscovery"⟩⟩

/-- In the order of the default plugins. -/
def all (configuration : TestConfiguration) : List LibraryExtension :=
  [ofMocks .mockito, ofMocks .easymock, ofTestScope configuration, ofViewScope,
    ofProducerConfig configuration]

def isAtHand (env : Environment) (extension : LibraryExtension) : Bool :=
  extension.sentinel.all env.registry.isPresent

/-- The registrations of the libraries that are there. -/
def registrations (env : Environment) : List ExtensionRegistration :=
  ((all env.configuration).filter (isAtHand env)).map (·.registration)

theorem flatMap_registrations {α : Type} (env : Environment)
    (f : ExtensionRegistration → List α) :
    (registrations env).flatMap f = (all env.configuration).flatMap fun extension =>
      if extension.isAtHand env then f extension.registration else [] := by
  rw [registrations, List.flatMap_map]
  induction all env.configuration with
  | nil => rfl
  | cons extension extensions ih =>
    rw [List.filter_cons, List.flatMap_cons, ← ih]
    split <;> rfl

end LibraryExtension

namespace Plugin
variable {env : Environment} {registry : TypeRegistry} {memory : ScanCache} {package : String}
  {info : ClassInfo} {α : Type} {added : HookStep → List α}

/-- The default plugins for optional libraries and scopes, in order. -/
def librarySet : List Plugin :=
  [mocking .mockito, mocking .easymock, testScope, viewScope, producerConfig, partialBeanProxies]

theorem defaultSet_eq (package : String) :
    defaultSet package = [standard, testMarkers package] ++ librarySet := rfl

theorem flatMap_ite_actions (condition : Prop) [Decidable condition] (actions : List Action) :
    ((if condition then Contribution.actions actions else .done).plan registry memory).flatMap added =
      if condition then actions.flatMap fun action => added (.act action) else [] := by
  split
  · exact flatMap_plan_actions added actions
  · rfl

theorem flatMap_ignoreMocked (hadded : IsRecord added) (framework : MockFramework)
    (field : FieldInfo) :
    (ignoreMocked framework field).flatMap (fun action => added (.act action)) = [] := by
  refine List.flatMap_eq_nil_iff.2 fun action haction => ?_
  rw [ignoreMocked] at haction
  split at haction
  · obtain ⟨raw, -, rfl⟩ := List.mem_map.1 haction
    exact hadded.ignore _
  · exact (List.not_mem_nil haction).elim

/-! ### Before the traversal -/

/-- What a step adds that registers the extension of a library, if the library is there. -/
def recorded (env : Environment) (added : HookStep → List α) (extension : LibraryExtension) :
    List α :=
  if extension.isAtHand env then added (.act (.register extension.registration)) else []

theorem flatMap_mocking_bootstrap (hadded : IsRecord added) (framework : MockFramework)
    (test : ClassName) :
    ((mocking framework).plan env memory (.bootstrap test)).flatMap added =
      recorded env added (.ofMocks framework) := by
  have hfields : (((env.registry.resolve test).toList.flatMap (·.fields)).flatMap
      (ignoreMocked framework)).flatMap (fun action => added (.act action)) = [] := by
    rw [List.flatMap_assoc]
    exact List.flatMap_eq_nil_iff.2 fun field _ => flatMap_ignoreMocked hadded framework field
  refine (flatMap_ite_actions _ _).trans ?_
  rw [List.flatMap_cons, hfields, List.append_nil]
  rfl

theorem flatMap_testScope_bootstrap (added : HookStep → List α) (test : ClassName) :
    (testScope.plan env memory (.bootstrap test)).flatMap added =
      recorded env added (.ofTestScope env.configuration) :=
  List.flatMap_singleton _ _

theorem flatMap_viewScope_bootstrap (added : HookStep → List α) (test : ClassName) :
    (viewScope.plan env memory (.bootstrap test)).flatMap added =
      recorded env added .ofViewScope := by
  refine (flatMap_ite_actions _ _).trans ?_
  rw [List.flatMap_singleton]
  rfl

theorem flatMap_producerConfig_bootstrap (added : HookStep → List α) (test : ClassName) :
    (producerConfig.plan env memory (.bootstrap test)).flatMap added =
      recorded env added (.ofProducerConfig env.configuration) := by
  refine (flatMap_ite_actions _ _).trans ?_
  rw [List.flatMap_singleton]
  rfl

/-- Before the traversal the default plugins plan to record the extensions of the libraries that are there,
and nothing else. -/
theorem flatMap_planAll_bootstrap (hadded : IsRecord added) (test : ClassName) :
    (planAll env memory (defaultSet package) [.bootstrap test]).flatMap added =
      (LibraryExtension.registrations env).flatMap fun registration =>
        added (.act (.register registration)) := by
  have hstandard : (standard.plan env memory (.bootstrap test)).flatMap added = [] := rfl
  have hmarkers : ((testMarkers package).plan env memory (.bootstrap test)).flatMap added = [] := rfl
  have hproxies : (partialBeanProxies.plan env memory (.bootstrap test)).flatMap added = [] := rfl
  rw [planAll, List.flatMap_singleton, List.flatMap_assoc, LibraryExtension.flatMap_registrations]
  simp only [defaultSet, LibraryExtension.all, List.flatMap_cons, List.flatMap_nil, hstandard,
    hmarkers, flatMap_mocking_bootstrap hadded, flatMap_testScope_bootstrap,
    flatMap_viewScope_bootstrap, flatMap_producerConfig_bootstrap, hproxies, List.nil_append]
  rfl

/-! ### For a class -/

theorem flatMap_proxyArchive (hadded : IsRecord added) (sentinel : ClassName) :
    ((proxyArchive sentinel).plan registry memory).flatMap added = [] := by
  change ((if registry.isPresent sentinel then Contribution.scanArchives [sentinel] .offers
    else .done).plan registry memory).flatMap added = []
  split
  · exact flatMap_scanArchives hadded _
  · rfl

theorem flatMap_partialBeanProxies_process (hadded : IsRecord added) (info : ClassInfo) :
    (partialBeanProxies.plan env memory (.process info)).flatMap added = [] := by
  change ((if info.name = proxySupportMarker then
    Contribution.sequence (proxySentinels.map proxyArchive) else .done).plan env.registry
      memory).flatMap added = []
  split
  · rw [Contribution.plan_sequence (Contribution.verdict_sequence.2 (List.forall_mem_map.2
      fun sentinel _ => verdict_proxyArchive sentinel)), List.flatMap_map, List.flatMap_assoc]
    exact List.flatMap_eq_nil_iff.2 fun sentinel _ => flatMap_proxyArchive hadded sentinel
  · rfl

theorem flatMap_plan_librarySet (hadded : IsRecord added) {plugin : Plugin}
    (hplugin : plugin ∈ librarySet) {point : HookPoint} (hpoint : ∀ test, point ≠ .bootstrap test) :
    (plugin.plan env memory point).flatMap added = [] := by
  have hmocking : ∀ framework, ((mocking framework).plan env memory point).flatMap added = [] := by
    intro framework
    cases point with
    | bootstrap test => exact absurd rfl (hpoint test)
    | process info => rfl
    | method info method => rfl
    | field info field =>
      refine (flatMap_ite_actions _ _).trans ?_
      rw [flatMap_ignoreMocked hadded, ite_self]
  simp only [librarySet, List.mem_cons, List.not_mem_nil, or_false] at hplugin
  rcases hplugin with rfl | rfl | rfl | rfl | rfl | rfl
  · exact hmocking .mockito
  · exact hmocking .easymock
  · cases point <;> first | rfl | exact absurd rfl (hpoint _)
  · cases point <;> first | rfl | exact absurd rfl (hpoint _)
  · cases point <;> first | rfl | exact absurd rfl (hpoint _)
  · cases point with
    | bootstrap test => rfl
    | process info => exact flatMap_partialBeanProxies_process hadded info
    | field info field => rfl
    | method info method => rfl

/-- For a class the default plugins plan to record what those for the container's own notions and for the
framework markers do. -/
theorem flatMap_planAll_defaultSet (hadded : IsRecord added) (info : ClassInfo) :
    (planAll env memory (defaultSet package) info.hookPoints).flatMap added =
      (planAll env memory [standard, testMarkers package] info.hookPoints).flatMap added := by
  rw [planAll, planAll, List.flatMap_assoc, List.flatMap_assoc]
  refine List.flatMap_congr fun point hpoint => ?_
  have hlibrary : librarySet.flatMap (fun plugin =>
      (plugin.plan env memory point).flatMap added) = [] := by
    refine List.flatMap_eq_nil_iff.2 fun plugin hplugin =>
      flatMap_plan_librarySet hadded hplugin fun test => ?_
    rintro rfl
    simp [ClassInfo.hookPoints] at hpoint
  rw [defaultSet_eq, List.flatMap_append, List.flatMap_append, List.flatMap_assoc,
    List.flatMap_assoc, hlibrary, List.append_nil]

end Plugin

namespace Plugin
variable {env : Environment} {memory : ScanCache} {info : ClassInfo}

/-- A call that does not fail for a concrete extension type has built its extension. -/
theorem instantiate_of_verdict (hinfo : info.isConcreteExtension env.container = true)
    (h : (extensionContribution env info).verdict env.registry memory = none) :
    ∃ extension, env.container.instantiate info = .ok extension ∧
      info.registrations env.container = [⟨extension, info.name.text⟩] := by
  rw [extensionContribution_of_concrete hinfo] at h
  cases hbuilt : env.container.instantiate info with
  | error cause =>
    rw [hbuilt] at h
    cases h
  | ok extension => exact ⟨extension, rfl, ClassInfo.registrations_of_concrete hinfo hbuilt⟩

end Plugin

namespace Run
variable {env : Environment} {scans : ScanCache} {plugins : List Plugin} {package : String}
  {info : ClassInfo} {α : Type} {read : Findings → List α} {added : HookStep → List α}

/-- In a run that ends well no inspected class fails to be built. -/
theorem verdict_of_mem_inspectedClasses (h : ∀ plugin ∈ plugins, plugin.Truthful env.registry)
    (hstandard : Plugin.standard ∈ plugins) (hf : (complete env scans plugins).failure = none)
    (hinfo : info ∈ (complete env scans plugins).inspectedClasses env) :
    (Plugin.extensionContribution env info).verdict env.registry
      (complete env scans plugins).context.scans = none := by
  obtain ⟨name, hname, hresolve⟩ := List.mem_filterMap.1 hinfo
  exact verdict_extensionContribution_of_inspected h hstandard hf hname hresolve

/-- With the default plugins a list holds at the end the extensions of libraries and then, class by class,
what the plugins for the container's own notions and for the framework markers planned to add. -/
theorem collected_defaultSet (hcollects : Findings.Collects env read added)
    (hadded : Plugin.IsRecord added)
    (hf : (complete env scans (Plugin.defaultSet package)).failure = none) :
    let run := complete env scans (Plugin.defaultSet package)
    read run.context.findings =
      ((LibraryExtension.registrations env).flatMap fun registration =>
        added (.act (.register registration))) ++
      (run.inspectedClasses env).flatMap fun info =>
        (Plugin.planAll env run.context.scans [.standard, .testMarkers package]
          info.hookPoints).flatMap added := by
  intro run
  have hcollected := collected_complete hcollects (Plugin.truthful_defaultSet env.registry package) hf
  rw [Plugin.flatMap_planAll_bootstrap hadded] at hcollected
  simp only [Plugin.flatMap_planAll_defaultSet hadded] at hcollected
  rw [inspectedClasses, List.filterMap_eq_flatMap_toList, List.flatMap_assoc]
  exact hcollected

theorem activated_defaultSet (hf : (complete env scans (Plugin.defaultSet package)).failure = none)
    (group : Activation) :
    (complete env scans (Plugin.defaultSet package)).context.findings.activated group =
      ((complete env scans (Plugin.defaultSet package)).inspectedClasses env).flatMap fun info =>
        info.switchesOn env.registry package group := by
  refine (collected_defaultSet (Context.collects_activated env group)
    (Plugin.isRecord_activated env.registry group) hf).trans ?_
  have hlibraries : ((LibraryExtension.registrations env).flatMap fun registration =>
      (HookStep.act (.register registration)).activated env.registry group) = [] :=
    List.flatMap_eq_nil_iff.2 fun _ _ => rfl
  rw [hlibraries, List.nil_append]
  exact List.flatMap_congr fun info hinfo => Plugin.activated_planAll
    (verdict_of_mem_inspectedClasses (Plugin.truthful_defaultSet env.registry package) List.mem_cons_self
      hf hinfo) group

theorem extensions_defaultSet
    (hf : (complete env scans (Plugin.defaultSet package)).failure = none) :
    (complete env scans (Plugin.defaultSet package)).context.findings.extensions =
      LibraryExtension.registrations env ++
        ((complete env scans (Plugin.defaultSet package)).inspectedClasses env).flatMap
          (·.registrations env.container) := by
  refine (collected_defaultSet (Context.collects_extensions env) Plugin.isRecord_registered
    hf).trans ?_
  refine congrArg₂ (· ++ ·) (List.flatMap_singleton' _) (List.flatMap_congr fun info hinfo => ?_)
  exact Plugin.registered_planAll (verdict_of_mem_inspectedClasses
    (Plugin.truthful_defaultSet env.registry package) List.mem_cons_self hf hinfo)

end Run

namespace ClassInfo

/-- Classes that switch themselves on are filtered out by their markers. -/
theorem flatMap_ite_name (infos : List ClassInfo) (p : ClassInfo → Bool) :
    (infos.flatMap fun info => if p info then [info.name] else []) =
      (infos.filter p).map (·.name) := by
  induction infos with
  | nil => rfl
  | cons info infos ih =>
    rw [List.flatMap_cons, ih, List.filter_cons]
    split <;> rfl

/-- Each concrete extension type that a container can build is registered once, under its name. -/
theorem forall₂_registrations {container : ContainerInterface} {infos : List ClassInfo}
    (h : ∀ info ∈ infos, info.isConcreteExtension container = true →
      ∃ extension, container.instantiate info = .ok extension ∧
        info.registrations container = [⟨extension, info.name.text⟩]) :
    List.Forall₂ (fun info (registration : ExtensionRegistration) =>
        container.instantiate info = .ok registration.extension ∧
          registration.location = info.name.text)
      (infos.filter (isConcreteExtension container)) (infos.flatMap (registrations container)) := by
  induction infos with
  | nil => exact .nil
  | cons info infos ih =>
    obtain ⟨hinfo, hinfos⟩ := List.forall_mem_cons.1 h
    rw [List.flatMap_cons, List.filter_cons]
    split
    next hconcrete =>
      obtain ⟨extension, hbuilt, hregistrations⟩ := hinfo hconcrete
      rw [hregistrations]
      exact .cons ⟨hbuilt, rfl⟩ (ih hinfos)
    next hplain =>
      rw [registrations_of_not_concrete hplain]
      exact ih hinfos

end ClassInfo

namespace Run
variable {env : Environment} {scans : ScanCache}

/-- The lists of a deployment that was discovered with the default plugins. Interceptors, decorators and
alternative stereotypes are the inspected classes with their markers, in the order of inspection and none
twice; the stereotype for producers comes last. Alternatives are the values of the first use of the marker on
each inspected class but for those that resolve to alternative stereotypes. Extensions are those of the
libraries that are there and of the test scope, then one for each inspected concrete extension type, built by
the container and located at the class. -/
theorem registrations_of_report {package : String} {report : Report}
    (h : (complete env scans (Plugin.defaultSet package)).report (.forPackage package) =
      .ok report) :
    let run := complete env scans (Plugin.defaultSet package)
    let inspected := run.inspectedClasses env
    inspected.map (·.name) = run.trail.inspected ∧
    (report.descriptor.interceptors =
        (inspected.filter (·.hasMarker Vocabulary.interceptor)).map (·.name) ∧
      report.descriptor.interceptors.Nodup) ∧
    (report.descriptor.decorators =
        (inspected.filter (·.hasMarker Vocabulary.decorator)).map (·.name) ∧
      report.descriptor.decorators.Nodup) ∧
    report.descriptor.alternativeStereotypes =
      ((inspected.filter fun info => info.hasMarker Vocabulary.stereotype &&
        info.hasMarker Vocabulary.alternative).map (·.name)) ++
      [Vocabulary.relocated Vocabulary.producesAlternative package] ∧
    report.descriptor.alternatives =
      (inspected.flatMap fun info =>
        ((info.marker? (Vocabulary.relocated Vocabulary.activatedAlternatives package)).elim []
          (·.value)).filter fun name => !(env.registry.resolve name).any fun other =>
            other.hasMarker Vocabulary.stereotype && other.hasMarker Vocabulary.alternative) ∧
    ∃ built, report.descriptor.extensions = LibraryExtension.registrations env ++ built ∧
      List.Forall₂ (fun info (registration : ExtensionRegistration) =>
          env.container.instantiate info = .ok registration.extension ∧
            registration.location = info.name.text)
        (inspected.filter (·.isConcreteExtension env.container)) built := by
  intro run inspected
  have hf : run.failure = none := failure_of_report h
  have hnames : inspected.map (·.name) = run.trail.inspected :=
    map_name_inspectedClasses env scans (Plugin.defaultSet package)
  have hnodup : (inspected.map (·.name)).Nodup := hnames ▸ nodup_inspected hf
  have hself : ∀ p : ClassInfo → Bool, ((inspected.filter p).map (·.name)).Nodup :=
    fun p => hnodup.sublist (List.filter_sublist.map _)
  have hactivated := activated_defaultSet hf
  obtain rfl := eq_of_report h
  have hinterceptors : run.context.findings.interceptors =
      (inspected.filter (·.hasMarker Vocabulary.interceptor)).map (·.name) :=
    (hactivated .interceptor).trans (ClassInfo.flatMap_ite_name _ _)
  have hdecorators : run.context.findings.decorators =
      (inspected.filter (·.hasMarker Vocabulary.decorator)).map (·.name) :=
    (hactivated .decorator).trans (ClassInfo.flatMap_ite_name _ _)
  have hstereotypes : run.context.findings.alternativeStereotypes =
      (inspected.filter (·.isAlternativeStereotype)).map (·.name) :=
    (hactivated .alternativeStereotype).trans (ClassInfo.flatMap_ite_name _ _)
  have hnodupInterceptors : run.context.findings.interceptors.Nodup := hinterceptors ▸ hself _
  have hnodupDecorators : run.context.findings.decorators.Nodup := hdecorators ▸ hself _
  refine ⟨hnames, ⟨hinterceptors, hnodupInterceptors⟩, ⟨hdecorators, hnodupDecorators⟩, ?_, ?_, ?_⟩
  · exact congrArg (· ++ _) hstereotypes
  · refine (hactivated .alternative).trans (List.flatMap_congr fun info _ => ?_)
    rw [ClassInfo.switchesOn, ClassInfo.namedAlternatives]
    cases info.marker? (Vocabulary.relocated Vocabulary.activatedAlternatives package) with
    | none => rfl
    | some marker => exact List.flatMap_singleton _ _
  · refine ⟨inspected.flatMap (·.registrations env.container), ?_, ?_⟩
    · exact (List.append_nil _).trans (extensions_defaultSet hf)
    · exact ClassInfo.forall₂_registrations fun info hinfo hconcrete =>
        Plugin.instantiate_of_verdict hconcrete (verdict_of_mem_inspectedClasses
          (Plugin.truthful_defaultSet env.registry package) List.mem_cons_self hf hinfo)

/-! ## A test that switches classes on -/

/-- The test names an alternative twice, a stereotype, and a class that cannot be loaded. -/
def studioTest : ClassInfo where
  name := ⟨"com.example.ATest"⟩
  location := some ⟨"file:///cp/app/"⟩
  markers := [{ name := Vocabulary.activatedAlternatives
                value := [⟨"com.example.Alt"⟩, ⟨"com.example.Stereo"⟩, ⟨"org.lib.Missing"⟩,
                  ⟨"com.example.Alt"⟩] },
    { name := Vocabulary.interceptor }]

/-- A marker definition that is an alternative stereotype. -/
def studioStereotype : ClassInfo where
  name := ⟨"com.example.Stereo"⟩
  kind := .marker
  location := some ⟨"file:///cp/app/"⟩
  markers := [{ name := Vocabulary.stereotype }, { name := Vocabulary.alternative }]

/-- The test asks for an extension, and one of the mock frameworks is there. -/
def studio : Environment where
  registry := (TypeRegistry.initial.addRoot ⟨"file:///cp/app/"⟩ true).registerAll
    [studioTest, studioStereotype,
      { name := ⟨"com.example.Alt"⟩, location := some ⟨"file:///cp/app/"⟩
        markers := [{ name := Vocabulary.decorator }] },
      { name := ⟨"org.lib.Ext"⟩, interfaces := [Vocabulary.extensionInterface] },
      { name := MockFramework.mockito.sentinel }]
  container := (Container.withNamed {} ⟨"org.lib.Ext"⟩).interface
  configuration := { testClass := ⟨"com.example.ATest"⟩, additionalClasses := [⟨"org.lib.Ext"⟩] }

theorem complete_studio :
    complete studio {} (Plugin.defaultSet Vocabulary.frameworkPackage) =
      [⟨"com.example.ATest"⟩, ⟨"org.lib.Ext"⟩, ⟨"com.example.Alt"⟩, ⟨"com.example.Stereo"⟩,
        ⟨"org.lib.Missing"⟩, Vocabulary.interceptor, Vocabulary.decorator, Vocabulary.stereotype,
        Vocabulary.alternative].foldl (fun run name => run.visit studio name)
        (seeded studio {} (Plugin.defaultSet Vocabulary.frameworkPackage)) :=
  drain_of_isRoute (by decide +kernel) _

/-- The alternative is switched on twice and the stereotype is not. -/
def studioDescriptor : Descriptor where
  discovered := .ofList [⟨"com.example.ATest"⟩, ⟨"org.lib.Ext"⟩, ⟨"com.example.Alt"⟩]
  alternatives := [⟨"com.example.Alt"⟩, ⟨"org.lib.Missing"⟩, ⟨"com.example.Alt"⟩]
  interceptors := [⟨"com.example.ATest"⟩]
  decorators := [⟨"com.example.Alt"⟩]
  alternativeStereotypes := [⟨"com.example.Stereo"⟩, Vocabulary.producesAlternative]
  extensions := [⟨.mocks .mockito, "io.github.beanscope.mockito.MockitoDiscovery"⟩,
    ⟨.testScope studio.configuration, "io.github.beanscope.testscope.TestScopeDiscovery"⟩,
    ⟨.named "org.lib.Ext", "org.lib.Ext"⟩]

theorem report_studio :
    ∃ report, (complete studio {} (Plugin.defaultSet Vocabulary.frameworkPackage)).report
        (.forPackage Vocabulary.frameworkPackage) = .ok report ∧
      report.descriptor = studioDescriptor := by
  rw [complete_studio]
  exact ⟨_, report_of_failure (by decide +kernel) _, by decide +kernel⟩

theorem registrations_studio :
    ∃ report, (complete studio {} (Plugin.defaultSet Vocabulary.frameworkPackage)).report
        (.forPackage Vocabulary.frameworkPackage) = .ok report ∧
      report.descriptor = studioDescriptor ∧
      ∃ built, studioDescriptor.extensions = LibraryExtension.registrations studio ++ built ∧
        built.length = (((complete studio {}
          (Plugin.defaultSet Vocabulary.frameworkPackage)).inspectedClasses studio).filter
            (·.isConcreteExtension studio.container)).length := by
  obtain ⟨report, hreport, hdescriptor⟩ := report_studio
  obtain ⟨-, -, -, -, -, built, hextensions, hbuilt⟩ := registrations_of_report hreport
  rw [hdescriptor] at hextensions
  exact ⟨report, hreport, hdescriptor, built, hextensions, hbuilt.length_eq.symm⟩

end Run
end BeanDiscovery
