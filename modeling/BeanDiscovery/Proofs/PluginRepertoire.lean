import BeanDiscovery.Proofs.BuiltInPlugins
import BeanDiscovery.Proofs.Ignores

/-!
# What the default plugins may do

A contribution is bounded by the steps it may take and by the libraries it may ask for, whatever it learns.
The main statement bounds the default plugins: they offer, leave out, switch on and register at any hook
point, but scan only for a class that carries one of two markers or is the marker for proxies. Hence so does
every visit of a run with the default plugins, whatever their probes have learned.
-/
namespace BeanDiscovery

/-! ## Bounds of contributions -/

namespace Contribution
variable {permitted weaker : HookStep → Prop} {libraries others : ClassName → Prop}

/-- Whatever a contribution learns, it takes permitted steps alone and asks for some libraries alone. -/
def StaysWithin (permitted : HookStep → Prop) (libraries : ClassName → Prop) : Contribution → Prop
  | .done => True
  | .fail _ => True
  | .act action rest => permitted (.act action) ∧ rest.StaysWithin permitted libraries
  | .scanArchives bases next =>
    permitted (.scanArchives bases) ∧ ∀ names, (next names).StaysWithin permitted libraries
  | .scanPackages bases next =>
    permitted (.scanPackages bases) ∧ ∀ names, (next names).StaysWithin permitted libraries
  | .consult sentinel next =>
    libraries sentinel ∧ ∀ answer, (next answer).StaysWithin permitted libraries
  | .note _ rest => rest.StaysWithin permitted libraries

theorem StaysWithin.append {first second : Contribution}
    (hfirst : first.StaysWithin permitted libraries)
    (hsecond : second.StaysWithin permitted libraries) :
    (first ++ second).StaysWithin permitted libraries := by
  change (first.append second).StaysWithin permitted libraries
  induction first with
  | done => exact hsecond
  | fail error => trivial
  | act action rest ih => exact ⟨hfirst.1, ih hfirst.2⟩
  | scanArchives bases next ih => exact ⟨hfirst.1, fun names => ih names (hfirst.2 names)⟩
  | scanPackages bases next ih => exact ⟨hfirst.1, fun names => ih names (hfirst.2 names)⟩
  | consult sentinel next ih => exact ⟨hfirst.1, fun answer => ih answer (hfirst.2 answer)⟩
  | note answer rest ih => exact ih hfirst

theorem StaysWithin.mono {contribution : Contribution}
    (h : contribution.StaysWithin permitted libraries) (hsteps : ∀ step, permitted step → weaker step)
    (hlibraries : ∀ sentinel, libraries sentinel → others sentinel) :
    contribution.StaysWithin weaker others := by
  induction contribution with
  | done => trivial
  | fail error => trivial
  | act action rest ih => exact ⟨hsteps _ h.1, ih h.2⟩
  | scanArchives bases next ih => exact ⟨hsteps _ h.1, fun names => ih names (h.2 names)⟩
  | scanPackages bases next ih => exact ⟨hsteps _ h.1, fun names => ih names (h.2 names)⟩
  | consult sentinel next ih => exact ⟨hlibraries _ h.1, fun answer => ih answer (h.2 answer)⟩
  | note answer rest ih => exact ih h

theorem staysWithin_sequence {contributions : List Contribution}
    (h : ∀ contribution ∈ contributions, contribution.StaysWithin permitted libraries) :
    (sequence contributions).StaysWithin permitted libraries := by
  induction contributions with
  | nil => trivial
  | cons contribution contributions ih =>
    obtain ⟨hfirst, hrest⟩ := List.forall_mem_cons.1 h
    exact hfirst.append (ih hrest)

theorem staysWithin_actions {steps : List Action} (h : ∀ step ∈ steps, permitted (.act step)) :
    (actions steps).StaysWithin permitted libraries := by
  induction steps with
  | nil => trivial
  | cons step steps ih =>
    obtain ⟨hfirst, hrest⟩ := List.forall_mem_cons.1 h
    exact ⟨hfirst, ih hrest⟩

theorem staysWithin_offers (h : ∀ name, permitted (.act (.offer (.ofClass name))))
    (names : List ClassName) : (offers names).StaysWithin permitted libraries :=
  staysWithin_actions (List.forall_mem_map.2 fun name _ => h name)

theorem staysWithin_ite_actions {condition : Prop} [Decidable condition] {steps : List Action}
    (h : ∀ step ∈ steps, permitted (.act step)) :
    (if condition then actions steps else .done).StaysWithin permitted libraries := by
  split
  · exact staysWithin_actions h
  · trivial

/-- Actions that wait for the answer of a probe. -/
theorem staysWithin_consult_actions {sentinel : ClassName} {steps : List Action}
    (hsentinel : libraries sentinel) (h : ∀ step ∈ steps, permitted (.act step)) :
    (consult sentinel fun present => if present then actions steps else .done).StaysWithin permitted
      libraries :=
  ⟨hsentinel, fun _ => staysWithin_ite_actions h⟩

/-- A contribution takes only steps that its bound permits. -/
theorem StaysWithin.of_mem_steps {contribution : Contribution}
    (h : contribution.StaysWithin permitted libraries) {env : Environment} {call : Call}
    {step : HookStep} (hstep : step ∈ contribution.steps env call) : permitted step := by
  induction contribution generalizing call with
  | done => exact (List.not_mem_nil hstep).elim
  | fail error => exact (List.not_mem_nil hstep).elim
  | act action rest ih =>
    rcases List.mem_cons.1 hstep with rfl | hrest
    · exact h.1
    · exact ih h.2 hrest
  | scanArchives bases next ih =>
    rcases List.mem_cons.1 hstep with rfl | hrest
    · exact h.1
    · exact ih _ (h.2 _) hrest
  | scanPackages bases next ih =>
    rcases List.mem_cons.1 hstep with rfl | hrest
    · exact h.1
    · exact ih _ (h.2 _) hrest
  | consult sentinel next ih => exact ih _ (h.2 _) hstep
  | note answer rest ih => exact ih h hstep

end Contribution

/-! ## The default plugins -/

/-- The steps that the default plugins may take at a hook point. Scans are for an inspected class alone:
below the roots of the types that its first marker for class paths refers to, in the packages of those that
its first marker for packages refers to, and, for the marker that asks for proxies, below the roots of the
proxy machinery. -/
inductive HookPoint.Permits (package : String) : HookPoint → HookStep → Prop
  | offer (point ref) : Permits package point (.act (.offer ref))
  | ignore (point ref) : Permits package point (.act (.ignore ref))
  | activate (point group name) : Permits package point (.act (.activate group (.ofClass name)))
  | register (point registration) : Permits package point (.act (.register registration))
  | archives {info marker}
      (hmarker : info.marker? (Vocabulary.relocated Vocabulary.additionalClasspaths package) =
        some marker) : Permits package (.process info) (.scanArchives marker.value)
  | packages {info marker}
      (hmarker : info.marker? (Vocabulary.relocated Vocabulary.additionalPackages package) =
        some marker) : Permits package (.process info) (.scanPackages marker.value)
  | proxies {info sentinel} (hinfo : info.name = Plugin.proxySupportMarker)
      (hsentinel : sentinel ∈ Plugin.proxySentinels) :
      Permits package (.process info) (.scanArchives [sentinel])

namespace Plugin
open Contribution
variable {env : Environment} {package : String} {plugin : Plugin} {plugins : List Plugin}

/-- The types that the default plugins look up to find out whether a library is there. -/
def librarySentinels : List ClassName :=
  [MockFramework.mockito.sentinel, MockFramework.easymock.sentinel, viewScopeSentinel,
    producerConfigSentinel] ++ proxySentinels

theorem sentinel_mem_librarySentinels (framework : MockFramework) :
    framework.sentinel ∈ librarySentinels := by
  cases framework <;> decide

theorem staysWithin_standard (point : HookPoint) :
    (standard.respond env point).StaysWithin (point.Permits package) (· ∈ librarySentinels) := by
  cases point with
  | bootstrap test => trivial
  | process info =>
    refine StaysWithin.append ?_ (staysWithin_actions (List.forall_mem_map.2
      fun group _ => .activate _ group info.name))
    rw [extensionContribution]
    split
    · trivial
    · split
      · exact ⟨.register _ _, trivial⟩
      · trivial
  | field info field =>
    exact staysWithin_ite_actions (List.forall_mem_singleton.2 (.offer _ _))
  | method info method =>
    exact staysWithin_ite_actions (List.forall_mem_map.2 fun type _ => .offer _ _)

theorem staysWithin_onMarker {point : HookPoint} {info : ClassInfo} {marker : ClassName}
    {contribution : MarkerUse → Contribution}
    (h : ∀ found, info.marker? (Vocabulary.relocated marker package) = some found →
      (contribution found).StaysWithin (point.Permits package) (· ∈ librarySentinels)) :
    (onMarker package info marker contribution).StaysWithin (point.Permits package)
      (· ∈ librarySentinels) := by
  rw [onMarker]
  split
  next found hfound => exact h found hfound
  next => trivial

theorem permits_activateAlternative {point : HookPoint} {registry : TypeRegistry} {name : ClassName} :
    ∀ action ∈ activateAlternative registry name, point.Permits package (.act action) := by
  rw [activateAlternative]
  refine List.forall_mem_cons.2 ⟨.offer _ _, ?_⟩
  split
  · exact fun _ hmem => (List.not_mem_nil hmem).elim
  · exact List.forall_mem_singleton.2 (.activate _ _ name)

theorem staysWithin_testMarkers (point : HookPoint) :
    ((testMarkers package).respond env point).StaysWithin (point.Permits package)
      (· ∈ librarySentinels) := by
  have hoffers : ∀ names, (Contribution.offers names).StaysWithin (point.Permits package)
      (· ∈ librarySentinels) := staysWithin_offers fun name => .offer _ _
  cases point with
  | bootstrap test => trivial
  | process info =>
    refine staysWithin_sequence fun contribution hmem => ?_
    simp only [List.mem_cons, List.not_mem_nil, or_false] at hmem
    rcases hmem with rfl | rfl | rfl | rfl | rfl | rfl | rfl
    · exact staysWithin_onMarker fun found hfound => ⟨.archives hfound, hoffers⟩
    · exact staysWithin_onMarker fun found hfound => ⟨.packages hfound, hoffers⟩
    · exact staysWithin_onMarker fun found _ =>
        staysWithin_actions (List.forall_mem_map.2 fun ref _ => .offer _ ref)
    · exact staysWithin_onMarker fun found _ =>
        staysWithin_actions (List.forall_mem_map.2 fun ref _ => .ignore _ ref)
    · refine staysWithin_onMarker fun found _ => staysWithin_actions fun action haction => ?_
      obtain ⟨name, -, hname⟩ := List.mem_flatMap.1 haction
      exact permits_activateAlternative action hname
    · exact hoffers _
    · exact staysWithin_actions (List.forall_mem_map.2 fun type _ => .offer _ _)
  | field info field =>
    exact staysWithin_ite_actions (List.forall_mem_singleton.2 (.ignore _ _))
  | method info method =>
    exact staysWithin_ite_actions (List.forall_mem_map.2 fun type _ => .ignore _ _)

theorem permits_ignoreMocked {point : HookPoint} {framework : MockFramework} {field : FieldInfo} :
    ∀ action ∈ ignoreMocked framework field, point.Permits package (.act action) := by
  rw [ignoreMocked]
  split
  · exact List.forall_mem_map.2 fun raw _ => .ignore _ _
  · exact fun _ hmem => (List.not_mem_nil hmem).elim

theorem staysWithin_mocking (framework : MockFramework) (point : HookPoint) :
    ((mocking framework).respond env point).StaysWithin (point.Permits package)
      (· ∈ librarySentinels) := by
  have hsentinel := sentinel_mem_librarySentinels framework
  cases point with
  | bootstrap test =>
    refine staysWithin_consult_actions hsentinel (List.forall_mem_cons.2 ⟨.register _ _, ?_⟩)
    intro action haction
    obtain ⟨field, -, hfield⟩ := List.mem_flatMap.1 haction
    exact permits_ignoreMocked action hfield
  | field info field => exact staysWithin_consult_actions hsentinel permits_ignoreMocked
  | process info => trivial
  | method info method => trivial

theorem staysWithin_testScope (point : HookPoint) :
    (testScope.respond env point).StaysWithin (point.Permits package) (· ∈ librarySentinels) := by
  cases point with
  | bootstrap test => exact staysWithin_actions (List.forall_mem_singleton.2 (.register _ _))
  | _ => trivial

theorem staysWithin_viewScope (point : HookPoint) :
    (viewScope.respond env point).StaysWithin (point.Permits package) (· ∈ librarySentinels) := by
  cases point with
  | bootstrap test =>
    exact staysWithin_consult_actions (by decide) (List.forall_mem_singleton.2 (.register _ _))
  | _ => trivial

theorem staysWithin_producerConfig (point : HookPoint) :
    (producerConfig.respond env point).StaysWithin (point.Permits package)
      (· ∈ librarySentinels) := by
  cases point with
  | bootstrap test =>
    exact staysWithin_consult_actions (by decide) (List.forall_mem_singleton.2 (.register _ _))
  | _ => trivial

theorem staysWithin_partialBeanProxies (point : HookPoint) :
    (partialBeanProxies.respond env point).StaysWithin (point.Permits package)
      (· ∈ librarySentinels) := by
  cases point with
  | process info =>
    change (if info.name = proxySupportMarker then
      sequence (proxySentinels.map proxyArchive) else .done).StaysWithin _ _
    split
    next hinfo =>
      refine staysWithin_sequence (List.forall_mem_map.2 fun sentinel hsentinel => ?_)
      refine ⟨List.mem_append_right _ hsentinel, fun present => ?_⟩
      cases present with
      | true => exact ⟨.proxies hinfo hsentinel, staysWithin_offers fun name => .offer _ _⟩
      | false => trivial
    next => trivial
  | _ => trivial

/-- Each default plugin takes only steps that its hook point permits, and asks only for the libraries of the
default plugins. -/
theorem staysWithin_defaultSet (hplugin : plugin ∈ defaultSet package) (env : Environment)
    (point : HookPoint) :
    (plugin.respond env point).StaysWithin (point.Permits package) (· ∈ librarySentinels) := by
  simp only [defaultSet, List.mem_cons, List.not_mem_nil, or_false] at hplugin
  rcases hplugin with rfl | rfl | rfl | rfl | rfl | rfl | rfl | rfl
  · exact staysWithin_standard point
  · exact staysWithin_testMarkers point
  · exact staysWithin_mocking _ point
  · exact staysWithin_mocking _ point
  · exact staysWithin_testScope point
  · exact staysWithin_viewScope point
  · exact staysWithin_producerConfig point
  · exact staysWithin_partialBeanProxies point

/-! ## Lists of default plugins -/

/-- The plugins answer hook calls as the default plugins do, whatever their probes have learned. -/
def AreDefault (package : String) (plugins : List Plugin) : Prop :=
  plugins.map (·.respond) = (defaultSet package).map (·.respond)

theorem AreDefault.forall_respond (h : AreDefault package plugins)
    {P : (Environment → HookPoint → Contribution) → Prop}
    (hdefault : ∀ plugin ∈ defaultSet package, P plugin.respond) :
    ∀ plugin ∈ plugins, P plugin.respond :=
  (forall_respond_iff h).2 hdefault

theorem permitted_of_mem_stepsOfEach {permitted : HookStep → Prop} {libraries : ClassName → Prop}
    {point : HookPoint}
    (h : ∀ plugin ∈ plugins, (plugin.respond env point).StaysWithin permitted libraries)
    {position : Nat} {progress : Progress} {step : HookStep}
    (hstep : step ∈ stepsOfEach env point position plugins progress) : permitted step := by
  induction plugins generalizing position progress with
  | nil => exact (List.not_mem_nil hstep).elim
  | cons plugin plugins ih =>
    obtain ⟨hplugin, hplugins⟩ := List.forall_mem_cons.1 h
    rcases List.mem_append.1 hstep with hfirst | hrest
    · rw [steps] at hfirst
      split at hfirst
      · exact (List.not_mem_nil hfirst).elim
      · exact hplugin.of_mem_steps hfirst
    · exact ih hplugins hrest

end Plugin

/-! ## Runs -/

namespace Run
open Plugin
variable {env : Environment} {scans : ScanCache} {package : String} {plugins : List Plugin} {run : Run}

theorem areDefault_call (h : AreDefault package run.plugins) (point : HookPoint) :
    AreDefault package (run.call env point).plugins :=
  (respond_callEach env point 0 run.plugins run.progress).trans h

/-- The plugins of a run answer before every visit as they did at its beginning. -/
theorem areDefault_before (h : AreDefault package plugins) {visit : Visit}
    (hvisit : visit ∈ visits env scans plugins) : AreDefault package visit.before.plugins :=
  (plugins_complete (P := AreDefault package) (fun _ point hrun => areDefault_call hrun point) h
    scans).2 visit hvisit

theorem permits_of_mem_call (h : AreDefault package run.plugins) {point : HookPoint} {step : HookStep}
    (hstep : step ∈ run.steps env point) : point.Permits package step := by
  have hbounds := h.forall_respond (P := fun respond =>
    (respond env point).StaysWithin (point.Permits package) (· ∈ librarySentinels))
    fun plugin hplugin => staysWithin_defaultSet hplugin env point
  exact permitted_of_mem_stepsOfEach hbounds hstep

theorem permits_of_mem_stepsAtAll (h : AreDefault package run.plugins) {points : List HookPoint}
    {step : HookStep} (hstep : step ∈ run.stepsAtAll env points) :
    ∃ point ∈ points, point.Permits package step := by
  induction points generalizing run with
  | nil => exact (List.not_mem_nil hstep).elim
  | cons point points ih =>
    rcases List.mem_append.1 hstep with hfirst | hrest
    · exact ⟨point, List.mem_cons_self, permits_of_mem_call h hfirst⟩
    · obtain ⟨other, hother, hpermits⟩ := ih (areDefault_call h point) hrest
      exact ⟨other, List.mem_cons_of_mem _ hother, hpermits⟩

/-- Before the traversal the default plugins take steps that the hook point of the test class permits. -/
theorem permits_of_mem_bootstrap (h : AreDefault package plugins) {step : HookStep}
    (hstep : step ∈ (start env scans plugins).steps env (.bootstrap env.configuration.testClass)) :
    (HookPoint.bootstrap env.configuration.testClass).Permits package step := by
  have hstart : AreDefault package (start env scans plugins).plugins := h
  exact permits_of_mem_call hstart hstep

/-- In a run with the default plugins every step of a visit is one that a hook point of the inspected class
permits. -/
theorem permits_of_mem_steps (h : AreDefault package plugins) {visit : Visit}
    (hvisit : visit ∈ visits env scans plugins) {step : HookStep} (hstep : step ∈ visit.steps env) :
    ∃ info, visit.before.context.target? env visit.candidate = some info ∧
      ∃ point ∈ info.hookPoints, point.Permits package step := by
  obtain ⟨info, hinfo, hsteps⟩ := List.mem_flatMap.1 hstep
  have hturned : AreDefault package (visit.before.update (·.turnTo info)).plugins :=
    areDefault_before h hvisit
  exact ⟨info, Option.mem_toList.1 hinfo, permits_of_mem_stepsAtAll hturned hsteps⟩

end Run
end BeanDiscovery
