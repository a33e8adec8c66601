import BeanDiscovery.Proofs.AbsentLibraries
import BeanDiscovery.Proofs.AgreeingEnvironments

/-!
# Runs over changed classes

Classes may be changed in what they say about themselves, while their names, their kinds and their places stay.
Look-ups, scans and the steps of plugins do not see such a change; only the plugins look at a class, and the
container. The main statement says that two runs, one over the classes and one over the changed classes, go the
same way if the plugins of the second one do at every changed hook point what those of the first one do.
-/
namespace BeanDiscovery

/-- A change of classes, and of the hook points at them, that leaves names, kinds and places alone. -/
structure ClassChange where
  cls : ClassInfo → ClassInfo
  point : HookPoint → HookPoint
  name : ∀ info, (cls info).name = info.name
  kind : ∀ info, (cls info).kind = info.kind
  location : ∀ info, (cls info).location = info.location
  hookPoints : ∀ info, (cls info).hookPoints = info.hookPoints.map point
  bootstrap : ∀ test, point (.bootstrap test) = .bootstrap test

/-! ## Changed registries -/

namespace TypeRegistry

/-- The registry with every class changed. -/
def changed (change : ClassChange) (registry : TypeRegistry) : TypeRegistry where
  classes := registry.classes.map change.cls
  roots := registry.roots
  distinct := by
    have hnames : (fun info => info.name) ∘ change.cls = fun info => info.name := funext change.name
    rw [List.map_map, hnames]
    exact registry.distinct

variable (change : ClassChange) (registry : TypeRegistry)

theorem resolve_changed (name : ClassName) :
    (registry.changed change).resolve name = (registry.resolve name).map change.cls := by
  rw [resolve, changed, List.find?_map, resolve]
  refine congrArg _ (congrArg (List.find? · _) (funext fun info => ?_))
  rw [Function.comp, change.name]

theorem isPresent_changed (name : ClassName) :
    (registry.changed change).isPresent name = registry.isPresent name := by
  rw [isPresent, resolve_changed, Option.isSome_map, ← isPresent]

theorem locationOf_changed : (registry.changed change).locationOf = registry.locationOf := by
  funext name
  rw [locationOf, resolve_changed, locationOf]
  cases registry.resolve name with
  | none => rfl
  | some info => exact change.location info

theorem sortedNames_changed {p q : ClassInfo → Bool} (h : ∀ info, q (change.cls info) = p info) :
    (registry.changed change).sortedNames q = registry.sortedNames p := by
  have hpq : q ∘ change.cls = p := funext h
  have hnames : (fun info => info.name) ∘ change.cls = fun info => info.name := funext change.name
  rw [sortedNames, sortedNames, changed, List.filter_map, hpq, List.map_map, hnames]

/-- A scan looks at names and places alone. -/
theorem scanner_changed : (registry.changed change).scanner = registry.scanner := by
  have hclasses : (registry.changed change).classNames = registry.classNames := by
    funext roots
    refine List.flatMap_congr fun root _ => sortedNames_changed change registry fun info => ?_
    rw [change.location]
  have hpackages : (registry.changed change).packageClassNames = registry.packageClassNames := by
    funext package root
    refine sortedNames_changed change registry fun info => ?_
    rw [change.location, change.name]
  rw [scanner, hclasses, hpackages]
  rfl

end TypeRegistry

/-! ## Changed environments -/

/-- The environment in which every class has been changed. -/
def Environment.changed (change : ClassChange) (env : Environment) : Environment :=
  { env with registry := env.registry.changed change }

theorem Environment.inMemory_changed (change : ClassChange) (registry : TypeRegistry)
    (container : ContainerInterface) (configuration : TestConfiguration) :
    inMemory (registry.changed change) container configuration =
      (inMemory registry container configuration).changed change := by
  rw [inMemory, TypeRegistry.scanner_changed]
  rfl

theorem ClassRef.identities_changed (change : ClassChange) (registry : TypeRegistry) (ref : ClassRef) :
    ref.identities (registry.changed change) = ref.identities registry := by
  cases ref with
  | ofType type => rfl
  | ofClass name => rfl
  | ofName name =>
    rw [identities, TypeRegistry.resolve_changed, identities]
    cases registry.resolve name with
    | none => rfl
    | some info => exact congrArg (fun name => [name]) (change.name info)

namespace Context
variable (change : ClassChange) (env : Environment) (context : Context)

theorem rootsOf_changed (registry : TypeRegistry) :
    rootsOf (registry.changed change) = rootsOf registry := by
  funext bases
  rw [rootsOf, TypeRegistry.locationOf_changed, ← rootsOf]

theorem scanArchives_changed (bases : List ClassName) :
    context.scanArchives (env.changed change) bases = context.scanArchives env bases := by
  rw [scanArchives, scanArchives, ← rootsOf_changed change env.registry]
  rfl

theorem scanPackage_changed (base : ClassName) :
    context.scanPackage (env.changed change) base = context.scanPackage env base := by
  rw [scanPackage, scanPackage, ← TypeRegistry.locationOf_changed change env.registry]
  rfl

theorem scanPackages_changed (bases : List ClassName) :
    context.scanPackages (env.changed change) bases = context.scanPackages env bases := by
  induction bases generalizing context with
  | nil => rfl
  | cons base bases ih => simp only [scanPackages, scanPackage_changed, ih]

theorem perform_changed (action : Action) :
    context.perform (env.changed change) action = context.perform env action := by
  have hidentities : ∀ ref : ClassRef,
      ref.identities (env.changed change).registry = ref.identities env.registry :=
    ClassRef.identities_changed change env.registry
  cases action with
  | register registration => rfl
  | _ => simp only [perform, hidentities, scanArchives_changed, scanPackages_changed]

theorem turnTo_changed (info : ClassInfo) : context.turnTo (change.cls info) = context.turnTo info := by
  rw [turnTo, turnTo, ClassInfo.isMarkerDefinition, change.kind, change.name,
    ← ClassInfo.isMarkerDefinition]

/-- The class to inspect is the changed one, if the container does not notice. -/
theorem target?_changed {change : ClassChange} {env : Environment}
    (h : ∀ info, env.container.isExtensionType (change.cls info) = env.container.isExtensionType info)
    (context : Context) (candidate : ClassName) :
    context.target? (env.changed change) candidate =
      (context.target? env candidate).map change.cls := by
  have hresolve : (env.changed change).registry.resolve candidate = _ :=
    TypeRegistry.resolve_changed change env.registry candidate
  rw [target?, target?]
  split
  · rfl
  · rw [hresolve, Option.filter_map]
    refine congrArg _ (congrArg (Option.filter · _) (funext fun info => ?_))
    have hcontainer : (env.changed change).container.isExtensionType (change.cls info) = _ := h info
    simp only [Function.comp, ClassInfo.isPrimitive, covers, change.kind, change.name, change.location,
      hcontainer]

end Context

/-! ## Contributions -/

namespace Contribution
variable {env : Environment} {first first' second second' : Contribution}

/-- A contribution does the same whether or not the classes are changed. -/
theorem perform_changed (change : ClassChange) (env : Environment) (contribution : Contribution)
    (call : Call) : contribution.perform (env.changed change) call = contribution.perform env call := by
  induction contribution generalizing call with
  | done => rfl
  | fail error => rfl
  | act action rest ih => rw [perform, perform, Context.perform_changed, ih]
  | scanArchives bases next ih => simp only [perform, Context.scanArchives_changed, ih]
  | scanPackages bases next ih => simp only [perform, Context.scanPackages_changed, ih]
  | consult sentinel next ih =>
    have hask : LibraryProbe.askAmong (env.changed change).registry sentinel call.probes = _ :=
      LibraryProbe.askAmong_congr (TypeRegistry.isPresent_changed change env.registry sentinel) call.probes
    simp only [perform, hask, ih]
  | note answer rest ih => rw [perform, perform, ih]

/-- A contribution that fails gives up what comes after it. -/
theorem perform_append_of_failure {call : Call} (hcall : call.failure = none)
    (h : (first.perform env call).failure ≠ none) :
    (first ++ second).perform env call = first.perform env call := by
  change (first.append second).perform env call = _
  induction first generalizing call with
  | done => exact absurd hcall h
  | fail error => rfl
  | act action rest ih => exact @ih { call with context := _ } hcall h
  | scanArchives bases next ih => exact @ih _ { call with context := _ } hcall h
  | scanPackages bases next ih => exact @ih _ { call with context := _ } hcall h
  | consult sentinel next ih => exact @ih _ { call with probes := _ } hcall h
  | note answer rest ih => exact @ih { call with answers := _ } hcall h

/-- Two contributions do the same to every call that has not failed. -/
def SameEffect (env : Environment) (first second : Contribution) : Prop :=
  ∀ call, call.failure = none → first.perform env call = second.perform env call

theorem SameEffect.refl (env : Environment) (contribution : Contribution) :
    contribution.SameEffect env contribution := fun _ _ => rfl

theorem SameEffect.append (hfirst : first.SameEffect env first')
    (hsecond : second.SameEffect env second') : (first ++ second).SameEffect env (first' ++ second') := by
  intro call hcall
  have hsame := hfirst call hcall
  by_cases hf : (first.perform env call).failure = none
  · rw [perform_append env first second call hf, perform_append env first' second' call (hsame ▸ hf),
      ← hsame]
    exact hsecond _ hf
  · rw [perform_append_of_failure hcall hf, perform_append_of_failure hcall (hsame ▸ hf)]
    exact hsame

theorem sameEffect_sequence {contributions others : List Contribution}
    (h : List.Forall₂ (SameEffect env) contributions others) :
    (sequence contributions).SameEffect env (sequence others) := by
  induction h with
  | nil => exact .refl env .done
  | cons hfirst _ ih => exact hfirst.append ih

end Contribution

/-! ## Coupled plugins -/

namespace Plugin
variable {change : ClassChange} {env : Environment} {admitted : HookPoint → Prop}
  {coupled : Plugin → Plugin → Prop}

/-- Coupled plugins do the same when they are called at a hook point and at its changed form, and are coupled
afterwards. -/
def IsCoupling (change : ClassChange) (env : Environment) (admitted : HookPoint → Prop)
    (coupled : Plugin → Plugin → Prop) : Prop :=
  ∀ plugin other, coupled plugin other → ∀ point, admitted point →
    ∀ position progress progress', Progress.SameCourse progress progress' →
      coupled (plugin.call env point position progress).1
          (other.call (env.changed change) (change.point point) position progress').1 ∧
        (plugin.call env point position progress).2.SameCourse
          (other.call (env.changed change) (change.point point) position progress').2

theorem IsCoupling.callEach (hcoupling : IsCoupling change env admitted coupled)
    {plugins others : List Plugin} (h : List.Forall₂ coupled plugins others) {point : HookPoint}
    (hpoint : admitted point) (position : Nat) {progress other : Progress}
    (hcourse : progress.SameCourse other) :
    List.Forall₂ coupled (callEach env point position plugins progress).1
        (callEach (env.changed change) (change.point point) position others other).1 ∧
      (callEach env point position plugins progress).2.SameCourse
        (callEach (env.changed change) (change.point point) position others other).2 := by
  induction h generalizing position progress other with
  | nil => exact ⟨.nil, hcourse⟩
  | cons hplugin _ ih =>
    obtain ⟨hfirst, hnext⟩ := hcoupling _ _ hplugin point hpoint position _ _ hcourse
    obtain ⟨hothers, hend⟩ := ih (position + 1) hnext
    exact ⟨.cons hfirst hothers, hend⟩

/-- Plugins whose contributions have the same effect, and whose probes know the same, do the same when they are
called. -/
theorem call_of_sameEffect {plugin other : Plugin} {point : HookPoint} {progress progress' : Progress}
    (hprobes : other.probes = plugin.probes)
    (heffect : (other.respond (env.changed change) (change.point point)).SameEffect env
      (plugin.respond env point))
    (position : Nat) (hcourse : progress.SameCourse progress') :
    (other.call (env.changed change) (change.point point) position progress').1.probes =
        (plugin.call env point position progress).1.probes ∧
      (plugin.call env point position progress).2.SameCourse
        (other.call (env.changed change) (change.point point) position progress').2 := by
  have hperform := heffect { context := progress.context, probes := plugin.probes } rfl
  rw [call, call, hcourse.failure, hcourse.context, hprobes, Contribution.perform_changed, hperform]
  split
  · exact ⟨hprobes, hcourse⟩
  · exact ⟨rfl, rfl, rfl⟩

/-- The second plugin contributes at changed hook points what has the effect of the contributions of the first
one, and its probes know the same. -/
structure Echoes (change : ClassChange) (env : Environment) (plugin other : Plugin) : Prop where
  probes : other.probes = plugin.probes
  respond : ∀ point,
    (other.respond (env.changed change) (change.point point)).SameEffect env (plugin.respond env point)

/-- A plugin that contributes the same is its own echo. -/
theorem Echoes.of_respond {plugin : Plugin}
    (h : ∀ point, plugin.respond (env.changed change) (change.point point) = plugin.respond env point) :
    plugin.Echoes change env plugin :=
  ⟨rfl, fun point => h point ▸ .refl env _⟩

/-- A plugin and its echo do the same when they are called. -/
theorem isCoupling_echoes (change : ClassChange) (env : Environment) :
    IsCoupling change env (fun _ => True) (Echoes change env) := by
  intro plugin other h point _ position progress progress' hcourse
  obtain ⟨hprobes, hend⟩ := call_of_sameEffect h.probes (h.respond point) position hcourse
  refine ⟨⟨hprobes, fun next => ?_⟩, hend⟩
  rw [respond_call, respond_call]
  exact h.respond next

end Plugin

/-! ## Parallel runs -/

namespace Run

/-- The second run goes, with coupled plugins, where the first one went. -/
structure Parallel (coupled : Plugin → Plugin → Prop) (run other : Run) : Prop where
  plugins : List.Forall₂ coupled run.plugins other.plugins
  progress : run.progress.SameCourse other.progress
  trail : other.trail = run.trail

variable {change : ClassChange} {env : Environment} {admitted : HookPoint → Prop}
  {coupled : Plugin → Plugin → Prop} {run other : Run}

namespace Parallel

theorem update (h : Parallel coupled run other) (f : Context → Context) :
    Parallel coupled (run.update f) (other.update f) where
  plugins := h.plugins
  progress := ⟨congrArg f h.progress.context, h.progress.failure⟩
  trail := h.trail

theorem withTrail (h : Parallel coupled run other) (trail : Trail) :
    Parallel coupled { run with trail } { other with trail } := ⟨h.plugins, h.progress, rfl⟩

section Coupled
variable (hcoupling : Plugin.IsCoupling change env admitted coupled)
include hcoupling

theorem call (h : Parallel coupled run other) {point : HookPoint} (hpoint : admitted point) :
    Parallel coupled (run.call env point) (other.call (env.changed change) (change.point point)) := by
  obtain ⟨hplugins, hcourse⟩ := hcoupling.callEach h.plugins hpoint 0 h.progress
  exact ⟨hplugins, hcourse, h.trail⟩

theorem callAll (h : Parallel coupled run other) {points : List HookPoint}
    (hpoints : ∀ point ∈ points, admitted point) :
    Parallel coupled (run.callAll env points)
      (other.callAll (env.changed change) (points.map change.point)) := by
  induction points generalizing run other with
  | nil => exact h
  | cons point points ih =>
    obtain ⟨hpoint, hrest⟩ := List.forall_mem_cons.1 hpoints
    exact ih (h.call hcoupling hpoint) hrest

theorem inspect (h : Parallel coupled run other) {info : ClassInfo}
    (hpoints : ∀ point ∈ info.hookPoints, admitted point) :
    Parallel coupled (run.inspect env info) (other.inspect (env.changed change) (change.cls info)) := by
  have hturned : Parallel coupled (run.update (·.turnTo info))
      (other.update (·.turnTo (change.cls info))) := by
    simp only [Context.turnTo_changed]
    exact h.update _
  rw [Run.inspect, Run.inspect, change.hookPoints]
  exact (hturned.callAll hcoupling hpoints).update _

theorem visit (h : Parallel coupled run other)
    (hcontainer : ∀ info,
      env.container.isExtensionType (change.cls info) = env.container.isExtensionType info)
    (hadmitted : ∀ info ∈ env.registry.classes, ∀ point ∈ info.hookPoints, admitted point)
    (candidate : ClassName) :
    Parallel coupled (run.visit env candidate) (other.visit (env.changed change) candidate) := by
  have htarget : other.context.target? (env.changed change) candidate =
      (run.context.target? env candidate).map change.cls :=
    (congrArg (·.target? (env.changed change) candidate) h.progress.context).trans
      (Context.target?_changed hcontainer _ candidate)
  cases ht : run.context.target? env candidate with
  | none =>
    rw [ht] at htarget
    rw [visit_of_skipped ht, visit_of_skipped htarget, h.trail]
    exact (h.withTrail _).update _
  | some info =>
    rw [ht] at htarget
    rw [visit_of_target ht, visit_of_target htarget, h.trail]
    have hpoints := hadmitted info (TypeRegistry.mem_of_resolve (Context.resolve_of_target ht))
    exact ((h.inspect hcoupling hpoints).withTrail _).update _

end Coupled

/-- Runs that go the same way have the same report, or fail alike. -/
theorem report (h : Parallel coupled run other) (assembler : Assembler) :
    other.report assembler = run.report assembler := by
  have hcontext : other.context = run.context := h.progress.context
  have hfailure : other.failure = run.failure := h.progress.failure
  rw [Run.report, Run.report, hfailure, hcontext, h.trail]

end Parallel

/-- Coupled plugins lead the whole run over the changed classes where the run over the classes goes. -/
theorem parallel_complete
    (hcontainer : ∀ info,
      env.container.isExtensionType (change.cls info) = env.container.isExtensionType info)
    (hcoupling : Plugin.IsCoupling change env admitted coupled)
    (hbootstrap : admitted (.bootstrap env.configuration.testClass))
    (hadmitted : ∀ info ∈ env.registry.classes, ∀ point ∈ info.hookPoints, admitted point)
    {plugins others : List Plugin} (hplugins : List.Forall₂ coupled plugins others)
    (scans : ScanCache) :
    Parallel coupled (complete env scans plugins) (complete (env.changed change) scans others) := by
  have hstart : Parallel coupled (start env scans plugins) (start (env.changed change) scans others) :=
    ⟨hplugins, ⟨rfl, rfl⟩, rfl⟩
  have hcall := hstart.call hcoupling hbootstrap
  rw [change.bootstrap] at hcall
  refine (visits_complete env scans plugins).drain_of_partner (R := Parallel coupled) ?_ ?_ ?_
    (hcall.update _) _
  · exact fun run other h => h.progress.failure
  · exact fun run other h => congrArg (·.worklist.next?) h.progress.context
  · exact fun visit _ other h => h.visit hcoupling hcontainer hadmitted visit.candidate

end Run
end BeanDiscovery
