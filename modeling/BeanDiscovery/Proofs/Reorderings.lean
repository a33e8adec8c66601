import Mathlib.Data.Option.Basic
import BeanDiscovery.Proofs.StaticRuns

/-!
# Reordered registries

The interfaces, fields and methods of a class can be listed in any order, and so can the classes of a
registry. The main statements say that no such order has an influence on what a class refers to, on what it
switches on and on what a container makes of it. Markers are not reordered, because the first use of a
marker counts.
-/
namespace BeanDiscovery

/-- Two descriptions of a class list its interfaces, fields and methods in any order, and agree otherwise. -/
structure ClassInfo.Reordered (first second : ClassInfo) : Prop where
  name : second.name = first.name
  kind : second.kind = first.kind
  isAbstract : second.isAbstract = first.isAbstract
  location : second.location = first.location
  superclass : second.superclass = first.superclass
  markers : second.markers = first.markers
  interfaces : first.interfaces.Perm second.interfaces
  fields : first.fields.Perm second.fields
  methods : first.methods.Perm second.methods

/-- Two registries know the same classes, up to their order, and have the same bean archives. -/
structure TypeRegistry.Reordered (first second : TypeRegistry) : Prop where
  resolve : ∀ name, Option.Rel ClassInfo.Reordered (first.resolve name) (second.resolve name)
  isBeanArchive : ∀ root, second.isBeanArchive root = first.isBeanArchive root

/-- A container builds the same extension of a class in whatever order it is described. -/
def ContainerInterface.IgnoresOrder (container : ContainerInterface) : Prop :=
  ∀ first second : ClassInfo, first.Reordered second →
    container.instantiate second = container.instantiate first

theorem Container.ignoresOrder_interface (container : Container) :
    container.interface.IgnoresOrder := by
  intro first second h
  change container.instantiate second = container.instantiate first
  rw [instantiate, instantiate, h.name]

namespace ClassInfo.Reordered
variable {first second : ClassInfo}

theorem refl (info : ClassInfo) : info.Reordered info :=
  ⟨rfl, rfl, rfl, rfl, rfl, rfl, .refl _, .refl _, .refl _⟩

theorem symm (h : first.Reordered second) : second.Reordered first where
  name := h.name.symm
  kind := h.kind.symm
  isAbstract := h.isAbstract.symm
  location := h.location.symm
  superclass := h.superclass.symm
  markers := h.markers.symm
  interfaces := h.interfaces.symm
  fields := h.fields.symm
  methods := h.methods.symm

theorem marker? (h : first.Reordered second) (name : ClassName) :
    second.marker? name = first.marker? name := by
  rw [ClassInfo.marker?, ClassInfo.marker?, h.markers]

theorem hasMarker (h : first.Reordered second) (name : ClassName) :
    second.hasMarker name = first.hasMarker name := by
  rw [ClassInfo.hasMarker, ClassInfo.hasMarker, h.marker?]

theorem isAlternativeStereotype (h : first.Reordered second) :
    second.isAlternativeStereotype = first.isAlternativeStereotype := by
  rw [ClassInfo.isAlternativeStereotype, ClassInfo.isAlternativeStereotype, h.hasMarker,
    h.hasMarker]

theorem implements (h : first.Reordered second) (interface : ClassName) :
    second.implements interface = first.implements interface := by
  rw [ClassInfo.implements, ClassInfo.implements]
  exact (h.interfaces.contains_eq).symm

theorem mem_allMarkers (h : first.Reordered second) {marker : MarkerUse} :
    marker ∈ first.allMarkers → marker ∈ second.allMarkers := by
  simp only [allMarkers, List.mem_append, List.mem_flatMap, h.markers, h.fields.mem_iff,
    h.methods.mem_iff]
  exact id

theorem isStatic (h : first.Reordered second) {package : String} (hstatic : first.IsStatic package) :
    second.IsStatic package :=
  fun marker hmarker => hstatic marker (h.symm.mem_allMarkers hmarker)

theorem registrations (h : first.Reordered second) {container : ContainerInterface}
    (hextension : ∀ info, container.isExtensionType info =
      info.implements Vocabulary.extensionInterface)
    (hcontainer : container.IgnoresOrder) :
    second.registrations container = first.registrations container := by
  rw [ClassInfo.registrations, ClassInfo.registrations, h.isAbstract, hextension, hextension,
    h.implements, hcontainer first second h, h.name]

end ClassInfo.Reordered

namespace TypeRegistry.Reordered
variable {first second : TypeRegistry} {info other : ClassInfo} {package : String} {name : ClassName}

/-- A name is unknown to both registries, or both know a description of its class. -/
theorem resolve_cases (h : first.Reordered second) (name : ClassName) :
    (first.resolve name = none ∧ second.resolve name = none) ∨
      ∃ info other, first.resolve name = some info ∧ second.resolve name = some other ∧
        info.Reordered other := by
  have hrel := h.resolve name
  generalize first.resolve name = found, second.resolve name = other at hrel
  cases hrel with
  | some hinfo => exact Or.inr ⟨_, _, rfl, rfl, hinfo⟩
  | none => exact Or.inl ⟨rfl, rfl⟩

theorem symm (h : first.Reordered second) : second.Reordered first where
  resolve := fun name => by
    rcases h.resolve_cases name with ⟨hfirst, hsecond⟩ | ⟨info, other, hfirst, hsecond, hinfo⟩
    · rw [hfirst, hsecond]
      exact .none
    · rw [hfirst, hsecond]
      exact .some hinfo.symm
  isBeanArchive := fun root => (h.isBeanArchive root).symm

theorem resolve_eq_some (h : first.Reordered second) (hinfo : first.resolve name = some info) :
    ∃ other, second.resolve name = some other ∧ info.Reordered other := by
  rcases h.resolve_cases name with ⟨hfirst, -⟩ | ⟨found, other, hfirst, hsecond, hreordered⟩
  · cases hinfo.symm.trans hfirst
  · cases hinfo.symm.trans hfirst
    exact ⟨other, hsecond, hreordered⟩

theorem refl (registry : TypeRegistry) : registry.Reordered registry where
  resolve := fun name => by
    cases registry.resolve name with
    | none => exact .none
    | some info => exact .some (.refl info)
  isBeanArchive := fun _ => rfl

/-- Registering reordered classes keeps registries reordered. -/
theorem register (h : first.Reordered second) (hinfo : info.Reordered other) :
    (first.register info).Reordered (second.register other) where
  resolve := fun name => by
    rw [resolve_register, resolve_register, hinfo.name]
    split
    · exact .some hinfo
    · exact h.resolve name
  isBeanArchive := fun root => by
    rw [isBeanArchive_register, isBeanArchive_register]
    exact h.isBeanArchive root

theorem registerAll (h : first.Reordered second) {infos others : List ClassInfo}
    (hinfos : List.Forall₂ ClassInfo.Reordered infos others) :
    (first.registerAll infos).Reordered (second.registerAll others) := by
  induction hinfos generalizing first second with
  | nil => exact h
  | cons hinfo _ ih => exact ih (h.register hinfo)

theorem any_resolve (h : first.Reordered second) {p : ClassInfo → Bool}
    (hp : ∀ info other, info.Reordered other → p other = p info) (name : ClassName) :
    (second.resolve name).any p = (first.resolve name).any p := by
  rcases h.resolve_cases name with ⟨hfirst, hsecond⟩ | ⟨info, other, hfirst, hsecond, hinfo⟩
  · rw [hfirst, hsecond]
  · rw [hfirst, hsecond]
    exact hp info other hinfo

/-- What is collected from the class of a name is the same in both registries, if it is the same for
reordered classes. -/
theorem flatMap_resolve {α : Type} (h : first.Reordered second) {f g : ClassInfo → List α}
    (hfg : ∀ info other, info.Reordered other → g other = f info) (name : ClassName) :
    (second.resolve name).toList.flatMap g = (first.resolve name).toList.flatMap f := by
  rcases h.resolve_cases name with ⟨hfirst, hsecond⟩ | ⟨info, other, hfirst, hsecond, hinfo⟩
  · rw [hfirst, hsecond]
    rfl
  · rw [hfirst, hsecond, Option.toList_some, Option.toList_some, List.flatMap_singleton,
      List.flatMap_singleton, hfg info other hinfo]

theorem isStatic (h : first.Reordered second) (hstatic : first.IsStatic package) :
    second.IsStatic package := by
  intro info hinfo
  obtain ⟨other, hother, hreordered⟩ := h.symm.resolve_eq_some (resolve_of_mem hinfo)
  exact hreordered.symm.isStatic (hstatic other (mem_of_resolve hother))

/-- A reordered class refers to the same names. -/
theorem refers (h : first.Reordered second) (hinfo : info.Reordered other)
    (hrefers : info.Refers first package name) : other.Refers second package name := by
  cases hrefers with
  | field hfield hfollowed hname => exact .field (hinfo.fields.mem_iff.1 hfield) hfollowed hname
  | parameter hmethod hinjected htype hname =>
    exact .parameter (hinfo.methods.mem_iff.1 hmethod) hinjected htype hname
  | result hmethod hinjected htype hname =>
    exact .result (hinfo.methods.mem_iff.1 hmethod) hinjected htype hname
  | marker hmarker hforeign => exact .marker (hinfo.markers.symm ▸ hmarker) hforeign
  | superclass htype hraw hname => exact .superclass (hinfo.superclass.trans htype) hraw hname
  | additional hmarker hname => exact .additional ((hinfo.marker? _).trans hmarker) hname
  | late hmarker htext hother =>
    obtain ⟨found, hfound, hreordered⟩ := h.resolve_eq_some hother
    rw [← hreordered.name]
    exact .late ((hinfo.marker? _).trans hmarker) htext hfound
  | alternative hmarker hname => exact .alternative ((hinfo.marker? _).trans hmarker) hname

theorem switchesOn (h : first.Reordered second) (hinfo : info.Reordered other) (package : String)
    (group : Activation) :
    other.switchesOn second package group = info.switchesOn first package group := by
  have hstereotype := h.any_resolve fun _ _ hreordered => hreordered.isAlternativeStereotype
  cases group with
  | alternative =>
    simp only [ClassInfo.switchesOn, ClassInfo.namedAlternatives, hinfo.marker?, hstereotype]
  | interceptor => simp only [ClassInfo.switchesOn, hinfo.hasMarker, hinfo.name]
  | decorator => simp only [ClassInfo.switchesOn, hinfo.hasMarker, hinfo.name]
  | alternativeStereotype =>
    simp only [ClassInfo.switchesOn, hinfo.isAlternativeStereotype, hinfo.name]

end TypeRegistry.Reordered
end BeanDiscovery
