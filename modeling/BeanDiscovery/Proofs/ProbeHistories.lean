import BeanDiscovery.Proofs.Replays
import BeanDiscovery.Proofs.VisitSteps

/-!
# The questions put to probes

All that ever happens to the probes of a plugin is that they are asked, and in one run all questions are
about the same registry. The main statements say so of a whole run, that the answer to a first question is
what the registry of its run says, and that a sentinel has one probe, which looks it up at most once.
-/
namespace BeanDiscovery

/-! ## Probes -/

namespace LibraryProbe
variable {registry : TypeRegistry} {sentinel other : ClassName} {probes asked : List LibraryProbe}
  {answer : Bool}

/-! ### First answers -/

theorem ask_of_unsettled {probe : LibraryProbe} (h : probe.answer = none) (registry : TypeRegistry) :
    (probe.ask registry).1 = registry.isPresent probe.sentinel := by
  simp [ask, h]

/-- Probes learn of a sentinel only when they are asked for it, and then what the registry says. -/
theorem isPresent_of_known?_askAmong (hbefore : known? other probes = none)
    (hafter : known? other (askAmong registry sentinel probes).2 = some answer) :
    registry.isPresent other = answer := by
  induction probes with
  | nil =>
    by_cases heq : sentinel = other
    · subst heq
      have hask := known?_cons_of_eq (sentinel_ask { sentinel } registry) []
      rw [answer_ask, ask_of_unsettled rfl] at hask
      exact Option.some.inj (hask.symm.trans hafter)
    · have hfresh : ((LibraryProbe.ask { sentinel } registry).2).sentinel ≠ other := by
        rwa [sentinel_ask]
      cases (known?_cons_of_ne hfresh []).symm.trans hafter
  | cons probe probes ih =>
    rw [askAmong] at hafter
    -- Only the first probe of a sentinel is asked, and only the first one of `other` counts.
    by_cases heq : probe.sentinel = other
    · rw [known?_cons_of_eq heq] at hbefore
      by_cases hsame : probe.sentinel = sentinel
      · rw [if_pos hsame, known?_cons_of_eq ((sentinel_ask probe registry).trans heq), answer_ask,
          ask_of_unsettled hbefore, heq] at hafter
        exact Option.some.inj hafter
      · rw [if_neg hsame, known?_cons_of_eq heq, hbefore] at hafter
        cases hafter
    · rw [known?_cons_of_ne heq] at hbefore
      by_cases hsame : probe.sentinel = sentinel
      · have hask : (probe.ask registry).2.sentinel ≠ other := by rwa [sentinel_ask]
        rw [if_pos hsame, known?_cons_of_ne hask, hbefore] at hafter
        cases hafter
      · rw [if_neg hsame, known?_cons_of_ne heq] at hafter
        exact ih hbefore hafter

/-- What probes have learned by some questions is what the registry says. -/
theorem Questioned.isPresent (h : Questioned registry probes asked)
    (hbefore : known? sentinel probes = none) (hafter : known? sentinel asked = some answer) :
    registry.isPresent sentinel = answer := by
  induction h generalizing answer with
  | refl => cases hbefore.symm.trans hafter
  | @tail between asked _ hask ih =>
    obtain ⟨other, rfl⟩ := hask
    cases hknown : known? sentinel between with
    | none => exact isPresent_of_known?_askAmong hknown hafter
    | some earlier =>
      have hkept := known?_askAmong_of_known hknown registry other
      rw [← Option.some.inj (hkept.symm.trans hafter)]
      exact ih hknown

/-! ### Lookups -/

/-- A sentinel has one probe, and no probe has looked its sentinel up without keeping the answer. -/
structure Tidy (probes : List LibraryProbe) : Prop where
  nodup : (probes.map (·.sentinel)).Nodup
  thrifty : ∀ probe ∈ probes, probe.Thrifty

theorem tidy_nil : Tidy [] := ⟨List.nodup_nil, fun _ h => (List.not_mem_nil h).elim⟩

theorem Thrifty.lookups_le_one {probe : LibraryProbe} (h : probe.Thrifty) : probe.lookups ≤ 1 := by
  rw [h]
  split <;> simp

/-- A question adds a probe if there is none of its sentinel. -/
theorem sentinels_askAmong (registry : TypeRegistry) (sentinel : ClassName)
    (probes : List LibraryProbe) :
    (askAmong registry sentinel probes).2.map (·.sentinel) =
      if sentinel ∈ probes.map (·.sentinel) then probes.map (·.sentinel)
      else probes.map (·.sentinel) ++ [sentinel] := by
  induction probes with
  | nil => rfl
  | cons probe probes ih =>
    by_cases heq : probe.sentinel = sentinel
    · simp [askAmong, heq]
    · simp only [askAmong, if_neg heq, List.map_cons, ih, List.mem_cons, Ne.symm heq, false_or]
      split <;> rfl

theorem thrifty_askAmong (h : ∀ probe ∈ probes, probe.Thrifty) (registry : TypeRegistry)
    (sentinel : ClassName) : ∀ probe ∈ (askAmong registry sentinel probes).2, probe.Thrifty := by
  induction probes with
  | nil => exact List.forall_mem_singleton.2 ((thrifty_fresh sentinel).ask registry)
  | cons probe probes ih =>
    obtain ⟨hprobe, hprobes⟩ := List.forall_mem_cons.1 h
    rw [askAmong]
    split
    · exact List.forall_mem_cons.2 ⟨hprobe.ask registry, hprobes⟩
    · exact List.forall_mem_cons.2 ⟨hprobe, ih hprobes⟩

theorem Tidy.askAmong (h : Tidy probes) (registry : TypeRegistry) (sentinel : ClassName) :
    Tidy (askAmong registry sentinel probes).2 where
  nodup := by
    rw [sentinels_askAmong]
    split
    · exact h.nodup
    next hfresh => exact List.Nodup.append h.nodup (List.nodup_singleton _) (by simpa using hfresh)
  thrifty := thrifty_askAmong h.thrifty registry sentinel

theorem Questioned.tidy (h : Questioned registry probes asked) (htidy : Tidy probes) :
    Tidy asked := by
  induction h with
  | refl => exact htidy
  | tail _ hask ih =>
    obtain ⟨sentinel, rfl⟩ := hask
    exact ih.askAmong registry sentinel

end LibraryProbe

/-! ## Calls -/

namespace Plugin
variable {registry : TypeRegistry} {env : Environment} {point : HookPoint} {plugins later : List Plugin}
  {position : Nat} {progress : Progress}

theorem Questioned.refl (registry : TypeRegistry) (plugin : Plugin) :
    plugin.Questioned registry plugin := ⟨rfl, .refl _ _⟩

theorem Questioned.trans {first second third : Plugin} (h : first.Questioned registry second)
    (h' : second.Questioned registry third) : first.Questioned registry third := by
  refine ⟨?_, h.probes.trans h'.probes⟩
  rw [h'.same, h.same]

theorem questioned_callEach (h : List.Forall₂ (Questioned env.registry) plugins later) :
    List.Forall₂ (Questioned env.registry) plugins
      (callEach env point position later progress).1 := by
  induction h generalizing position progress with
  | nil => exact .nil
  | @cons _ plugin _ _ hplugin _ ih =>
    exact .cons (hplugin.trans (questioned_call env point position plugin progress)) ih

end Plugin

/-- A run does nothing to the probes of its plugins but ask them about its registry. -/
theorem Run.questioned_complete (env : Environment) (scans : ScanCache) (plugins : List Plugin) :
    List.Forall₂ (Plugin.Questioned env.registry) plugins (complete env scans plugins).plugins :=
  (plugins_complete (P := List.Forall₂ (Plugin.Questioned env.registry) plugins)
    (fun _ _ hrun => Plugin.questioned_callEach hrun)
    (List.forall₂_same.2 fun plugin _ => .refl _ plugin) scans).1

end BeanDiscovery
