import Mathlib.Data.List.Induction
import Mathlib.Data.List.Nodup
import BeanDiscovery.ClassName

/-!
# First offers

The same name may be offered many times during a run, by one class or by several. This module keeps
every offer of a run in a log and takes from it the first offer of each name. The main statements say
that the first offers name each offered name once, that they only grow with the log, and that looking
a name up among them or in the log is the same.
-/
namespace BeanDiscovery

/-- A name that was asked to wait. -/
structure Offer where
  /-- The class that was under inspection, absent before the traversal. -/
  origin : Option ClassName
  name : ClassName
  deriving DecidableEq, Inhabited

namespace Offer

def names (log : List Offer) : List ClassName := log.map (·.name)

/-- From the origin to the name. -/
def edge? (offer : Offer) : Option (ClassName × ClassName) :=
  offer.origin.map fun origin => (origin, offer.name)

def edges (log : List Offer) : List (ClassName × ClassName) := log.filterMap edge?

/-- Adds an offer unless its name was offered before. -/
def addFirst (firsts : List Offer) (offer : Offer) : List Offer :=
  if offer.name ∈ names firsts then firsts else firsts ++ [offer]

/-- The first offer of every name, in the order of the log. -/
def firsts (log : List Offer) : List Offer := log.foldl addFirst []

@[simp] theorem names_append (log more : List Offer) :
    names (log ++ more) = names log ++ names more := List.map_append

theorem firsts_concat (log : List Offer) (offer : Offer) :
    firsts (log ++ [offer]) = addFirst (firsts log) offer := List.foldl_append

theorem mem_edges {log : List Offer} {a b : ClassName} :
    (a, b) ∈ edges log ↔ ⟨some a, b⟩ ∈ log := by
  simp only [edges, List.mem_filterMap, edge?, Option.map_eq_some_iff, Prod.mk.injEq]
  constructor
  · rintro ⟨⟨origin, name⟩, hm, _, rfl, rfl, rfl⟩
    exact hm
  · intro hm
    exact ⟨⟨some a, b⟩, hm, a, rfl, rfl, rfl⟩

@[simp] theorem mem_names_firsts {log : List Offer} {name : ClassName} :
    name ∈ names (firsts log) ↔ name ∈ names log := by
  induction log using List.reverseRecOn with
  | nil => exact Iff.rfl
  | append_singleton log offer ih =>
    rw [firsts_concat, addFirst, names_append, List.mem_append, ← ih]
    split
    next h =>
      refine ⟨Or.inl, fun h' => h'.elim id fun hm => ?_⟩
      rwa [List.mem_singleton.1 hm]
    next => rw [names_append, List.mem_append]

theorem nodup_names_firsts (log : List Offer) : (names (firsts log)).Nodup := by
  induction log using List.reverseRecOn with
  | nil => exact List.nodup_nil
  | append_singleton log offer ih =>
    rw [firsts_concat, addFirst]
    split
    · exact ih
    next h =>
      rw [names_append]
      refine List.nodup_append.2 ⟨ih, List.nodup_singleton _, fun a ha b hb => ?_⟩
      have hname : b = offer.name := List.mem_singleton.1 hb
      rintro rfl
      exact h (hname ▸ ha)

/-- A first offer is known by its name. -/
theorem eq_of_mem_firsts {log : List Offer} {a b : Offer} (ha : a ∈ firsts log)
    (hb : b ∈ firsts log) (h : a.name = b.name) : a = b :=
  List.inj_on_of_nodup_map (nodup_names_firsts log) ha hb h

/-- Later offers add first offers at the end, and these are among them. -/
theorem firsts_append (log more : List Offer) :
    ∃ news, firsts (log ++ more) = firsts log ++ news ∧ news.Sublist more := by
  induction more using List.reverseRecOn with
  | nil => exact ⟨[], by simp, List.Sublist.refl _⟩
  | append_singleton more offer ih =>
    obtain ⟨news, hnews, hsub⟩ := ih
    rw [← List.append_assoc, firsts_concat, hnews, addFirst]
    split
    · exact ⟨news, rfl, hsub.trans (List.sublist_append_left _ _)⟩
    · exact ⟨news ++ [offer], by rw [List.append_assoc], hsub.append (List.Sublist.refl _)⟩

/-- The log and the first offers agree on the first offer of a name. -/
theorem find?_firsts (log : List Offer) (name : ClassName) :
    (firsts log).find? (fun offer => decide (offer.name = name)) =
      log.find? (fun offer => decide (offer.name = name)) := by
  induction log using List.reverseRecOn with
  | nil => rfl
  | append_singleton log offer ih =>
    rw [firsts_concat, addFirst, List.find?_append, ← ih]
    split
    next h =>
      by_cases hname : offer.name = name
      · obtain ⟨first, hfirst, hsame⟩ := List.mem_map.1 h
        have hsome : ((firsts log).find? fun offer => decide (offer.name = name)).isSome :=
          List.find?_isSome.2 ⟨first, hfirst, decide_eq_true (hsame.trans hname)⟩
        rw [Option.or_of_isSome hsome]
      · simp [hname]
    next => rw [List.find?_append]

theorem find?_eq_some_iff_mem_firsts {log : List Offer} {offer : Offer} :
    log.find? (fun other => decide (other.name = offer.name)) = some offer ↔
      offer ∈ firsts log := by
  rw [← find?_firsts]
  refine ⟨List.mem_of_find?_eq_some, fun h => ?_⟩
  have hsome : ((firsts log).find? fun other => decide (other.name = offer.name)).isSome :=
    List.find?_isSome.2 ⟨offer, h, decide_eq_true rfl⟩
  obtain ⟨first, hfirst⟩ := Option.isSome_iff_exists.1 hsome
  have hname : first.name = offer.name := by simpa using List.find?_some hfirst
  rw [hfirst, eq_of_mem_firsts (List.mem_of_find?_eq_some hfirst) h hname]

end Offer
end BeanDiscovery
