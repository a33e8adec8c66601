/-! # Sets in order of first insertion

A finite set that remembers the order in which its elements came. The main statements give the list
of elements after each operation; the list never repeats an element. -/
namespace BeanDiscovery

/-- A list without repetition, grown at its end. -/
structure OrderedSet (α : Type) where
  toList : List α
  nodup : toList.Nodup

namespace OrderedSet
variable {α : Type}

@[ext] theorem ext {s t : OrderedSet α} (h : s.toList = t.toList) : s = t := by
  cases s; cases t
  simp only at h
  subst h
  rfl

def empty : OrderedSet α := ⟨[], List.nodup_nil⟩

instance : Inhabited (OrderedSet α) := ⟨empty⟩

instance : Membership α (OrderedSet α) := ⟨fun s a => a ∈ s.toList⟩

theorem mem_def {s : OrderedSet α} {a : α} : a ∈ s ↔ a ∈ s.toList := Iff.rfl

def size (s : OrderedSet α) : Nat := s.toList.length

/-- The elements with a property, in the same order. -/
def filter (s : OrderedSet α) (p : α → Bool) : OrderedSet α :=
  ⟨s.toList.filter p, s.nodup.filter p⟩

@[simp] theorem toList_empty : (empty : OrderedSet α).toList = [] := rfl

@[simp] theorem toList_filter (s : OrderedSet α) (p : α → Bool) :
    (s.filter p).toList = s.toList.filter p := rfl

@[simp] theorem mem_filter {s : OrderedSet α} {p : α → Bool} {a : α} :
    a ∈ s.filter p ↔ a ∈ s ∧ p a = true := List.mem_filter

variable [DecidableEq α]

instance (a : α) (s : OrderedSet α) : Decidable (a ∈ s) :=
  inferInstanceAs (Decidable (a ∈ s.toList))

instance : DecidableEq (OrderedSet α) := fun s t =>
  decidable_of_iff (s.toList = t.toList) ⟨ext, fun h => h ▸ rfl⟩

/-- Adds an element at the end unless it is already there. -/
def insert (s : OrderedSet α) (a : α) : OrderedSet α :=
  if h : a ∈ s.toList then s
  else ⟨s.toList ++ [a], by
    refine List.nodup_append.2 ⟨s.nodup, by simp, fun b hb c hc => ?_⟩
    rintro rfl
    exact h (List.mem_singleton.1 hc ▸ hb)⟩

/-- Adds elements one after the other. -/
def insertAll (s : OrderedSet α) (as : List α) : OrderedSet α := as.foldl insert s

/-- The elements of a list, each at its first place. -/
def ofList (as : List α) : OrderedSet α := empty.insertAll as

theorem insert_of_mem {s : OrderedSet α} {a : α} (h : a ∈ s) : s.insert a = s := by
  simp [insert, mem_def.1 h]

theorem toList_insert_of_notMem {s : OrderedSet α} {a : α} (h : a ∉ s) :
    (s.insert a).toList = s.toList ++ [a] := by
  have h' : a ∉ s.toList := h
  simp [insert, h']

theorem toList_insert (s : OrderedSet α) (a : α) :
    (s.insert a).toList = if a ∈ s then s.toList else s.toList ++ [a] := by
  by_cases h : a ∈ s
  · simp [insert_of_mem h, h]
  · simp [toList_insert_of_notMem h, h]

@[simp] theorem mem_insert {s : OrderedSet α} {a b : α} : b ∈ s.insert a ↔ b ∈ s ∨ b = a := by
  by_cases h : a ∈ s
  · rw [insert_of_mem h]
    exact ⟨Or.inl, fun hb => hb.elim id (fun e => e ▸ h)⟩
  · simp [mem_def, toList_insert_of_notMem h]

@[simp] theorem insertAll_nil (s : OrderedSet α) : s.insertAll [] = s := rfl

@[simp] theorem insertAll_cons (s : OrderedSet α) (a : α) (as : List α) :
    s.insertAll (a :: as) = (s.insert a).insertAll as := rfl

theorem insertAll_append (s : OrderedSet α) (as bs : List α) :
    s.insertAll (as ++ bs) = (s.insertAll as).insertAll bs := List.foldl_append

theorem ofList_append (as bs : List α) : ofList (as ++ bs) = (ofList as).insertAll bs :=
  insertAll_append empty as bs

@[simp] theorem mem_insertAll {s : OrderedSet α} {as : List α} {b : α} :
    b ∈ s.insertAll as ↔ b ∈ s ∨ b ∈ as := by
  induction as generalizing s with
  | nil => simp
  | cons a as ih => simp [ih, or_assoc]

@[simp] theorem mem_ofList {as : List α} {b : α} : b ∈ ofList as ↔ b ∈ as := by
  rw [ofList, mem_insertAll]
  simp [mem_def]

/-- Adding different elements appends those that are not there yet. -/
theorem toList_insertAll_of_nodup {as : List α} (h : as.Nodup) (s : OrderedSet α) :
    (s.insertAll as).toList = s.toList ++ as.filter fun a => decide (a ∉ s) := by
  induction as generalizing s with
  | nil => simp
  | cons a as ih =>
    obtain ⟨ha, has⟩ := List.nodup_cons.1 h
    have hfilter : as.filter (fun b => decide (b ∉ s.insert a)) =
        as.filter fun b => decide (b ∉ s) := by
      refine List.filter_congr fun b hb => ?_
      have hne : b ≠ a := fun e => ha (e ▸ hb)
      simp [hne]
    rw [insertAll_cons, ih has, hfilter, toList_insert]
    by_cases hs : a ∈ s <;> simp [hs]

/-- Adding elements appends those that are not there yet, each at its first place. -/
theorem toList_insertAll [BEq α] [LawfulBEq α] (s : OrderedSet α) (as : List α) :
    (s.insertAll as).toList = s.toList ++ (as.filter fun a => decide (a ∉ s)).eraseDups := by
  induction as generalizing s with
  | nil => exact (List.append_nil _).symm
  | cons a as ih =>
    rw [insertAll_cons, ih, toList_insert]
    by_cases ha : a ∈ s
    · simp [ha, insert_of_mem]
    · have hrest : (as.filter fun b => decide (b ∉ s.insert a)) =
          (as.filter fun b => decide (b ∉ s)).filter fun b => !b == a := by
        rw [List.filter_filter]
        exact List.filter_congr fun b _ => by by_cases hb : b = a <;> simp [hb]
      rw [if_neg ha, List.filter_cons_of_pos (by simpa using ha), List.eraseDups_cons, hrest,
        List.append_assoc, List.singleton_append]

theorem toList_ofList [BEq α] [LawfulBEq α] (as : List α) :
    (ofList as).toList = as.eraseDups := by
  rw [ofList, toList_insertAll, List.filter_eq_self.2 (by simp [mem_def])]
  rfl

/-- Takes an element out; the others keep their order. -/
def erase (s : OrderedSet α) (a : α) : OrderedSet α := ⟨s.toList.erase a, s.nodup.erase a⟩

@[simp] theorem toList_erase (s : OrderedSet α) (a : α) :
    (s.erase a).toList = s.toList.erase a := rfl

@[simp] theorem mem_erase {s : OrderedSet α} {a b : α} : b ∈ s.erase a ↔ b ≠ a ∧ b ∈ s :=
  s.nodup.mem_erase_iff

theorem erase_insert_self (s : OrderedSet α) (a : α) : (s.insert a).erase a = s.erase a := by
  apply ext
  rw [toList_erase, toList_erase, toList_insert]
  split
  · rfl
  next h =>
    have hlist : a ∉ s.toList := h
    rw [List.erase_append_right _ hlist, List.erase_cons_head, List.append_nil,
      List.erase_of_not_mem hlist]

theorem erase_insert_of_ne (s : OrderedSet α) {a b : α} (h : a ≠ b) :
    (s.insert a).erase b = (s.erase b).insert a := by
  have hmem : a ∈ s.erase b ↔ a ∈ s := by simp [h]
  apply ext
  rw [toList_erase, toList_insert, toList_insert]
  by_cases ha : a ∈ s
  · rw [if_pos ha, if_pos (hmem.2 ha), toList_erase]
  · rw [if_neg ha, if_neg (fun he => ha (hmem.1 he)), toList_erase]
    by_cases hb : b ∈ s.toList
    · rw [List.erase_append_left _ hb]
    · rw [List.erase_append_right _ hb, List.erase_of_not_mem hb,
        List.erase_of_not_mem (by simp [Ne.symm h])]

/-- An element that is taken out at the end need not be added. -/
theorem erase_insertAll (s : OrderedSet α) (as : List α) (a : α) :
    (s.insertAll as).erase a = (s.erase a).insertAll (as.filter fun b => decide (b ≠ a)) := by
  induction as generalizing s with
  | nil => rfl
  | cons b as ih =>
    rw [insertAll_cons, ih]
    by_cases h : b = a
    · rw [h, erase_insert_self, List.filter_cons_of_neg (by simp)]
    · rw [erase_insert_of_ne s h, List.filter_cons_of_pos (by simp [h]), insertAll_cons]

/-- How many elements of a list are not in the set. -/
def missing (s : OrderedSet α) (as : List α) : Nat := as.countP fun a => decide (a ∉ s)

@[simp] theorem missing_cons (s : OrderedSet α) (a : α) (as : List α) :
    s.missing (a :: as) = s.missing as + if a ∈ s then 0 else 1 := by
  by_cases h : a ∈ s <;> simp [missing, h]

theorem missing_insert_le (s : OrderedSet α) (a : α) (as : List α) :
    (s.insert a).missing as ≤ s.missing as := by
  induction as with
  | nil => exact Nat.le_refl _
  | cons b as ih =>
    by_cases h : b ∈ s
    · simpa [h] using ih
    · simp only [missing_cons, h, if_false]
      split <;> omega

theorem missing_insert_lt {s : OrderedSet α} {a : α} {as : List α} (hm : a ∈ as) (hn : a ∉ s) :
    (s.insert a).missing as < s.missing as := by
  induction as with
  | nil => cases hm
  | cons b as ih =>
    have hle := missing_insert_le s a as
    simp only [missing_cons]
    rcases List.mem_cons.1 hm with rfl | hm
    · simp only [mem_insert, or_true, hn, if_true, if_false]
      omega
    · have hlt := ih hm
      by_cases h : b ∈ s
      · simpa [h] using hlt
      · simp only [h, if_false]
        split <;> omega

end OrderedSet
end BeanDiscovery
