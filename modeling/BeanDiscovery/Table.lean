/-! # Tables in order of first insertion

A finite map that remembers the order in which its keys came. Writing to a known key replaces the
value in place; writing to a new one appends it. The main statements say what each write does to the
keys and to the value found under a key. -/
namespace BeanDiscovery

/-- The value of the first entry for a key. -/
def lookupEntry {κ α : Type} [DecidableEq κ] (key : κ) : List (κ × α) → Option α
  | [] => none
  | entry :: entries => if entry.1 = key then some entry.2 else lookupEntry key entries

/-- Replaces the first entry for a key, or appends one. -/
def writeEntry {κ α : Type} [DecidableEq κ] (key : κ) (value : α) : List (κ × α) → List (κ × α)
  | [] => [(key, value)]
  | entry :: entries =>
    if entry.1 = key then (key, value) :: entries else entry :: writeEntry key value entries

theorem map_fst_writeEntry {κ α : Type} [DecidableEq κ] (key : κ) (value : α)
    (entries : List (κ × α)) :
    (writeEntry key value entries).map Prod.fst =
      if key ∈ entries.map Prod.fst then entries.map Prod.fst
      else entries.map Prod.fst ++ [key] := by
  induction entries with
  | nil => simp [writeEntry]
  | cons entry entries ih =>
    by_cases h : entry.1 = key
    · simp [writeEntry, h]
    · have h' : key ≠ entry.1 := fun e => h e.symm
      simp only [writeEntry, h, if_false, List.map_cons, ih, List.mem_cons, h', false_or]
      split <;> simp

theorem lookupEntry_writeEntry {κ α : Type} [DecidableEq κ] (key key' : κ) (value : α)
    (entries : List (κ × α)) :
    lookupEntry key' (writeEntry key value entries) =
      if key = key' then some value else lookupEntry key' entries := by
  induction entries with
  | nil => simp [writeEntry, lookupEntry]
  | cons entry entries ih =>
    by_cases h : entry.1 = key
    · by_cases h' : key = key' <;> simp [writeEntry, lookupEntry, h, h']
    · by_cases h' : entry.1 = key'
      · subst h'
        simp [writeEntry, lookupEntry, h, Ne.symm h]
      · simp [writeEntry, lookupEntry, h, h', ih]

theorem lookupEntry_isSome {κ α : Type} [DecidableEq κ] {key : κ} {entries : List (κ × α)} :
    (lookupEntry key entries).isSome = true ↔ key ∈ entries.map Prod.fst := by
  induction entries with
  | nil => simp [lookupEntry]
  | cons entry entries ih =>
    by_cases h : entry.1 = key
    · simp [lookupEntry, h]
    · have h' : key ≠ entry.1 := fun e => h e.symm
      simp only [lookupEntry, h, if_false, ih, List.map_cons, List.mem_cons, h', false_or]

theorem lookupEntry_eq_some {κ α : Type} [DecidableEq κ] {key : κ} {value : α}
    {entries : List (κ × α)} (h : (entries.map Prod.fst).Nodup) :
    lookupEntry key entries = some value ↔ (key, value) ∈ entries := by
  induction entries with
  | nil => simp [lookupEntry]
  | cons entry entries ih =>
    obtain ⟨hnew, hrest⟩ := List.nodup_cons.1 h
    by_cases hkey : entry.1 = key
    · subst hkey
      have hother : (entry.1, value) ∉ entries := fun hm => hnew (List.mem_map.2 ⟨_, hm, rfl⟩)
      simp [lookupEntry, hother, Prod.ext_iff, eq_comm]
    · simp [lookupEntry, hkey, Ne.symm hkey, ih hrest, Prod.ext_iff]

/-- A list of entries without two for one key. -/
structure Table (κ α : Type) where
  entries : List (κ × α)
  nodup : (entries.map Prod.fst).Nodup

namespace Table
variable {κ α : Type}

def empty : Table κ α := ⟨[], List.nodup_nil⟩

instance : Inhabited (Table κ α) := ⟨empty⟩

/-- The keys in the order of their first insertion. -/
def keys (t : Table κ α) : List κ := t.entries.map Prod.fst

def size (t : Table κ α) : Nat := t.entries.length

@[simp] theorem keys_empty : (empty : Table κ α).keys = [] := rfl

theorem length_keys (t : Table κ α) : t.keys.length = t.size := by
  simp [size, keys]

/-- The entries whose keys have a property. -/
def restrict (t : Table κ α) (p : κ → Bool) : Table κ α :=
  ⟨t.entries.filter fun entry => p entry.1,
    t.nodup.sublist (List.filter_sublist.map Prod.fst)⟩

variable [DecidableEq κ]

def get? (t : Table κ α) (key : κ) : Option α := lookupEntry key t.entries

/-- Writes a value to a key. -/
def insert (t : Table κ α) (key : κ) (value : α) : Table κ α :=
  ⟨writeEntry key value t.entries, by
    rw [map_fst_writeEntry]
    split
    · exact t.nodup
    next h =>
      refine List.nodup_append.2 ⟨t.nodup, by simp, fun a ha b hb => ?_⟩
      rw [List.mem_singleton.1 hb]
      rintro rfl
      exact h ha⟩

/-- Writes a value to a key that has none yet. -/
def insertNew (t : Table κ α) (key : κ) (value : α) : Table κ α :=
  if key ∈ t.keys then t else t.insert key value

@[simp] theorem get?_empty (key : κ) : (empty : Table κ α).get? key = none := rfl

theorem keys_insert (t : Table κ α) (key : κ) (value : α) :
    (t.insert key value).keys = if key ∈ t.keys then t.keys else t.keys ++ [key] :=
  map_fst_writeEntry key value t.entries

theorem get?_insert (t : Table κ α) (key key' : κ) (value : α) :
    (t.insert key value).get? key' = if key = key' then some value else t.get? key' :=
  lookupEntry_writeEntry key key' value t.entries

theorem get?_isSome {t : Table κ α} {key : κ} : (t.get? key).isSome = true ↔ key ∈ t.keys :=
  lookupEntry_isSome

theorem get?_eq_some {t : Table κ α} {key : κ} {value : α} :
    t.get? key = some value ↔ (key, value) ∈ t.entries :=
  lookupEntry_eq_some t.nodup

theorem get?_eq_none {t : Table κ α} {key : κ} : t.get? key = none ↔ key ∉ t.keys := by
  rw [← get?_isSome]
  cases t.get? key <;> simp

theorem size_insert_of_new {t : Table κ α} {key : κ} (h : t.get? key = none) (value : α) :
    (t.insert key value).size = t.size + 1 := by
  rw [← length_keys, keys_insert, if_neg (get?_eq_none.1 h), List.length_append, length_keys]
  rfl

theorem keys_insertNew (t : Table κ α) (key : κ) (value : α) :
    (t.insertNew key value).keys = if key ∈ t.keys then t.keys else t.keys ++ [key] := by
  by_cases h : key ∈ t.keys <;> simp [insertNew, keys_insert, h]

theorem get?_insertNew (t : Table κ α) (key key' : κ) (value : α) :
    (t.insertNew key value).get? key' =
      if key = key' ∧ key ∉ t.keys then some value else t.get? key' := by
  by_cases h : key ∈ t.keys <;> simp [insertNew, get?_insert, h]

end Table
end BeanDiscovery
