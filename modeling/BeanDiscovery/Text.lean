/-! # Small rules about text

Cutting a text at a separator, cutting it at its last dot, and the blanks that may surround a
value. The main statements say that cutting loses nothing: joining the pieces gives the text back,
and pieces free of the separator are found again. -/
namespace BeanDiscovery.Text

/-- The pieces of a text between the separators, in order; a text without one is one piece. -/
def pieces (sep : Char) : List Char → List (List Char)
  | [] => [[]]
  | c :: cs =>
    if c = sep then [] :: pieces sep cs
    else match pieces sep cs with
      | [] => [[c]]
      | p :: ps => (c :: p) :: ps

/-- Writes the pieces one after the other with the separator between them. -/
def joined (sep : Char) : List (List Char) → List Char
  | [] => []
  | [p] => p
  | p :: ps => p ++ sep :: joined sep ps

theorem pieces_ne_nil (sep : Char) (cs : List Char) : pieces sep cs ≠ [] := by
  induction cs with
  | nil => simp [pieces]
  | cons c cs ih =>
    by_cases h : c = sep
    · simp [pieces, h]
    · cases hp : pieces sep cs <;> simp [pieces, h, hp]

theorem joined_pieces (sep : Char) (cs : List Char) : joined sep (pieces sep cs) = cs := by
  induction cs with
  | nil => rfl
  | cons c cs ih =>
    cases hp : pieces sep cs with
    | nil => exact absurd hp (pieces_ne_nil sep cs)
    | cons p ps =>
      rw [hp] at ih
      by_cases h : c = sep
      · cases ps <;> simp_all [pieces, joined]
      · cases ps <;> simp_all [pieces, joined]

theorem pieces_of_notMem {sep : Char} {cs : List Char} (h : sep ∉ cs) : pieces sep cs = [cs] := by
  induction cs with
  | nil => rfl
  | cons c cs ih =>
    have hc : c ≠ sep := fun e => h (by simp [e])
    have hcs : sep ∉ cs := fun e => h (by simp [e])
    simp [pieces, hc, ih hcs]

/-- The pieces of two texts with a separator between them are those of the first and of the second. -/
theorem pieces_append (sep : Char) (first second : List Char) :
    pieces sep (first ++ sep :: second) = pieces sep first ++ pieces sep second := by
  induction first with
  | nil => simp [pieces]
  | cons c first ih =>
    by_cases hc : c = sep
    · simp [pieces, hc, ih]
    · cases hp : pieces sep first with
      | nil => exact absurd hp (pieces_ne_nil sep first)
      | cons piece rest => simp [pieces, hc, ih, hp]

theorem pieces_append_cons {sep : Char} {p : List Char} (h : sep ∉ p) (cs : List Char) :
    pieces sep (p ++ sep :: cs) = p :: pieces sep cs := by
  rw [pieces_append, pieces_of_notMem h, List.singleton_append]

theorem pieces_joined {sep : Char} {ps : List (List Char)} (hne : ps ≠ [])
    (h : ∀ p ∈ ps, sep ∉ p) : pieces sep (joined sep ps) = ps := by
  induction ps with
  | nil => exact absurd rfl hne
  | cons p ps ih =>
    cases ps with
    | nil => simpa [joined] using pieces_of_notMem (h p (by simp))
    | cons q qs =>
      have hq := ih (by simp) (fun r hr => h r (by simp [hr]))
      simp only [joined] at hq ⊢
      rw [pieces_append_cons (h p (by simp)), hq]

section Pieces
variable {sep : Char}

theorem notMem_of_mem_pieces {cs piece : List Char} (hpiece : piece ∈ pieces sep cs) :
    sep ∉ piece := by
  induction cs generalizing piece with
  | nil => simp_all [pieces]
  | cons first cs ih =>
    by_cases hfirst : first = sep
    · rw [pieces, if_pos hfirst, List.mem_cons] at hpiece
      rcases hpiece with rfl | hpiece
      · exact List.not_mem_nil
      · exact ih hpiece
    · obtain ⟨next, rest, hrest⟩ := List.exists_cons_of_ne_nil (pieces_ne_nil sep cs)
      rw [pieces, if_neg hfirst, hrest, List.mem_cons] at hpiece
      rcases hpiece with rfl | hpiece
      · rw [List.mem_cons, not_or]
        exact ⟨Ne.symm hfirst, ih (hrest ▸ List.mem_cons_self)⟩
      · exact ih (hrest ▸ List.mem_cons_of_mem _ hpiece)

/-- Cutting at another separator that has been put in place of the first one. -/
theorem pieces_map {other : Char} (cs : List Char) (h : other ∉ cs) :
    pieces other (cs.map fun c => if c = sep then other else c) = pieces sep cs := by
  induction cs with
  | nil => rfl
  | cons c cs ih =>
    obtain ⟨hc, hcs⟩ := not_or.1 (mt List.mem_cons.2 h)
    rw [List.map_cons, pieces, pieces, ih hcs]
    by_cases hsep : c = sep
    · rw [if_pos hsep, if_pos rfl, if_pos hsep]
    · rw [if_neg hsep, if_neg (Ne.symm hc), if_neg hsep]

/-- What is written behind a text without a separator belongs to its last piece. -/
theorem exists_pieces_append (cs : List Char) {suffix : List Char} (h : sep ∉ suffix) :
    ∃ front last, pieces sep cs = front ++ [last] ∧
      pieces sep (cs ++ suffix) = front ++ [last ++ suffix] := by
  induction cs with
  | nil => exact ⟨[], [], rfl, by simpa using pieces_of_notMem h⟩
  | cons c cs ih =>
    obtain ⟨front, last, hcs, happend⟩ := ih
    by_cases hc : c = sep
    · exact ⟨[] :: front, last, by simp [pieces, hc, hcs], by simp [pieces, hc, happend]⟩
    · cases front with
      | nil => exact ⟨[], c :: last, by simp [pieces, hc, hcs], by simp [pieces, hc, happend]⟩
      | cons first front =>
        exact ⟨(c :: first) :: front, last, by simp [pieces, hc, hcs], by simp [pieces, hc, happend]⟩

theorem joined_concat_append (sep : Char) (front : List (List Char)) (last suffix : List Char) :
    joined sep (front ++ [last ++ suffix]) = joined sep (front ++ [last]) ++ suffix := by
  induction front with
  | nil => rfl
  | cons first front ih => cases front <;> simp_all [joined]

theorem mem_joined {ps : List (List Char)} {p : List Char} {c : Char} (hp : p ∈ ps) (hc : c ∈ p) :
    c ∈ joined sep ps := by
  induction ps with
  | nil => cases hp
  | cons q qs ih =>
    cases qs with
    | nil => exact List.mem_singleton.1 hp ▸ hc
    | cons r rs =>
      rw [joined, List.mem_append, List.mem_cons]
      · rcases List.mem_cons.1 hp with rfl | hp
        · exact Or.inl hc
        · exact Or.inr (Or.inr (ih hp))
      · simp

theorem exists_mem_of_mem_joined {ps : List (List Char)} {c : Char} (hc : c ∈ joined sep ps)
    (hsep : c ≠ sep) : ∃ p ∈ ps, c ∈ p := by
  induction ps with
  | nil => cases hc
  | cons q qs ih =>
    cases qs with
    | nil => exact ⟨q, List.mem_cons_self, hc⟩
    | cons r rs =>
      rw [joined, List.mem_append, List.mem_cons] at hc
      · rcases hc with hc | hc | hc
        · exact ⟨q, List.mem_cons_self, hc⟩
        · exact absurd hc hsep
        · obtain ⟨p, hp, hmem⟩ := ih hc
          exact ⟨p, List.mem_cons_of_mem q hp, hmem⟩
      · simp

end Pieces

/-- The pieces of a string between the separators. -/
def split (sep : Char) (s : String) : List String :=
  (pieces sep s.toList).map String.ofList

section Split
variable {sep : Char}

theorem split_append (sep : Char) (first second : String) :
    split sep (first ++ String.singleton sep ++ second) = split sep first ++ split sep second := by
  have hchars : (first ++ String.singleton sep ++ second).toList =
      first.toList ++ sep :: second.toList := by
    simp [String.toList_append]
  rw [split, hchars, pieces_append, List.map_append, split, split]

theorem toList_intercalate (sep : Char) (pieces : List String) :
    ((String.singleton sep).intercalate pieces).toList = joined sep (pieces.map (·.toList)) := by
  induction pieces with
  | nil => simp [joined]
  | cons piece pieces ih =>
    cases pieces with
    | nil => simp [joined]
    | cons next pieces =>
      rw [String.intercalate_cons_cons, String.toList_append, String.toList_append, ih]
      simp [joined]

/-- A text is cut into the pieces that it was joined from. -/
theorem split_intercalate {pieces : List String} (hne : pieces ≠ [])
    (h : ∀ piece ∈ pieces, sep ∉ piece.toList) :
    split sep ((String.singleton sep).intercalate pieces) = pieces := by
  have hpieces : ∀ piece ∈ pieces.map (·.toList), sep ∉ piece := List.forall_mem_map.2 h
  rw [split, toList_intercalate, pieces_joined (by simpa using hne) hpieces, List.map_map]
  simp [Function.comp_def]

/-- A text is joined from the pieces that it is cut into. -/
theorem intercalate_split (sep : Char) (text : String) :
    (String.singleton sep).intercalate (split sep text) = text := by
  rw [← String.toList_inj, toList_intercalate, split, List.map_map]
  simp [Function.comp_def, joined_pieces]

theorem intercalate_concat {front : List String} (hne : front ≠ []) (sep last : String) :
    sep.intercalate (front ++ [last]) = sep.intercalate front ++ sep ++ last := by
  induction front with
  | nil => exact absurd rfl hne
  | cons first front ih =>
    cases front with
    | nil =>
      rw [List.singleton_append, String.intercalate_cons_cons, String.intercalate_singleton,
        String.intercalate_singleton]
    | cons second front =>
      rw [List.cons_append, List.cons_append, String.intercalate_cons_cons, ← List.cons_append,
        ih (by simp), String.intercalate_cons_cons]
      simp only [String.append_assoc]

theorem mem_of_mem_split {text name : String} {c : Char} (hname : name ∈ split sep text)
    (hc : c ∈ name.toList) : c ∈ text.toList := by
  obtain ⟨piece, hpiece, rfl⟩ := List.mem_map.1 hname
  rw [String.toList_ofList] at hc
  exact joined_pieces sep text.toList ▸ mem_joined hpiece hc

theorem exists_mem_split {text : String} {c : Char} (hc : c ∈ text.toList) (hsep : c ≠ sep) :
    ∃ name ∈ split sep text, c ∈ name.toList := by
  rw [← joined_pieces sep text.toList] at hc
  obtain ⟨piece, hpiece, hmem⟩ := exists_mem_of_mem_joined hc hsep
  exact ⟨_, List.mem_map_of_mem hpiece, by rwa [String.toList_ofList]⟩

theorem notMem_of_mem_split {text name : String} (h : name ∈ split sep text) : sep ∉ name.toList := by
  obtain ⟨piece, hpiece, rfl⟩ := List.mem_map.1 h
  rw [String.toList_ofList]
  exact notMem_of_mem_pieces hpiece

end Split

/-- Cuts a text at its last dot, if it has one. -/
def cutAtLastDot : List Char → Option (List Char × List Char)
  | [] => none
  | c :: cs =>
    match cutAtLastDot cs with
    | some (before, after) => some (c :: before, after)
    | none => if c = '.' then some ([], cs) else none

theorem cutAtLastDot_of_notMem {cs : List Char} (h : '.' ∉ cs) : cutAtLastDot cs = none := by
  induction cs with
  | nil => rfl
  | cons c cs ih =>
    have hc : c ≠ '.' := fun e => h (by simp [e])
    have hcs : '.' ∉ cs := fun e => h (by simp [e])
    simp [cutAtLastDot, ih hcs, hc]

theorem cutAtLastDot_append {after : List Char} (before : List Char) (h : '.' ∉ after) :
    cutAtLastDot (before ++ '.' :: after) = some (before, after) := by
  induction before with
  | nil => simp [cutAtLastDot, cutAtLastDot_of_notMem h]
  | cons c before ih => simp [cutAtLastDot, ih]

/-- Cuts a text before the first character with a property. -/
def cutBefore (p : Char → Bool) (cs : List Char) : List Char × List Char :=
  (cs.takeWhile fun c => !p c, cs.dropWhile fun c => !p c)

/-- Blank characters: those with the property White_Space. -/
def isBlank (c : Char) : Bool :=
  let n := c.toNat
  (9 ≤ n && n ≤ 13) || n = 0x20 || n = 0x85 || n = 0xA0 || n = 0x1680 ||
  (0x2000 ≤ n && n ≤ 0x200A) || n = 0x2028 || n = 0x2029 || n = 0x202F || n = 0x205F || n = 0x3000

/-- A text without the blanks at its two ends. -/
def trimmed (cs : List Char) : List Char :=
  ((cs.dropWhile isBlank).reverse.dropWhile isBlank).reverse

/-- Trimming takes away blanks only. -/
theorem exists_trimmed (cs : List Char) :
    ∃ before after, before ++ trimmed cs ++ after = cs ∧
      (∀ c ∈ before, isBlank c = true) ∧ ∀ c ∈ after, isBlank c = true := by
  refine ⟨cs.takeWhile isBlank, ((cs.dropWhile isBlank).reverse.takeWhile isBlank).reverse, ?_,
    List.all_eq_true.1 List.all_takeWhile, fun c hc => ?_⟩
  · rw [List.append_assoc, trimmed, ← List.reverse_append, List.takeWhile_append_dropWhile,
      List.reverse_reverse, List.takeWhile_append_dropWhile]
  · exact List.all_eq_true.1 List.all_takeWhile c (List.mem_reverse.1 hc)

theorem dropWhile_blanks {blanks cs : List Char} (hblanks : ∀ c ∈ blanks, isBlank c = true)
    (hcs : ∀ c ∈ cs.head?, isBlank c = false) : (blanks ++ cs).dropWhile isBlank = cs := by
  rw [List.dropWhile_append_of_pos hblanks]
  cases cs with
  | nil => rfl
  | cons c cs => exact List.dropWhile_cons_of_neg (by simp [hcs c rfl])

/-- Blanks around a text that neither begins nor ends with one are taken away. -/
theorem trimmed_between {before cs after : List Char} (hne : cs ≠ [])
    (hbefore : ∀ c ∈ before, isBlank c = true) (hafter : ∀ c ∈ after, isBlank c = true)
    (hfirst : ∀ c ∈ cs.head?, isBlank c = false) (hlast : ∀ c ∈ cs.getLast?, isBlank c = false) :
    trimmed (before ++ cs ++ after) = cs := by
  have hfront : ∀ c ∈ (cs ++ after).head?, isBlank c = false := by
    obtain ⟨first, rest, rfl⟩ := List.exists_cons_of_ne_nil hne
    exact hfirst
  have hback : ∀ c ∈ cs.reverse.head?, isBlank c = false := by
    rwa [List.head?_reverse]
  have hreverse : ∀ c ∈ after.reverse, isBlank c = true := fun c hc =>
    hafter c (List.mem_reverse.1 hc)
  rw [trimmed, List.append_assoc, dropWhile_blanks hbefore hfront, List.reverse_append,
    dropWhile_blanks hreverse hback, List.reverse_reverse]

theorem isBlank_of_isDigit {c : Char} (h : c.isDigit = true) : isBlank c = false := by
  simp only [Char.isDigit, Bool.and_eq_true, decide_eq_true_eq, ge_iff_le, UInt32.le_iff_toNat_le] at h
  have h1 : 48 ≤ c.toNat := h.1
  have h2 : c.toNat ≤ 57 := h.2
  simp only [isBlank, Bool.or_eq_false_iff, Bool.and_eq_false_iff, decide_eq_false_iff_not]
  omega

/-- The value of a hexadecimal digit. -/
def hexValue? (c : Char) : Option Nat :=
  if '0' ≤ c ∧ c ≤ '9' then some (c.toNat - '0'.toNat)
  else if 'a' ≤ c ∧ c ≤ 'f' then some (c.toNat - 'a'.toNat + 10)
  else if 'A' ≤ c ∧ c ≤ 'F' then some (c.toNat - 'A'.toNat + 10)
  else none

end BeanDiscovery.Text
