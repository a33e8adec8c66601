import BeanDiscovery.FileClasspath
import BeanDiscovery.Proofs.FilePaths
import Mathlib.Data.List.DropRight

/-!
# Files of classes

A file is known by the names that lead to it. These tell whether it is the file of a class and what the class
is called. The main statements say that a path is read in this way, and that an archive lists the classes of
its files whatever else is written down in it.
-/
namespace BeanDiscovery

namespace FileClasspath

/-! ## Names of class files -/

/-- The names lead to the file of a class: it stands outside the directory for descriptors, ends in the
suffix, and describes neither a module nor a package. -/
structure IsClassFile (names : List String) : Prop where
  outside : names.head? ≠ some "META-INF"
  suffix : ∃ stem, names.getLast? = some (stem ++ ".class")
  notModule : names.getLast? ≠ some "module-info.class"
  notPackage : names.getLast? ≠ some "package-info.class"

/-- The class of a file: its names joined by dots, without the suffix. -/
def className (names : List String) : ClassName :=
  ⟨String.ofList ((".".intercalate names).toList.rdrop ".class".toList.length)⟩

theorem className_concat (front : List String) (stem : String) :
    className (front ++ [stem ++ ".class"]) = ⟨".".intercalate (front ++ [stem])⟩ := by
  have htext : (".".intercalate (front ++ [stem ++ ".class"])).toList =
      (".".intercalate (front ++ [stem])).toList ++ ".class".toList := by
    have hjoined := Text.joined_concat_append '.' (front.map (·.toList)) stem.toList ".class".toList
    rw [← String.toList_append] at hjoined
    refine (Text.toList_intercalate '.' _).trans ?_
    refine Eq.trans ?_ (congrArg (· ++ ".class".toList) (Text.toList_intercalate '.' _).symm)
    simpa using hjoined
  rw [className, htext, List.rdrop, List.length_append, Nat.add_sub_cancel, List.take_left,
    String.ofList_toList]

/-- A path that ends in the suffix has a last name that does. -/
theorem exists_stem {path : String} {stem : List Char}
    (h : List.isSuffixOf? ".class".toList path.toList = some stem) :
    ∃ front last, Text.pieces '/' stem = front.map String.toList ++ [last.toList] ∧
      FileTree.steps path = front ++ [last ++ ".class"] := by
  have hpath := List.append_eq_of_isSuffixOf?_eq_some h
  have hsuffix : '/' ∉ ".class".toList := by decide
  obtain ⟨front, last, hstem, happend⟩ := Text.exists_pieces_append stem hsuffix
  refine ⟨front.map String.ofList, String.ofList last, ?_, ?_⟩
  · rw [hstem]
    simp
  · rw [FileTree.steps, Text.split, ← hpath, happend]
    simp [String.ofList_append]

/-- A text that starts with a name and a separator has this name as its first piece, and more of them. -/
theorem isPrefixOf_iff_pieces {first : List Char} (hfirst : '/' ∉ first) (cs : List Char) :
    List.isPrefixOf (first ++ ['/']) cs = true ↔
      ∃ second rest, Text.pieces '/' cs = first :: second :: rest := by
  rw [List.isPrefixOf_iff_prefix]
  constructor
  · rintro ⟨cs, rfl⟩
    rw [List.append_assoc, List.singleton_append, Text.pieces_append_cons hfirst]
    obtain ⟨second, rest, hpieces⟩ := List.exists_cons_of_ne_nil (Text.pieces_ne_nil '/' cs)
    exact ⟨second, rest, by rw [hpieces]⟩
  · rintro ⟨second, rest, hpieces⟩
    refine ⟨Text.joined '/' (second :: rest), ?_⟩
    rw [← Text.joined_pieces '/' cs, hpieces]
    simp [Text.joined]

theorem append_suffix_inj {stem other : String} :
    stem ++ ".class" = other ++ ".class" ↔ stem = other := by
  rw [← String.toList_inj, String.toList_append, String.toList_append, List.append_left_inj,
    String.toList_inj]

/-- What a file is told by, when the suffix has been taken from its last name. -/
theorem isClassFile_concat {front : List String} {last : String} :
    IsClassFile (front ++ [last ++ ".class"]) ↔
      front.head? ≠ some "META-INF" ∧ last ≠ "module-info" ∧ last ≠ "package-info" := by
  have hend : (front ++ [last ++ ".class"]).getLast? = some (last ++ ".class") :=
    List.getLast?_concat
  have hmodule : "module-info.class" = "module-info" ++ ".class" := by decide
  have hpackage : "package-info.class" = "package-info" ++ ".class" := by decide
  constructor
  · rintro ⟨houtside, -, hnotModule, hnotPackage⟩
    refine ⟨fun hhead => houtside ?_, ?_, ?_⟩
    · rw [List.head?_append, hhead, Option.some_or]
    · rintro rfl
      exact hnotModule (hend.trans (congrArg some hmodule.symm))
    · rintro rfl
      exact hnotPackage (hend.trans (congrArg some hpackage.symm))
  · rintro ⟨houtside, hnotModule, hnotPackage⟩
    refine ⟨fun hhead => ?_, ⟨last, hend⟩, fun hlast => hnotModule ?_, fun hlast => hnotPackage ?_⟩
    · cases front with
      | nil =>
        have hletter := congrArg (fun name => name.toList.getLast?) (Option.some.inj hhead)
        rw [String.toList_append] at hletter
        simp at hletter
      | cons first front => exact houtside hhead
    · exact append_suffix_inj.1 (Option.some.inj ((hend.symm.trans hlast).trans (congrArg some hmodule)))
    · exact append_suffix_inj.1 (Option.some.inj ((hend.symm.trans hlast).trans (congrArg some hpackage)))

/-- A text with the suffix is taken apart. -/
theorem exists_isSuffixOf {path : String} {front : List String} {last : String}
    (h : FileTree.steps path = front ++ [last ++ ".class"]) :
    ∃ stem, List.isSuffixOf? ".class".toList path.toList = some stem := by
  have hpath : path.toList = Text.joined '/' ((front ++ [last ++ ".class"]).map (·.toList)) := by
    rw [← h, FileTree.steps, Text.split, List.map_map]
    simp [Function.comp_def, Text.joined_pieces]
  refine ⟨Text.joined '/' (front.map (·.toList) ++ [last.toList]),
    List.isSuffixOf?_eq_some_iff_append_eq.2 ?_⟩
  rw [hpath, ← Text.joined_concat_append]
  simp

/-- A path stands for a class when the names along it lead to the file of a class. -/
theorem className?_eq_some {path : String} {name : ClassName} :
    className? path = some name ↔
      IsClassFile (FileTree.steps path) ∧ className (FileTree.steps path) = name := by
  cases hsuffix : List.isSuffixOf? ".class".toList path.toList with
  | none =>
    rw [className?, hsuffix]
    refine ⟨nofun, fun h => ?_⟩
    obtain ⟨last, hlast⟩ := h.1.suffix
    obtain ⟨front, hsteps⟩ := List.getLast?_eq_some_iff.1 hlast
    obtain ⟨stem, hstem⟩ := exists_isSuffixOf hsteps
    rw [hsuffix] at hstem
    cases hstem
  | some stem =>
    obtain ⟨front, last, hstem, hsteps⟩ := exists_stem hsuffix
    have hmeta : List.isPrefixOf "META-INF/".toList stem = true ↔ front.head? = some "META-INF" := by
      rw [show "META-INF/".toList = "META-INF".toList ++ ['/'] by decide,
        isPrefixOf_iff_pieces (show '/' ∉ "META-INF".toList by decide), hstem]
      cases front with
      | nil => simp
      | cons first front =>
        obtain ⟨second, rest, hrest⟩ := List.exists_cons_of_ne_nil
          (show front.map String.toList ++ [last.toList] ≠ [] by simp)
        rw [List.map_cons, List.cons_append, hrest, List.head?_cons, Option.some_inj]
        constructor
        · rintro ⟨_, _, heq⟩
          exact String.toList_inj.1 (List.cons.inj heq).1
        · rintro rfl
          exact ⟨second, rest, rfl⟩
    have hname : String.ofList (Text.joined '.' (front.map String.toList ++ [last.toList])) =
        ".".intercalate (front ++ [last]) := by
      rw [← String.toList_inj, String.toList_ofList]
      refine Eq.trans ?_ (Text.toList_intercalate '.' (front ++ [last])).symm
      rw [List.map_append, List.map_singleton]
    have hlast : ∀ text : String,
        (front.map String.toList ++ [last.toList]).getLast? = some text.toList ↔ last = text := by
      simp [String.toList_inj]
    rw [className?, hsuffix, hsteps, className_concat, isClassFile_concat, Option.bind_some]
    simp only [hstem, hmeta, hname, Bool.or_eq_true, decide_eq_true_eq, hlast]
    split
    next houtside => simp [houtside]
    next houtside =>
      split
      next hdescribes => simp [hdescribes, ← not_or]
      next hdescribes => simp [houtside, not_or.1 hdescribes]

theorem exists_suffix_iff {names : List String} :
    (∃ last ∈ names.getLast?, ".class".toList <:+ last.toList) ↔
      ∃ stem, names.getLast? = some (stem ++ ".class") := by
  constructor
  · rintro ⟨last, hlast, stem, hstem⟩
    have hname : last = String.ofList stem ++ ".class" := by
      rw [← String.toList_inj, String.toList_append, String.toList_ofList, hstem]
    exact ⟨String.ofList stem, hname ▸ hlast⟩
  · rintro ⟨stem, hlast⟩
    exact ⟨_, hlast, stem.toList, String.toList_append.symm⟩

instance (names : List String) : Decidable (IsClassFile names) :=
  decidable_of_iff (names.head? ≠ some "META-INF" ∧
      (∃ last ∈ names.getLast?, ".class".toList <:+ last.toList) ∧
      names.getLast? ≠ some "module-info.class" ∧ names.getLast? ≠ some "package-info.class")
    ⟨fun h => ⟨h.1, exists_suffix_iff.1 h.2.1, h.2.2.1, h.2.2.2⟩,
      fun h => ⟨h.1, exists_suffix_iff.2 h.2, h.3, h.4⟩⟩

theorem className?_eq (path : String) :
    className? path =
      if IsClassFile (FileTree.steps path) then some (className (FileTree.steps path)) else none := by
  refine Option.ext fun name => ?_
  rw [className?_eq_some]
  split
  next h => simp [h]
  next h => simp [h]

/-! ## Lists of files -/

/-- The path of a file below a root. -/
def pathOf (names : List String) : String := "/".intercalate names

/-- The names that lead to a file: there is one, and all of them are plain. -/
structure IsFileName (names : List String) : Prop where
  ne_nil : names ≠ []
  plain : ∀ name ∈ names, FileTree.IsPlain name

instance (names : List String) : Decidable (IsFileName names) :=
  decidable_of_iff (names ≠ [] ∧ ∀ name ∈ names, FileTree.IsPlain name)
    ⟨fun h => ⟨h.1, h.2⟩, fun h => ⟨h.1, h.2⟩⟩

theorem IsFileName.steps_pathOf {names : List String} (h : IsFileName names) :
    FileTree.steps (pathOf names) = names :=
  Text.split_intercalate h.ne_nil fun name hname => (h.plain name hname).noSlash

theorem pathOf_steps (path : String) : pathOf (FileTree.steps path) = path :=
  Text.intercalate_split '/' path

/-- The classes of some files in ascending order, one for each file of a class. -/
def listing (files : List (List String)) : List ClassName :=
  ClassName.sorted ((files.filter fun names => IsClassFile names).map className)

theorem filterMap_className? {files : List (List String)} (h : ∀ names ∈ files, IsFileName names) :
    (files.map pathOf).filterMap className? =
      (files.filter fun names => IsClassFile names).map className := by
  rw [List.filterMap_map, ← List.filterMap_eq_map, List.filterMap_filter]
  refine List.filterMap_congr fun names hnames => ?_
  rw [Function.comp_apply, className?_eq, (h names hnames).steps_pathOf]
  simp

/-! ## Archives -/

theorem mem_keys_foldl_insert {name : String} (entries : List ArchiveEntry)
    (table : Table String Bool) :
    name ∈ (entries.foldl (fun table entry => table.insert entry.name entry.encrypted) table).keys ↔
      name ∈ table.keys ∨ name ∈ entries.map (·.name) := by
  induction entries generalizing table with
  | nil => simp
  | cons entry entries ih =>
    rw [List.foldl_cons, ih, Table.keys_insert, List.map_cons, List.mem_cons]
    split
    next h => grind
    next h => simp [or_assoc]

theorem get?_foldl_insert {name : String} {encrypted : Bool} (entries : List ArchiveEntry)
    (table : Table String Bool)
    (h : (entries.foldl (fun table entry => table.insert entry.name entry.encrypted) table).get?
      name = some encrypted) :
    table.get? name = some encrypted ∨ ⟨name, encrypted⟩ ∈ entries := by
  induction entries generalizing table with
  | nil => exact Or.inl h
  | cons entry entries ih =>
    rcases ih (table.insert entry.name entry.encrypted) h with hwritten | hlater
    · rw [Table.get?_insert] at hwritten
      split at hwritten
      next hname =>
        obtain rfl := hname
        obtain rfl := Option.some.inj hwritten
        exact Or.inr List.mem_cons_self
      next => exact Or.inl hwritten
    · exact Or.inr (List.mem_cons_of_mem _ hlater)

theorem mem_of_mem_distinctEntries {entries : List ArchiveEntry} {entry : ArchiveEntry}
    (h : entry ∈ distinctEntries entries) : entry ∈ entries := by
  obtain ⟨⟨name, encrypted⟩, hentry, rfl⟩ := List.mem_map.1 h
  rcases get?_foldl_insert entries .empty (Table.get?_eq_some.2 hentry) with hempty | hmem
  · cases hempty
  · exact hmem

theorem map_name_distinctEntries (entries : List ArchiveEntry) :
    (distinctEntries entries).map (·.name) =
      (entries.foldl (fun table entry => table.insert entry.name entry.encrypted)
        (Table.empty : Table String Bool)).keys := by
  rw [distinctEntries, List.map_map]
  rfl

theorem nodup_name_distinctEntries (entries : List ArchiveEntry) :
    ((distinctEntries entries).map (·.name)).Nodup := by
  rw [map_name_distinctEntries]
  exact Table.nodup _

theorem mem_name_distinctEntries {entries : List ArchiveEntry} {name : String} :
    name ∈ (distinctEntries entries).map (·.name) ↔ name ∈ entries.map (·.name) := by
  rw [map_name_distinctEntries, mem_keys_foldl_insert]
  simp

/-- The entries of a readable archive that packs some files: one at least for every file, and besides them
only directories, whose names end in a slash. -/
structure Packs (entries : List ArchiveEntry) (files : List (List String)) : Prop where
  nodup : files.Nodup
  isFileName : ∀ names ∈ files, IsFileName names
  packed : ∀ names ∈ files, pathOf names ∈ entries.map (·.name)
  readable : ∀ entry ∈ entries, entry.encrypted = false
  only : ∀ entry ∈ entries, entry.name.toList.getLast? = some '/' ∨ entry.name ∈ files.map pathOf

instance (entries : List ArchiveEntry) (files : List (List String)) :
    Decidable (Packs entries files) :=
  decidable_of_iff (files.Nodup ∧ (∀ names ∈ files, IsFileName names) ∧
      (∀ names ∈ files, pathOf names ∈ entries.map (·.name)) ∧
      (∀ entry ∈ entries, entry.encrypted = false) ∧
      ∀ entry ∈ entries, entry.name.toList.getLast? = some '/' ∨ entry.name ∈ files.map pathOf)
    ⟨fun h => ⟨h.1, h.2.1, h.2.2.1, h.2.2.2.1, h.2.2.2.2⟩, fun h => ⟨h.1, h.2, h.3, h.4, h.5⟩⟩

variable {entries : List ArchiveEntry} {files : List (List String)}

/-- A path that ends in a slash stands for no class. -/
theorem className?_of_slash {path : String} (h : path.toList.getLast? = some '/') :
    className? path = none := by
  obtain ⟨base, -, hsteps⟩ := FileTree.exists_of_slash h
  rw [className?_eq, if_neg fun hclass => ?_]
  obtain ⟨stem, hstem⟩ := hclass.suffix
  rw [hsteps, List.getLast?_concat, Option.some_inj, ← String.toList_inj, String.toList_append] at hstem
  simp at hstem

theorem IsFileName.not_slash {names : List String} (h : IsFileName names) :
    (pathOf names).toList.getLast? ≠ some '/' := by
  intro hslash
  obtain ⟨base, -, hsteps⟩ := FileTree.exists_of_slash hslash
  rw [h.steps_pathOf] at hsteps
  exact (h.plain "" (hsteps ▸ List.mem_append_right _ List.mem_cons_self)).notIdle (Or.inl rfl)

theorem nodup_map_pathOf (hnodup : files.Nodup) (h : ∀ names ∈ files, IsFileName names) :
    (files.map pathOf).Nodup := by
  refine hnodup.map_on fun first hfirst second hsecond heq => ?_
  rw [← (h first hfirst).steps_pathOf, heq, (h second hsecond).steps_pathOf]

/-- The entries that are no directories are the files. -/
theorem Packs.perm (h : Packs entries files) :
    (((distinctEntries entries).map (·.name)).filter fun name =>
      name.toList.getLast? ≠ some '/').Perm (files.map pathOf) := by
  refine (List.perm_ext_iff_of_nodup ((nodup_name_distinctEntries entries).filter _)
    (nodup_map_pathOf h.nodup h.isFileName)).2 fun name => ?_
  rw [List.mem_filter, mem_name_distinctEntries, decide_eq_true_eq]
  constructor
  · rintro ⟨hname, hfile⟩
    obtain ⟨entry, hentry, rfl⟩ := List.mem_map.1 hname
    exact (h.only entry hentry).resolve_left hfile
  · intro hname
    obtain ⟨names, hnames, rfl⟩ := List.mem_map.1 hname
    exact ⟨h.packed names hnames, (h.isFileName names hnames).not_slash⟩

/-- A readable archive lists the classes of the files that it packs. -/
theorem Packs.sorted_archiveClasses (h : Packs entries files) :
    ClassName.sorted (archiveClasses entries) = listing files := by
  have hreadable : (distinctEntries entries).any (·.encrypted) = false := by
    refine List.any_eq_false.2 fun entry hentry => ?_
    rw [h.readable entry (mem_of_mem_distinctEntries hentry)]
    exact Bool.false_ne_true
  have hclasses : archiveClasses entries = (((distinctEntries entries).map (·.name)).filter fun name =>
      name.toList.getLast? ≠ some '/').filterMap className? := by
    rw [archiveClasses, hreadable, List.filterMap_filter, List.filterMap_map]
    refine List.filterMap_congr fun entry _ => ?_
    by_cases hslash : entry.name.toList.getLast? = some '/'
    · rw [className?_of_slash hslash, Function.comp_apply, if_neg (by simp [hslash])]
    · rw [Function.comp_apply, if_pos (by simp [hslash])]
  rw [hclasses, listing, ← filterMap_className? h.isFileName]
  exact ClassName.sorted_congr (h.perm.filterMap className?)

/-- An archive has an entry at a plain path when it packs the file there. -/
theorem Packs.any_iff (h : Packs entries files) {path : String}
    (hpath : ∀ name ∈ FileTree.steps path, FileTree.IsPlain name) :
    ((distinctEntries entries).any fun entry => entry.name = path && !entry.encrypted) = true ↔
      FileTree.steps path ∈ files := by
  have hne : FileTree.steps path ≠ [] := by simp [FileTree.steps, Text.split, Text.pieces_ne_nil]
  have hnames : IsFileName (FileTree.steps path) := ⟨hne, hpath⟩
  simp only [List.any_eq_true, Bool.and_eq_true, decide_eq_true_eq, Bool.not_eq_true']
  constructor
  · rintro ⟨entry, hentry, rfl, -⟩
    have hslash := hnames.not_slash
    rw [pathOf_steps] at hslash
    obtain ⟨names, hmem, hname⟩ := List.mem_map.1
      ((h.only entry (mem_of_mem_distinctEntries hentry)).resolve_left hslash)
    rwa [← hname, (h.isFileName names hmem).steps_pathOf]
  · intro hmem
    have hpacked := mem_name_distinctEntries.2 (h.packed _ hmem)
    rw [pathOf_steps] at hpacked
    obtain ⟨entry, hentry, hname⟩ := List.mem_map.1 hpacked
    exact ⟨entry, hentry, hname, h.readable entry (mem_of_mem_distinctEntries hentry)⟩

end FileClasspath
end BeanDiscovery
