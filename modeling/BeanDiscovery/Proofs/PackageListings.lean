import BeanDiscovery.Proofs.RootListings
import BeanDiscovery.TypeRegistry

/-!
# What packages list

A package of an archive is its share of the classes that the archive lists. A package of a directory is read
from the directory that the package text leads to. The main statement says when the two are the same. They
are for the names that classes usually have, but a further dot in the name of a file or of a directory sets
them apart.
-/
namespace BeanDiscovery

/-- A package of a root is listed as its share of the classes of the root. -/
def Scanner.ListsShare (scanner : Scanner) (package : String) (root : Url) : Prop :=
  scanner.packageClassNames package root =
    (scanner.classNames [root]).filter fun name => name.package = package

/-- Classes in memory are shared out by their packages. -/
theorem TypeRegistry.listsShare_scanner (registry : TypeRegistry) (package : String) (root : Url) :
    registry.scanner.ListsShare package root := by
  have hnames : registry.scanner.classNames [root] =
      registry.sortedNames fun info => info.location = some root := List.append_nil _
  rw [Scanner.ListsShare, hnames, sortedNames, ClassName.filter_sorted, List.filter_map,
    List.filter_filter]
  refine congrArg (fun classes => ClassName.sorted (List.map _ classes)) ?_
  refine List.filter_congr fun info _ => ?_
  exact Bool.and_comm _ _

namespace FileClasspath

/-! ## The directory of a package -/

/-- The path from a root to the directory of a package. -/
def packageDirectory (package : String) : String := package.map fun c => if c = '.' then '/' else c

theorem packagePath_eq (path package : String) :
    packagePath path package = FileTree.join path (packageDirectory package) := rfl

/-- A file stands in the directory of a package when the package text leads to where the file stands. -/
def StandsIn (path package : String) (names : List String) : Prop :=
  Url.namesOf (packagePath path package) = Url.namesOf path ++ names.dropLast

instance (path package : String) (names : List String) : Decidable (StandsIn path package names) :=
  inferInstanceAs (Decidable (_ = _))

variable {tree : FileTree} {path package : String} {place : FilePlace} {above names : List String}
  {files : List (List String)}

theorem dot_notMem_packageDirectory (package : String) :
    '.' ∉ (packageDirectory package).toList := by
  rw [packageDirectory, String.toList_map, List.mem_map]
  rintro ⟨c, -, hc⟩
  split at hc
  · exact absurd hc (by decide)
  · contradiction

/-- The names in a package text lead to what is called by them. -/
theorem isPlain_of_mem_packageDirectory {name : String}
    (h : name ∈ FileTree.namesAlong (FileTree.steps (packageDirectory package))) :
    FileTree.IsPlain name := by
  obtain ⟨hsteps, hidle⟩ := List.mem_filter.1 h
  refine ⟨by simpa using hidle, ?_, Text.notMem_of_mem_split hsteps⟩
  rintro rfl
  exact dot_notMem_packageDirectory package (Text.mem_of_mem_split hsteps (by decide))

theorem namesOf_packagePath (path package : String) :
    Url.namesOf (packagePath path package) =
      (if FileTree.isAbsolute (packageDirectory package) then [] else Url.namesOf path) ++
        FileTree.namesAlong (FileTree.steps (packageDirectory package)) := by
  split
  next habsolute =>
    rw [packagePath_eq, FileTree.join, if_pos habsolute, FileTree.namesOf_eq, List.nil_append]
  next hrelative =>
    obtain ⟨front, hsteps, hfront⟩ :=
      FileTree.steps_join path (Bool.eq_false_iff.2 hrelative)
    rw [packagePath_eq, FileTree.namesOf_eq, FileTree.namesOf_eq, ← hfront,
      ← FileTree.namesAlong_append, ← hsteps]

theorem isPlain_of_namesOf (h : Url.namesOf (packagePath path package) = Url.namesOf path ++ above) :
    ∀ name ∈ above, FileTree.IsPlain name := by
  intro name hname
  rw [namesOf_packagePath] at h
  split at h
  · rw [List.nil_append] at h
    exact isPlain_of_mem_packageDirectory (h ▸ List.mem_append_right _ hname)
  · exact isPlain_of_mem_packageDirectory (List.append_cancel_left h ▸ hname)

/-! ## Packages of a directory -/

/-- The files right inside a directory below the root. -/
theorem perm_filesBelow (h : tree.Holds place files)
    (hdirectory : tree.node? (place ++ above) = some .directory) :
    (((tree.filesBelow (place ++ above)).filter fun names => names.length = 1).map (above ++ ·)).Perm
      (files.filter fun names => above = names.dropLast) := by
  refine (List.perm_ext_iff_of_nodup ?_ (h.nodup.filter _)).2 fun names => ?_
  · exact ((tree.nodup_filesBelow _).filter _).map fun _ _ => List.append_cancel_left
  · rw [List.mem_map, List.mem_filter, decide_eq_true_eq, h.mem_iff]
    constructor
    · rintro ⟨inner, hinner, rfl⟩
      obtain ⟨hfile, hlength⟩ := List.mem_filter.1 hinner
      obtain ⟨name, rfl⟩ := List.length_eq_one_iff.1 (of_decide_eq_true hlength)
      rw [FileTree.mem_filesBelow, List.append_assoc] at hfile
      exact ⟨hfile, List.dropLast_concat.symm⟩
    · rintro ⟨hfile, rfl⟩
      have hne : names ≠ [] := h.ne_nil ((h.mem_iff names).2 hfile)
      refine ⟨[names.getLast hne], ?_, List.dropLast_append_getLast hne⟩
      rw [List.mem_filter, FileTree.mem_filesBelow, List.append_assoc,
        List.dropLast_append_getLast hne]
      exact ⟨hfile, by simp⟩

/-- Where no directory is no file stands. -/
theorem filter_eq_nil (h : tree.Holds place files)
    (hdirectory : tree.node? (place ++ above) ≠ some .directory) :
    files.filter (fun names => above = names.dropLast) = [] := by
  refine List.filter_eq_nil_iff.2 fun names hnames habove => hdirectory ?_
  obtain rfl := of_decide_eq_true habove
  have hne := h.ne_nil hnames
  obtain ⟨node, hnode, -⟩ := (h.mem_iff names).1 hnames
  rw [← List.dropLast_append_getLast hne, ← List.append_assoc,
    ← FileTree.node?_of_ne_nil (by simp)] at hnode
  exact (h.exploded.below _ _ node hnode).1

/-- The package text leads to a place below the root when its directory is there. -/
theorem resolve_packagePath (hplace : tree.resolve path = some place) (h : tree.Holds place files)
    (habove : Url.namesOf (packagePath path package) = Url.namesOf path ++ above) {goal : FilePlace}
    (hgoal : tree.node? goal = some .directory) :
    tree.resolve (packagePath path package) = some goal ↔ goal = place ++ above := by
  obtain ⟨rest, hresolve⟩ := FileTree.resolve_of_namesOf hplace h.exploded.directory habove
  rw [hresolve goal hgoal, h.exploded.follow_eq (isPlain_of_namesOf habove)]
  constructor
  · intro hfollow
    obtain ⟨_, -, heq⟩ := Option.map_eq_some_iff.1 hfollow
    exact heq.symm
  · rintro rfl
    rw [hgoal]
    rfl

/-- The classes of a package come from the files in its directory. -/
theorem directoryPackageClasses_eq (hplace : tree.resolve path = some place)
    (h : tree.Holds place files) (package : String) :
    ∃ inside, directoryPackageClasses tree path package = classesOf inside ∧
      inside.Perm (files.filter fun names => StandsIn path package names) := by
  cases habove : List.isPrefixOf? (Url.namesOf path) (Url.namesOf (packagePath path package)) with
  | none =>
    refine ⟨[], ?_, ?_⟩
    · simp only [directoryPackageClasses, habove]
      split <;> simp_all [classesOf]
    · rw [List.filter_eq_nil_iff.2 fun names _ hstands => ?_]
      have hprefix := List.isPrefixOf?_eq_some_iff_append_eq.2 (of_decide_eq_true hstands).symm
      rw [habove] at hprefix
      cases hprefix
  | some above =>
    have hnames : Url.namesOf (packagePath path package) = Url.namesOf path ++ above :=
      (List.append_eq_of_isPrefixOf?_eq_some habove).symm
    have hstands : ∀ names, StandsIn path package names ↔ above = names.dropLast := fun names => by
      rw [StandsIn, hnames, List.append_cancel_left_eq]
    simp only [hstands, directoryPackageClasses, habove]
    by_cases hdirectory : tree.node? (place ++ above) = some .directory
    · rw [(resolve_packagePath hplace h hnames hdirectory).2 rfl]
      refine ⟨_, ?_, perm_filesBelow h hdirectory⟩
      simp only [hdirectory, if_true]
    · rw [filter_eq_nil h hdirectory]
      refine ⟨[], ?_, .refl _⟩
      cases hinner : tree.resolve (packagePath path package) with
      | none => rfl
      | some goal =>
        by_cases hgoal : tree.node? goal = some .directory
        · have heq := (resolve_packagePath hplace h hnames hgoal).1 hinner
          exact absurd (heq ▸ hgoal) hdirectory
        · simp only [hgoal, if_false]
          rfl

/-! ## Shares of a root -/

variable {classpath : FileClasspath} {root : Url}

theorem packageClasses_directory (hpath : root.filePath? = some path)
    (hplace : classpath.tree.resolve path = some place) (hfiles : classpath.tree.Holds place files)
    (package : String) :
    classpath.packageClasses package root =
      ClassName.sorted (((files.filter fun names => IsClassFile names).filter fun names =>
        StandsIn path package names).map className) := by
  obtain ⟨inside, hclasses, hperm⟩ := directoryPackageClasses_eq hplace hfiles package
  have hfileName : ∀ names ∈ inside, IsFileName names := fun names hnames =>
    isFileName_of_holds hfiles names (List.mem_filter.1 (hperm.mem_iff.1 hnames)).1
  have hinside : classesOf inside = (inside.filter fun names => IsClassFile names).map className := by
    rw [← filterMap_className? hfileName, List.filterMap_map]
    rfl
  simp only [packageClasses, hpath, nodeAt_of_holds hplace hfiles]
  rw [hclasses, hinside, List.filter_comm]
  exact ClassName.sorted_congr ((hperm.filter _).map className)

theorem rootClasses_directory (hpath : root.filePath? = some path)
    (hplace : classpath.tree.resolve path = some place) (hfiles : classpath.tree.Holds place files)
    (package : String) :
    (classpath.rootClasses root).filter (fun name => name.package = package) =
      ClassName.sorted (((files.filter fun names => IsClassFile names).filter fun names =>
        (className names).package = package).map className) := by
  rw [(Stores.directory hpath hplace hfiles).rootClasses_eq, RootContent.classes, listing,
    ClassName.filter_sorted, List.filter_map, Function.comp_def]

/-- Two shares of some files name the same classes when they are the same, if one of them is told by the
names of the classes. -/
theorem sorted_filter_eq_iff {p : List String → Bool} {q : ClassName → Bool} :
    ClassName.sorted ((files.filter p).map className) =
        ClassName.sorted ((files.filter fun names => q (className names)).map className) ↔
      ∀ names ∈ files, p names = q (className names) := by
  constructor
  · intro h
    have hperm : ((files.filter p).map className).Perm
        ((files.filter fun names => q (className names)).map className) :=
      (ClassName.sorted_perm _).symm.trans (h ▸ ClassName.sorted_perm _)
    have hle : ∀ names ∈ files, p names = true → q (className names) = true := by
      intro names hnames hp
      have hmem := hperm.mem_iff.1 (List.mem_map_of_mem (List.mem_filter.2 ⟨hnames, hp⟩))
      obtain ⟨other, hother, heq⟩ := List.mem_map.1 hmem
      exact heq ▸ (List.mem_filter.1 hother).2
    -- The one share is part of the other, and they are of the same size.
    have hpart : files.filter p = (files.filter fun names => q (className names)).filter p := by
      rw [List.filter_filter]
      refine List.filter_congr fun names hnames => ?_
      cases hp : p names with
      | false => rfl
      | true => rw [hle names hnames hp]; rfl
    have heq : files.filter p = files.filter fun names => q (className names) := by
      have hlength := hperm.length_eq
      rw [List.length_map, List.length_map] at hlength
      refine List.Sublist.eq_of_length ?_ hlength
      rw [hpart]
      exact List.filter_sublist
    intro names hnames
    have hmem : names ∈ files.filter p ↔ names ∈ files.filter fun names => q (className names) := by
      rw [heq]
    rw [List.mem_filter, List.mem_filter] at hmem
    exact Bool.eq_iff_iff.2 ⟨fun hp => (hmem.1 ⟨hnames, hp⟩).2, fun hq => (hmem.2 ⟨hnames, hq⟩).2⟩
  · intro h
    rw [List.filter_congr h]

/-- A package of a directory is its share of the directory exactly if every class file stands in the
directory of the package that its class is in. -/
theorem packageClasses_eq_share_iff (hpath : root.filePath? = some path)
    (hplace : classpath.tree.resolve path = some place) (hfiles : classpath.tree.Holds place files)
    (package : String) :
    classpath.packageClasses package root =
        (classpath.rootClasses root).filter (fun name => name.package = package) ↔
      ∀ names ∈ files, IsClassFile names →
        (StandsIn path package names ↔ (className names).package = package) := by
  rw [packageClasses_directory hpath hplace hfiles, rootClasses_directory hpath hplace hfiles,
    sorted_filter_eq_iff (q := fun name => name.package = package)]
  simp only [List.mem_filter, decide_eq_true_eq, and_imp, decide_eq_decide]

/-- A root that is no directory has a package as its share. -/
theorem packageClasses_of_ne_directory
    (h : ∀ path, root.filePath? = some path → classpath.tree.nodeAt path ≠ some .directory)
    (package : String) :
    classpath.packageClasses package root =
      (classpath.rootClasses root).filter fun name => name.package = package := by
  cases hpath : root.filePath? with
  | none => simp only [packageClasses, rootClasses, hpath, List.filter_nil]
  | some path =>
    have hdirectory := h path hpath
    simp only [packageClasses, rootClasses, hpath]
    cases hnode : classpath.tree.nodeAt path with
    | none => rfl
    | some node =>
      cases node with
      | directory => exact absurd hnode hdirectory
      | archive entries => exact (ClassName.filter_sorted _ _).symm
      | file => rfl
      | link target => rfl

/-! ## Names without further dots -/

/-- A package text that is empty or made of names between its dots. -/
def IsPackageText (package : String) : Prop :=
  package = "" ∨ ∀ name ∈ Text.split '.' package, name ≠ "" ∧ '/' ∉ name.toList

/-- The names that a package text is made of. -/
def packageNames (package : String) : List String :=
  if package = "" then [] else Text.split '.' package

/-- The names that lead to a file have no dot but the one before the suffix. -/
structure IsUndotted (names : List String) : Prop where
  above : ∀ name ∈ names.dropLast, '.' ∉ name.toList
  own : ∃ stem, names.getLast? = some (stem ++ ".class") ∧ '.' ∉ stem.toList

theorem packageDirectory_empty : packageDirectory "" = "" := by
  rw [← String.toList_inj, packageDirectory, String.toList_map]
  rfl

theorem namesOf_packagePath_of_isPackageText (h : IsPackageText package) (path : String) :
    Url.namesOf (packagePath path package) = Url.namesOf path ++ packageNames package := by
  rw [namesOf_packagePath, packageNames]
  rcases h with rfl | hnames
  · rw [packageDirectory_empty, if_pos rfl, if_neg (by decide)]
    rfl
  · have hslash : '/' ∉ package.toList := by
      intro hmem
      obtain ⟨name, hname, hmem⟩ := @Text.exists_mem_split '.' _ _ hmem (by decide)
      exact (hnames name hname).2 hmem
    have hsteps : FileTree.steps (packageDirectory package) = Text.split '.' package := by
      rw [FileTree.steps, Text.split, packageDirectory, String.toList_map,
        Text.pieces_map _ hslash, Text.split]
    have hplain : ∀ name ∈ FileTree.steps (packageDirectory package), FileTree.IsPlain name := by
      intro name hname
      rw [hsteps] at hname
      have hdot := Text.notMem_of_mem_split hname
      obtain ⟨hne, hslash⟩ := hnames name hname
      refine ⟨?_, ?_, hslash⟩
      · rintro (rfl | rfl)
        · exact hne rfl
        · exact hdot (by decide)
      · rintro rfl
        exact hdot (by decide)
    have halong : FileTree.namesAlong (FileTree.steps (packageDirectory package)) =
        Text.split '.' package := by
      rw [FileTree.namesAlong, List.filter_eq_self.2 fun name hname => ?_, hsteps]
      simpa using (hplain name hname).notIdle
    have hne : package ≠ "" := by
      rintro rfl
      exact (hnames "" (by decide)).1 rfl
    rw [if_neg hne, halong, FileTree.isAbsolute_of_isPlain hplain]
    rfl

/-- The package of such a file's class is made of the names above the file. -/
theorem IsUndotted.package_className (h : IsUndotted names) :
    (className names).package = ".".intercalate names.dropLast := by
  obtain ⟨stem, hlast, hstem⟩ := h.own
  obtain ⟨front, rfl⟩ := List.getLast?_eq_some_iff.1 hlast
  rw [className_concat, List.dropLast_concat]
  by_cases hempty : front = []
  · subst hempty
    rw [List.nil_append, String.intercalate_singleton, ClassName.package,
      Text.cutAtLastDot_of_notMem hstem, String.intercalate_nil]
  · rw [Text.intercalate_concat hempty]
    exact ClassName.package_inPackage hstem

theorem intercalate_eq_iff (hnames : ∀ name ∈ names, name ≠ "" ∧ '.' ∉ name.toList) :
    ".".intercalate names = package ↔ packageNames package = names := by
  rw [packageNames]
  constructor
  · rintro rfl
    cases names with
    | nil => rfl
    | cons name names =>
      have hdots : ∀ name' ∈ name :: names, '.' ∉ name'.toList := fun _ hname => (hnames _ hname).2
      have hsplit : Text.split '.' (".".intercalate (name :: names)) = name :: names :=
        Text.split_intercalate (by simp) hdots
      rw [if_neg, hsplit]
      intro hempty
      rw [hempty] at hsplit
      exact (hnames name List.mem_cons_self).1 (List.cons.inj hsplit).1.symm
  · split
    next hempty =>
      rintro rfl
      exact hempty.symm
    next =>
      rintro rfl
      exact Text.intercalate_split '.' package

/-- For a usual package text a usual file stands in the directory of its package. -/
theorem standsIn_iff (hpackage : IsPackageText package) (hfile : IsFileName names)
    (hnames : IsUndotted names) (path : String) :
    StandsIn path package names ↔ (className names).package = package := by
  have habove : ∀ name ∈ names.dropLast, name ≠ "" ∧ '.' ∉ name.toList := fun name hname =>
    ⟨fun hempty => (hfile.plain name ((List.dropLast_sublist names).subset hname)).notIdle (Or.inl hempty),
      hnames.above name hname⟩
  rw [StandsIn, namesOf_packagePath_of_isPackageText hpackage, List.append_cancel_left_eq,
    hnames.package_className, intercalate_eq_iff habove]

/-! ## Scanners -/

theorem listsShare_iff : classpath.scanner.ListsShare package root ↔
    classpath.packageClasses package root =
      (classpath.rootClasses root).filter fun name => name.package = package := by
  have hnames : classpath.scanner.classNames [root] = classpath.rootClasses root := List.append_nil _
  rw [Scanner.ListsShare, hnames]
  rfl

/-- A package of a directory is listed as its share exactly if the class files that stand in the directory
of the package are those whose classes are in it. They are where the package text is made of names and no
file has a further dot. Archives, roots that cannot be read, and classes in memory are always shared out by
their packages. -/
theorem listsShare_directory_iff (hpath : root.filePath? = some path)
    (hplace : classpath.tree.resolve path = some place) (hfiles : classpath.tree.Holds place files)
    (package : String) :
    (classpath.scanner.ListsShare package root ↔
      ∀ names ∈ files, IsClassFile names →
        (StandsIn path package names ↔ (className names).package = package)) ∧
    (IsPackageText package → (∀ names ∈ files, IsClassFile names → IsUndotted names) →
      classpath.scanner.ListsShare package root) ∧
    (∀ other : Url, (∀ path, other.filePath? = some path →
        classpath.tree.nodeAt path ≠ some .directory) →
      classpath.scanner.ListsShare package other) ∧
    ∀ (registry : TypeRegistry) (other : Url), registry.scanner.ListsShare package other := by
  have hiff : classpath.scanner.ListsShare package root ↔ _ :=
    listsShare_iff.trans (packageClasses_eq_share_iff hpath hplace hfiles package)
  refine ⟨hiff, fun hpackage hundotted => ?_, fun other hother => ?_, fun registry other => ?_⟩
  · refine hiff.2 fun names hnames hclass => ?_
    exact standsIn_iff hpackage (isFileName_of_holds hfiles names hnames)
      (hundotted names hnames hclass) path
  · exact listsShare_iff.2 (packageClasses_of_ne_directory hother package)
  · exact registry.listsShare_scanner package other

/-- A directory with a dot in its name and a class in it, and another one. -/
def dottedDirectory : FileClasspath where
  tree := ⟨⟨[(["cp"], .directory), (["cp", "v1.2"], .directory), (["cp", "v1.2", "Foo.class"], .file),
    (["cp", "com"], .directory), (["cp", "com", "Bar.class"], .file)], by decide⟩⟩

theorem resolve_dottedDirectory : dottedDirectory.tree.resolve "/cp/" = some ["cp"] :=
  FileTree.Leads.follow (.stay (by decide) (.down (by decide) (by decide) (by decide)
    (.stay (by decide) .here)))

theorem holds_dottedDirectory :
    dottedDirectory.tree.Holds ["cp"] [["v1.2", "Foo.class"], ["com", "Bar.class"]] := by
  decide +kernel

theorem listsShare_dottedDirectory :
    dottedDirectory.scanner.ListsShare "com" ⟨"file:///cp/"⟩ ∧
      ¬ dottedDirectory.scanner.ListsShare "v1.2" ⟨"file:///cp/"⟩ := by
  have hpath : Url.filePath? ⟨"file:///cp/"⟩ = some "/cp/" := by decide +kernel
  constructor
  · exact (listsShare_directory_iff hpath resolve_dottedDirectory holds_dottedDirectory "com").1.2
      (by decide +kernel)
  · exact fun h => absurd ((listsShare_directory_iff hpath resolve_dottedDirectory
      holds_dottedDirectory "v1.2").1.1 h) (by decide +kernel)

/-- Not every package of a directory is listed as its share. -/
theorem not_listsShare : ¬ ∀ (classpath : FileClasspath) (root : Url) (path : String) (place : FilePlace)
    (files : List (List String)), root.filePath? = some path →
    classpath.tree.resolve path = some place → classpath.tree.Holds place files →
    ∀ package, classpath.scanner.ListsShare package root := by
  intro h
  have hshare := h dottedDirectory ⟨"file:///cp/"⟩ "/cp/" ["cp"] _ (by decide +kernel)
    resolve_dottedDirectory holds_dottedDirectory "v1.2"
  have hstands := (packageClasses_eq_share_iff (show _ = some "/cp/" by decide +kernel)
    resolve_dottedDirectory holds_dottedDirectory "v1.2").1 (listsShare_iff.1 hshare)
  exact absurd hstands (by decide +kernel)

end FileClasspath
end BeanDiscovery
