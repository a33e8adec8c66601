import BeanDiscovery.Proofs.ClassFiles

/-!
# What roots list

The files of a root may stand in a directory or be packed into an archive. Nothing that a scan of whole roots
returns depends on which it is. The main statement says what a list of roots answers in which some hold files
and others cannot be read.
-/
namespace BeanDiscovery
namespace FileClasspath

/-! ## One root -/

/-- What a root holds: files, an archive with entries that cannot be opened, or nothing that can be read. -/
inductive RootContent where
  | holding (files : List (List String))
  | locked (entries : List ArchiveEntry)
  | nothing

def RootContent.classes : RootContent → List ClassName
  | .holding files => listing files
  | .locked _ => []
  | .nothing => []

def RootContent.hasDescriptor (descriptors : List String) : RootContent → Bool
  | .holding files => descriptors.any fun descriptor => FileTree.steps descriptor ∈ files
  | .locked entries => descriptors.any fun descriptor => ⟨descriptor, false⟩ ∈ distinctEntries entries
  | .nothing => false

/-- How a root comes to hold what it holds. -/
inductive Stores (classpath : FileClasspath) (root : Url) : RootContent → Prop
  | directory {path place files} (hpath : root.filePath? = some path)
      (hplace : classpath.tree.resolve path = some place)
      (hfiles : classpath.tree.Holds place files) : Stores classpath root (.holding files)
  | archive {path entries files} (hpath : root.filePath? = some path)
      (hnode : classpath.tree.nodeAt path = some (.archive entries))
      (hfiles : Packs entries files) : Stores classpath root (.holding files)
  | locked {path entries} (hpath : root.filePath? = some path)
      (hnode : classpath.tree.nodeAt path = some (.archive entries))
      (hlocked : ∃ entry ∈ distinctEntries entries, entry.encrypted = true) :
      Stores classpath root (.locked entries)
  | remote (hpath : root.filePath? = none) : Stores classpath root .nothing
  | missing {path} (hpath : root.filePath? = some path)
      (hnode : classpath.tree.nodeAt path = none) : Stores classpath root .nothing
  | unpacked {path} (hpath : root.filePath? = some path)
      (hnode : classpath.tree.nodeAt path = some .file) : Stores classpath root .nothing

variable {classpath : FileClasspath} {root : Url} {content : RootContent} {path : String}
  {place : FilePlace} {files : List (List String)}

theorem nodeAt_of_holds (hplace : classpath.tree.resolve path = some place)
    (hfiles : classpath.tree.Holds place files) :
    classpath.tree.nodeAt path = some .directory := by
  rw [FileTree.nodeAt, hplace]
  exact hfiles.exploded.directory

theorem isFileName_of_holds {tree : FileTree} (h : tree.Holds place files) :
    ∀ names ∈ files, IsFileName names :=
  fun _ hnames => ⟨h.ne_nil hnames, h.isPlain hnames⟩

/-- A directory lists the classes of the files that it holds. -/
theorem sorted_directoryClasses {tree : FileTree} (hplace : tree.resolve path = some place)
    (hfiles : tree.Holds place files) :
    ClassName.sorted (directoryClasses tree path) = listing files := by
  have hclasses : directoryClasses tree path =
      ((tree.filesBelow place).map pathOf).filterMap className? := by
    rw [directoryClasses, hplace, List.filterMap_map]
    rfl
  rw [hclasses, listing, ← filterMap_className? (isFileName_of_holds hfiles)]
  have hperm := (FileTree.holds_iff_perm.1 hfiles).2
  exact ClassName.sorted_congr ((hperm.map pathOf).filterMap className?)

theorem archiveClasses_of_locked {entries : List ArchiveEntry}
    (h : ∃ entry ∈ distinctEntries entries, entry.encrypted = true) : archiveClasses entries = [] := by
  rw [archiveClasses, if_pos (by simpa using h)]

theorem any_distinctEntries {entries : List ArchiveEntry} {name : String} :
    ((distinctEntries entries).any fun entry => entry.name = name && !entry.encrypted) = true ↔
      ⟨name, false⟩ ∈ distinctEntries entries := by
  simp only [List.any_eq_true, Bool.and_eq_true, decide_eq_true_eq, Bool.not_eq_true']
  constructor
  · rintro ⟨⟨_, _⟩, hentry, rfl, rfl⟩
    exact hentry
  · exact fun hentry => ⟨_, hentry, rfl, rfl⟩

/-- A root lists the classes of what it holds, however it holds it. -/
theorem Stores.rootClasses_eq (h : classpath.Stores root content) :
    classpath.rootClasses root = content.classes := by
  cases h with
  | directory hpath hplace hfiles =>
    simp only [rootClasses, hpath, nodeAt_of_holds hplace hfiles]
    exact sorted_directoryClasses hplace hfiles
  | archive hpath hnode hfiles =>
    simp only [rootClasses, hpath, hnode]
    exact hfiles.sorted_archiveClasses
  | locked hpath hnode hlocked =>
    simp only [rootClasses, hpath, hnode, archiveClasses_of_locked hlocked]
    exact List.mergeSort_nil
  | remote hpath => simp only [rootClasses, hpath, RootContent.classes]
  | missing hpath hnode => simp only [rootClasses, hpath, hnode, RootContent.classes]
  | unpacked hpath hnode => simp only [rootClasses, hpath, hnode, RootContent.classes]

theorem any_congr_of_mem {descriptors : List String} {p q : String → Bool}
    (h : ∀ descriptor ∈ descriptors, p descriptor = true ↔ q descriptor = true) :
    descriptors.any p = descriptors.any q := by
  rw [Bool.eq_iff_iff, List.any_eq_true, List.any_eq_true]
  exact exists_congr fun descriptor => and_congr_right fun hdescriptor => h descriptor hdescriptor

/-- A root is a bean archive when it holds a descriptor, however it holds it. -/
theorem Stores.isBeanArchive_eq (h : classpath.Stores root content)
    (hplain : ∀ descriptor ∈ classpath.descriptors,
      ∀ name ∈ FileTree.steps descriptor, FileTree.IsPlain name) :
    classpath.isBeanArchive root = content.hasDescriptor classpath.descriptors := by
  cases h with
  | directory hpath hplace hfiles =>
    simp only [isBeanArchive, hpath, nodeAt_of_holds hplace hfiles, RootContent.hasDescriptor]
    refine any_congr_of_mem fun descriptor hdescriptor => ?_
    rw [hfiles.isFile_join hplace (hplain descriptor hdescriptor), decide_eq_true_eq]
  | archive hpath hnode hfiles =>
    simp only [isBeanArchive, hpath, hnode, RootContent.hasDescriptor]
    refine any_congr_of_mem fun descriptor hdescriptor => ?_
    rw [hfiles.any_iff (hplain descriptor hdescriptor), decide_eq_true_eq]
  | locked hpath hnode hlocked =>
    simp only [isBeanArchive, hpath, hnode, RootContent.hasDescriptor]
    refine any_congr_of_mem fun descriptor _ => ?_
    rw [any_distinctEntries, decide_eq_true_eq]
  | remote hpath => simp only [isBeanArchive, hpath, RootContent.hasDescriptor]
  | missing hpath hnode => simp only [isBeanArchive, hpath, hnode, RootContent.hasDescriptor]
  | unpacked hpath hnode => simp only [isBeanArchive, hpath, hnode, RootContent.hasDescriptor]

/-! ## Lists of roots -/

variable {roots : List Url} {contents : List RootContent}

theorem flatMap_rootClasses (h : List.Forall₂ classpath.Stores roots contents) :
    roots.flatMap classpath.rootClasses = contents.flatMap RootContent.classes := by
  induction h with
  | nil => rfl
  | cons hroot _ ih => rw [List.flatMap_cons, List.flatMap_cons, hroot.rootClasses_eq, ih]

theorem filter_isBeanArchive (h : List.Forall₂ classpath.Stores roots contents)
    (hplain : ∀ descriptor ∈ classpath.descriptors,
      ∀ name ∈ FileTree.steps descriptor, FileTree.IsPlain name) :
    roots.filter classpath.isBeanArchive =
      ((roots.zip contents).filter fun root => root.2.hasDescriptor classpath.descriptors).map
        Prod.fst := by
  induction h with
  | nil => rfl
  | cons hroot _ ih =>
    rw [List.zip_cons_cons, List.filter_cons, List.filter_cons, hroot.isBeanArchive_eq hplain, ih]
    split <;> rfl

/-- Whole roots answer by what they hold: the classes root by root, with nothing for a root that cannot be
read, and of the roots those that have a descriptor. So a directory and an archive of the same files answer
alike. -/
theorem scan_of_stores (h : List.Forall₂ classpath.Stores roots contents)
    (hplain : ∀ descriptor ∈ classpath.descriptors,
      ∀ name ∈ FileTree.steps descriptor, FileTree.IsPlain name) :
    classpath.scanner.classNames roots = contents.flatMap RootContent.classes ∧
    classpath.scanner.beanArchives roots =
      ((roots.zip contents).filter fun root => root.2.hasDescriptor classpath.descriptors).map
        Prod.fst ∧
    ∀ first second content, classpath.Stores first content → classpath.Stores second content →
      classpath.scanner.classNames [first] = classpath.scanner.classNames [second] ∧
      (first ∈ classpath.scanner.beanArchives [first] ↔
        second ∈ classpath.scanner.beanArchives [second]) := by
  refine ⟨flatMap_rootClasses h, filter_isBeanArchive h hplain, ?_⟩
  refine fun first second content hfirst hsecond => ⟨?_, ?_⟩
  · have hclasses := hfirst.rootClasses_eq.trans hsecond.rootClasses_eq.symm
    exact congrArg (fun classes => classes ++ []) hclasses
  · have haccepted := (hfirst.isBeanArchive_eq hplain).trans (hsecond.isBeanArchive_eq hplain).symm
    simp [scanner, haccepted]

/-- The files of a small library: two classes, a description of its module, and a directory for
descriptors with a class of its own. -/
def libraryFiles : List (List String) :=
  [["Main.class"], ["com", "example", "Util.class"], ["module-info.class"], ["META-INF", "beans.xml"],
    ["META-INF", "versions", "Util.class"]]

def libraryTwice : FileClasspath where
  tree := ⟨⟨[(["cp"], .directory), (["cp", "app"], .directory), (["cp", "app", "Main.class"], .file),
    (["cp", "app", "com"], .directory), (["cp", "app", "com", "example"], .directory),
    (["cp", "app", "com", "example", "Util.class"], .file),
    (["cp", "app", "module-info.class"], .file), (["cp", "app", "META-INF"], .directory),
    (["cp", "app", "META-INF", "versions"], .directory),
    (["cp", "app", "META-INF", "versions", "Util.class"], .file),
    (["cp", "app", "META-INF", "beans.xml"], .file),
    (["cp", "app.jar"], .archive [⟨"META-INF/beans.xml", false⟩, ⟨"com/", false⟩,
      ⟨"com/example/Util.class", false⟩, ⟨"META-INF/versions/Util.class", false⟩,
      ⟨"module-info.class", false⟩, ⟨"Main.class", false⟩])], by decide⟩⟩

theorem stores_libraryTwice :
    List.Forall₂ libraryTwice.Stores
      [⟨"file:///cp/app/"⟩, ⟨"https://example.org/app.jar"⟩, ⟨"file:///cp/app.jar"⟩,
        ⟨"file:///cp/none.jar"⟩]
      [.holding libraryFiles, .nothing, .holding libraryFiles, .nothing] := by
  -- The whole tree is without links, so all paths are taken from its top.
  have htop : libraryTwice.tree.IsExploded [] := by decide +kernel
  have hroot : libraryTwice.tree.resolve "/" = some [] :=
    FileTree.Leads.follow (.stay (by decide) (.stay (by decide) .here))
  have happ : libraryTwice.tree.resolve "/cp/app/" = some ["cp", "app"] :=
    FileTree.Leads.follow (.stay (by decide) (.down (by decide) (by decide) (by decide)
      (.down (by decide) (by decide) (by decide) (.stay (by decide) .here))))
  refine .cons ?_ (.cons ?_ (.cons ?_ (.cons ?_ .nil)))
  · exact .directory (show _ = some "/cp/app/" by decide +kernel) happ (by decide +kernel)
  · exact .remote (by decide +kernel)
  · refine .archive (show _ = some (FileTree.join "/" "cp/app.jar") by decide +kernel)
      ((htop.nodeAt_join hroot (by decide +kernel)).trans rfl) (by decide +kernel)
  · exact .missing (show _ = some (FileTree.join "/" "cp/none.jar") by decide +kernel)
      ((htop.nodeAt_join hroot (by decide +kernel)).trans rfl)

theorem scan_libraryTwice :
    libraryTwice.scanner.classNames
        [⟨"file:///cp/app/"⟩, ⟨"https://example.org/app.jar"⟩, ⟨"file:///cp/app.jar"⟩,
          ⟨"file:///cp/none.jar"⟩] =
      [⟨"Main"⟩, ⟨"com.example.Util"⟩, ⟨"Main"⟩, ⟨"com.example.Util"⟩] ∧
    libraryTwice.scanner.beanArchives
        [⟨"file:///cp/app/"⟩, ⟨"https://example.org/app.jar"⟩, ⟨"file:///cp/app.jar"⟩,
          ⟨"file:///cp/none.jar"⟩] =
      [⟨"file:///cp/app/"⟩, ⟨"file:///cp/app.jar"⟩] := by
  obtain ⟨hclasses, harchives, -⟩ := scan_of_stores stores_libraryTwice (by decide +kernel)
  have hlisting : listing libraryFiles = [⟨"Main"⟩, ⟨"com.example.Util"⟩] :=
    List.mergeSort_of_pairwise (by decide +kernel)
  refine ⟨hclasses.trans ?_, harchives.trans (by decide +kernel)⟩
  simp [RootContent.classes, hlisting]

end FileClasspath
end BeanDiscovery
