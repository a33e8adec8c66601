import BeanDiscovery.FileTree
import BeanDiscovery.Scanner
import BeanDiscovery.Url.FilePath

/-! # Class paths of files

A root of a class path is a directory of class files or an archive. A class is named after its file:
the names along the path, joined by dots, without the suffix. Directories for descriptors hold no
classes, and neither do the two files that describe a module or a package. A root that cannot be read
adds nothing. -/
namespace BeanDiscovery

structure FileClasspath where
  tree : FileTree := {}
  roots : List Url := []
  /-- The paths of the files that make a root a bean archive. -/
  descriptors : List String := ["META-INF/beans.xml"]
  deriving Inhabited

namespace FileClasspath

/-- The class of a file, from its path below a root. -/
def className? (path : String) : Option ClassName :=
  (List.isSuffixOf? ".class".toList path.toList).bind fun stem =>
    let names := Text.pieces '/' stem
    if List.isPrefixOf "META-INF/".toList stem then none
    else if names.getLast? = some "module-info".toList ||
        names.getLast? = some "package-info".toList then none
    else some ⟨String.ofList (Text.joined '.' names)⟩

/-! ## Directories -/

def classesOf (files : List (List String)) : List ClassName :=
  files.filterMap fun names => className? ("/".intercalate names)

def directoryClasses (tree : FileTree) (path : String) : List ClassName :=
  match tree.resolve path with
  | some place => classesOf (tree.filesBelow place)
  | none => []

def packagePath (path package : String) : String :=
  FileTree.join path (package.map fun c => if c = '.' then '/' else c)

/-- The classes right inside the directory of a package. Its files are named from the root, so a
package whose directory is not below the root has none. -/
def directoryPackageClasses (tree : FileTree) (path package : String) : List ClassName :=
  let inner := packagePath path package
  match tree.resolve inner, List.isPrefixOf? (Url.namesOf path) (Url.namesOf inner) with
  | some place, some above =>
    if tree.node? place = some .directory then
      classesOf (((tree.filesBelow place).filter fun names => names.length = 1).map (above ++ ·))
    else []
  | _, _ => []

/-! ## Archives -/

/-- The entries of an archive as they are found: each name once, with its last content. -/
def distinctEntries (entries : List ArchiveEntry) : List ArchiveEntry :=
  let table := entries.foldl (fun (table : Table String Bool) entry =>
    table.insert entry.name entry.encrypted) .empty
  table.entries.map fun entry => ⟨entry.1, entry.2⟩

/-- The classes of an archive; an entry that cannot be opened makes the archive unreadable. -/
def archiveClasses (entries : List ArchiveEntry) : List ClassName :=
  let entries := distinctEntries entries
  if entries.any (·.encrypted) then [] else entries.filterMap fun entry => className? entry.name

/-! ## Scanning -/

def rootClasses (classpath : FileClasspath) (root : Url) : List ClassName :=
  match root.filePath? with
  | none => []
  | some path =>
    match classpath.tree.nodeAt path with
    | some .directory => ClassName.sorted (directoryClasses classpath.tree path)
    | some (.archive entries) => ClassName.sorted (archiveClasses entries)
    | _ => []

def packageClasses (classpath : FileClasspath) (package : String) (root : Url) : List ClassName :=
  match root.filePath? with
  | none => []
  | some path =>
    match classpath.tree.nodeAt path with
    | some .directory => ClassName.sorted (directoryPackageClasses classpath.tree path package)
    | some (.archive entries) =>
      ClassName.sorted ((archiveClasses entries).filter fun name => name.package = package)
    | _ => []

/-- Whether a root holds one of the descriptors: a directory as a file at its path, an archive as an
entry that can be opened. -/
def isBeanArchive (classpath : FileClasspath) (root : Url) : Bool :=
  match root.filePath? with
  | none => false
  | some path =>
    match classpath.tree.nodeAt path with
    | some .directory =>
      classpath.descriptors.any fun descriptor =>
        classpath.tree.isFile (FileTree.join path descriptor)
    | some (.archive entries) =>
      classpath.descriptors.any fun descriptor =>
        (distinctEntries entries).any fun entry => entry.name = descriptor && !entry.encrypted
    | _ => false

def scanner (classpath : FileClasspath) : Scanner where
  label := "filesystem"
  roots := classpath.roots
  beanArchives := List.filter classpath.isBeanArchive
  classNames := List.flatMap classpath.rootClasses
  packageClassNames := classpath.packageClasses

end FileClasspath
end BeanDiscovery
