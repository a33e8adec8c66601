import BeanDiscovery.Scanner
import BeanDiscovery.Table

/-! # Remembered scans

Scanning a class path is slow, so every answer is kept under a text key and never dropped: the roots
joined by colons, or a package and a root joined by an at sign. Each request takes the class path as
it is at that moment and looks at it only when nothing is remembered. The main statements give the
answer and the counters of a request that is remembered and of one that is not. -/
namespace BeanDiscovery

structure ScanStats where
  /-- Requests that reached the class path. -/
  physicalScans : Nat
  /-- Requests answered from memory. -/
  cacheHits : Nat
  cachedEntries : Nat
  deriving DecidableEq, Inhabited

structure ScanCache where
  /-- The roots of the class path when they were first needed. -/
  roots : Option (List Url) := none
  /-- The bean archives among those roots when they were first asked for. -/
  archives : Option (List Url) := none
  classpathScans : Table String (List ClassName) := .empty
  packageScans : Table String (List ClassName) := .empty
  physicalScans : Nat := 0
  cacheHits : Nat := 0
  deriving Inhabited

namespace ScanCache

def classpathKey (roots : List Url) : String := ":".intercalate (roots.map (·.text))

def packageKey (package : String) (root : Url) : String := package ++ "@" ++ root.text

/-- The roots of the class path; reading them counts as no request. -/
def classpathRoots (cache : ScanCache) (scanner : Scanner) : List Url × ScanCache :=
  match cache.roots with
  | some roots => (roots, cache)
  | none => (scanner.roots, { cache with roots := some scanner.roots })

def beanArchiveRoots (cache : ScanCache) (scanner : Scanner) : List Url × ScanCache :=
  match cache.archives with
  | some archives => (archives, { cache with cacheHits := cache.cacheHits + 1 })
  | none =>
    let (roots, cache) := cache.classpathRoots scanner
    let archives := scanner.beanArchives roots
    (archives, { cache with
      archives := some archives
      physicalScans := cache.physicalScans + 1 })

def classNamesForClasspath (cache : ScanCache) (scanner : Scanner) (roots : List Url) :
    List ClassName × ScanCache :=
  match cache.classpathScans.get? (classpathKey roots) with
  | some names => (names, { cache with cacheHits := cache.cacheHits + 1 })
  | none =>
    let names := scanner.classNames roots
    (names, { cache with
      classpathScans := cache.classpathScans.insert (classpathKey roots) names
      physicalScans := cache.physicalScans + 1 })

def classNamesForPackage (cache : ScanCache) (scanner : Scanner) (package : String) (root : Url) :
    List ClassName × ScanCache :=
  match cache.packageScans.get? (packageKey package root) with
  | some names => (names, { cache with cacheHits := cache.cacheHits + 1 })
  | none =>
    let names := scanner.packageClassNames package root
    (names, { cache with
      packageScans := cache.packageScans.insert (packageKey package root) names
      physicalScans := cache.physicalScans + 1 })

/-- Lists of names that are remembered, the list of bean archives included. -/
def cachedEntries (cache : ScanCache) : Nat :=
  cache.classpathScans.size + cache.packageScans.size + (if cache.archives.isSome then 1 else 0)

def stats (cache : ScanCache) : ScanStats :=
  ⟨cache.physicalScans, cache.cacheHits, cache.cachedEntries⟩

/-! ## Requests that are remembered -/

theorem classpathRoots_of_known {cache : ScanCache} {roots : List Url}
    (h : cache.roots = some roots) (scanner : Scanner) :
    cache.classpathRoots scanner = (roots, cache) := by
  simp [classpathRoots, h]

theorem beanArchiveRoots_of_known {cache : ScanCache} {archives : List Url}
    (h : cache.archives = some archives) (scanner : Scanner) :
    cache.beanArchiveRoots scanner =
      (archives, { cache with cacheHits := cache.cacheHits + 1 }) := by
  simp [beanArchiveRoots, h]

theorem classNamesForClasspath_of_known {cache : ScanCache} {roots : List Url}
    {names : List ClassName} (h : cache.classpathScans.get? (classpathKey roots) = some names)
    (scanner : Scanner) :
    cache.classNamesForClasspath scanner roots =
      (names, { cache with cacheHits := cache.cacheHits + 1 }) := by
  simp [classNamesForClasspath, h]

theorem classNamesForPackage_of_known {cache : ScanCache} {package : String} {root : Url}
    {names : List ClassName} (h : cache.packageScans.get? (packageKey package root) = some names)
    (scanner : Scanner) :
    cache.classNamesForPackage scanner package root =
      (names, { cache with cacheHits := cache.cacheHits + 1 }) := by
  simp [classNamesForPackage, h]

/-! ## What a request leaves behind -/

/-- After a request its answer is remembered. -/
theorem get?_classpathScans_classNamesForClasspath (cache : ScanCache) (scanner : Scanner)
    (roots : List Url) :
    (cache.classNamesForClasspath scanner roots).2.classpathScans.get? (classpathKey roots) =
      some (cache.classNamesForClasspath scanner roots).1 := by
  unfold classNamesForClasspath
  split
  next h => exact h
  next => simp [Table.get?_insert]

theorem get?_packageScans_classNamesForPackage (cache : ScanCache) (scanner : Scanner)
    (package : String) (root : Url) :
    (cache.classNamesForPackage scanner package root).2.packageScans.get?
        (packageKey package root) =
      some (cache.classNamesForPackage scanner package root).1 := by
  unfold classNamesForPackage
  split
  next h => exact h
  next => simp [Table.get?_insert]

end ScanCache
end BeanDiscovery
