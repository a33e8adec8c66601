import BeanDiscovery.FileClasspath
import BeanDiscovery.Vocabulary

/-! # Configuration

What a discovery is configured with, which two variables of the environment may override. -/
namespace BeanDiscovery

structure DiscoveryConfig where
  classpath : List String := []
  /-- Left out, the number depends on the machine. -/
  scanThreads : Option UInt64 := none
  /-- The paths of the files that make a root a bean archive. -/
  descriptors : List String := ["META-INF/beans.xml"]
  frameworkPackage : String := Vocabulary.frameworkPackage
  deriving DecidableEq, Inhabited

namespace DiscoveryConfig

def classpathVariable : String := "BEANSCOPE_CLASSPATH"

def threadsVariable : String := "BEANSCOPE_SCAN_THREADS"

/-- The paths in a text that separates them by colons; empty ones do not count. -/
def pathsOf (text : String) : List String := (Text.split ':' text).filter (· ≠ "")

def unsigned : List Char → List Char
  | '+' :: cs => cs
  | cs => cs

/-- A positive word, written with digits and perhaps a plus sign, between blanks. -/
def threads? (text : String) : Option UInt64 :=
  let digits := unsigned (Text.trimmed text.toList)
  if digits.isEmpty || !digits.all Char.isDigit then none
  else
    let value := digits.foldl (fun n c => 10 * n + (c.toNat - '0'.toNat)) 0
    if 0 < value ∧ value < UInt64.size then some (UInt64.ofNat value) else none

/-- A class path in the environment replaces the configured one, and a valid number of threads the
configured number. -/
def withEnvironment (config : DiscoveryConfig) (classpath threads : Option String) :
    DiscoveryConfig :=
  { config with
    classpath := (classpath.map pathsOf).getD config.classpath
    scanThreads := (threads.bind threads?).or config.scanThreads }

def rootOf (tree : FileTree) (directory path : String) : Url :=
  let path := FileTree.join directory path
  if tree.isDirectory path then Url.ofDirectoryPath path else Url.ofFilePath path

def classpathRoots (config : DiscoveryConfig) (tree : FileTree) (directory : String) : List Url :=
  config.classpath.map (rootOf tree directory)

def fileClasspath (config : DiscoveryConfig) (tree : FileTree) (directory : String) :
    FileClasspath where
  tree
  roots := config.classpathRoots tree directory
  descriptors := config.descriptors

end DiscoveryConfig
end BeanDiscovery
