import BeanDiscovery.Assembler
import BeanDiscovery.Plugin.DefaultSet
import BeanDiscovery.Traversal

/-! # Preparing tests

A bootstrap prepares one test after the other: it discovers the deployment of a test and may start
the container with it. The container, the remembered scans and the plugins with their probes are kept
from test to test. The main statements say that discovery alone never starts the container. -/
namespace BeanDiscovery

structure Report where
  descriptor : Descriptor
  graph : DiscoveryGraph
  stats : DiscoveryStats
  deriving DecidableEq, Inhabited

structure Bootstrap where
  container : Container := {}
  scans : ScanCache := {}
  plugins : List Plugin := Plugin.defaultSet Vocabulary.frameworkPackage
  assembler : Assembler := .forPackage Vocabulary.frameworkPackage

/-- What a discovery or a start yields: the account of the calls, the oldest first, and a report or a
failure. -/
structure Outcome where
  account : List Entry
  result : Except DiscoveryError Report

def Run.report (run : Run) (assembler : Assembler) : Except DiscoveryError Report :=
  match run.failure with
  | some error => .error error
  | none => .ok
    { descriptor := assembler.assemble run.context.findings
      graph := run.context.findings.graph
      stats := run.trail.stats }

namespace Bootstrap

/-- Discovers the deployment of a test. Scans and probes are kept even when the discovery fails. -/
def discover (bootstrap : Bootstrap) (registry : TypeRegistry) (scanner : Scanner)
    (configuration : TestConfiguration) : Outcome × Bootstrap :=
  let env : Environment :=
    { registry, scanner, container := bootstrap.container.interface, configuration }
  let run := Run.complete env bootstrap.scans bootstrap.plugins
  (⟨run.progress.account.reverse, run.report bootstrap.assembler⟩,
   { bootstrap with scans := run.context.scans, plugins := run.plugins })

/-- Discovers the deployment of a test and starts the container with it. -/
def start (bootstrap : Bootstrap) (registry : TypeRegistry) (scanner : Scanner)
    (configuration : TestConfiguration) : Outcome × Bootstrap :=
  let (outcome, bootstrap) := bootstrap.discover registry scanner configuration
  match outcome.result with
  | .error _ => (outcome, bootstrap)
  | .ok report =>
    match bootstrap.container.start report.descriptor with
    | .error reason => ({ outcome with result := .error (.container reason) }, bootstrap)
    | .ok container => (outcome, { bootstrap with container })

/-- A discovery sees the container only through its interface. -/
@[simp] theorem container_discover (bootstrap : Bootstrap) (registry : TypeRegistry)
    (scanner : Scanner) (configuration : TestConfiguration) :
    (bootstrap.discover registry scanner configuration).2.container = bootstrap.container := rfl

/-- A started container keeps its deployment. -/
theorem container_start_of_isStarted {bootstrap : Bootstrap}
    (h : bootstrap.container.isStarted = true) (registry : TypeRegistry) (scanner : Scanner)
    (configuration : TestConfiguration) :
    (bootstrap.start registry scanner configuration).2.container = bootstrap.container := by
  unfold start
  dsimp only
  split
  · rfl
  · rw [container_discover, Container.start_of_isStarted h]
    rfl

end Bootstrap
end BeanDiscovery
