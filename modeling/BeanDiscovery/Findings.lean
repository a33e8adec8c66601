import BeanDiscovery.Descriptor
import BeanDiscovery.DiscoveryGraph

/-! # Findings

What a traversal has found so far, before it is frozen into a deployment. -/
namespace BeanDiscovery

/-- The four groups of classes that a deployment switches on. -/
inductive Activation where
  | alternative
  | interceptor
  | decorator
  | alternativeStereotype
  deriving DecidableEq, Inhabited

structure Findings where
  discovered : OrderedSet ClassName := .empty
  /-- Names that must not be deployed. -/
  ignored : OrderedSet ClassName := .empty
  alternatives : List ClassName := []
  interceptors : List ClassName := []
  decorators : List ClassName := []
  alternativeStereotypes : List ClassName := []
  extensions : List ExtensionRegistration := []
  graph : DiscoveryGraph := {}
  deriving DecidableEq, Inhabited

namespace Findings

def discover (findings : Findings) (name : ClassName) : Findings :=
  { findings with discovered := findings.discovered.insert name }

def ignore (findings : Findings) (names : List ClassName) : Findings :=
  { findings with ignored := findings.ignored.insertAll names }

def activated (findings : Findings) : Activation → List ClassName
  | .alternative => findings.alternatives
  | .interceptor => findings.interceptors
  | .decorator => findings.decorators
  | .alternativeStereotype => findings.alternativeStereotypes

/-- Switches classes on, after those of the same group that were switched on before. -/
def activate (findings : Findings) (group : Activation) (names : List ClassName) : Findings :=
  match group with
  | .alternative => { findings with alternatives := findings.alternatives ++ names }
  | .interceptor => { findings with interceptors := findings.interceptors ++ names }
  | .decorator => { findings with decorators := findings.decorators ++ names }
  | .alternativeStereotype =>
    { findings with alternativeStereotypes := findings.alternativeStereotypes ++ names }

def addExtension (findings : Findings) (registration : ExtensionRegistration) : Findings :=
  { findings with extensions := findings.extensions ++ [registration] }

def link (findings : Findings) (source : Option ClassName) (target : ClassName) : Findings :=
  { findings with graph := findings.graph.record source target }

theorem activated_activate (findings : Findings) (group other : Activation)
    (names : List ClassName) :
    (findings.activate group names).activated other =
      if other = group then findings.activated other ++ names else findings.activated other := by
  cases group <;> cases other <;> rfl

end Findings
end BeanDiscovery
