import BeanDiscovery.Findings
import BeanDiscovery.Vocabulary

/-! # Freezing the findings

A deployment takes everything that was discovered except what was ignored. What is always on comes
after everything that was found. -/
namespace BeanDiscovery

structure Assembler where
  alternativeStereotypes : List ClassName := []
  extensions : List ExtensionRegistration := []
  deriving DecidableEq, Inhabited

namespace Assembler

/-- Switches the framework's alternative stereotype for producers on. -/
def forPackage (package : String) : Assembler where
  alternativeStereotypes := [Vocabulary.relocated Vocabulary.producesAlternative package]

def assemble (assembler : Assembler) (findings : Findings) : Descriptor where
  discovered := findings.discovered.filter fun name => decide (name ∉ findings.ignored)
  alternatives := findings.alternatives
  interceptors := findings.interceptors
  decorators := findings.decorators
  alternativeStereotypes := findings.alternativeStereotypes ++ assembler.alternativeStereotypes
  extensions := findings.extensions ++ assembler.extensions

theorem mem_discovered_assemble {assembler : Assembler} {findings : Findings} {name : ClassName} :
    name ∈ (assembler.assemble findings).discovered ↔
      name ∈ findings.discovered ∧ name ∉ findings.ignored := by
  simp [assemble]

end Assembler
end BeanDiscovery
