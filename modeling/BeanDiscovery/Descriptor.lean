import BeanDiscovery.MockFramework
import BeanDiscovery.OrderedSet
import BeanDiscovery.TestConfiguration

/-! # Deployments

What a container is started with: the discovered classes, each once, the classes of the four
activated categories, and the container extensions. -/
namespace BeanDiscovery

/-- A ready-made object handed to the container at startup. -/
inductive ContainerExtension where
  | named (name : String)
  | mocks (framework : MockFramework)
  | testScope (configuration : TestConfiguration)
  | viewScope
  | producerConfig (configuration : TestConfiguration)
  deriving DecidableEq, Inhabited

def ContainerExtension.name : ContainerExtension → String
  | named name => name
  | mocks framework => framework.extensionName
  | testScope _ => "io.github.beanscope.testscope.TestScopeExtension"
  | viewScope => "io.github.beanscope.jsf.ViewScopeExtension"
  | producerConfig _ => "io.github.beanscope.producerconfig.ProducerConfigExtension"

/-- An extension with the text that tells where it comes from. -/
structure ExtensionRegistration where
  extension : ContainerExtension
  location : String
  deriving DecidableEq, Inhabited

structure Descriptor where
  /-- In the order of first discovery. -/
  discovered : OrderedSet ClassName := .empty
  alternatives : List ClassName := []
  interceptors : List ClassName := []
  decorators : List ClassName := []
  alternativeStereotypes : List ClassName := []
  extensions : List ExtensionRegistration := []
  deriving DecidableEq, Inhabited

def Descriptor.isDiscovered (descriptor : Descriptor) (name : ClassName) : Bool :=
  decide (name ∈ descriptor.discovered)

end BeanDiscovery
