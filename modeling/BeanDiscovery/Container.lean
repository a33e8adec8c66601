import BeanDiscovery.ClassInfo
import BeanDiscovery.Descriptor
import BeanDiscovery.Table

/-! # The container

Discovery asks a container which classes are its extensions and has it build them. A container kept in
memory builds extensions through factories registered for their classes, and is started at most once.
The main statement is that a second start fails and leaves the first deployment. -/
namespace BeanDiscovery

/-- What the traversal and the plugins may ask of a container. Starting it is left to a bootstrap: no hook
call starts a container. -/
structure ContainerInterface where
  /-- Whether a class is a container extension type. -/
  isExtensionType : ClassInfo → Bool
  /-- Builds an extension of a class, or tells why there is none. -/
  instantiate : ClassInfo → Except String ContainerExtension
  deriving Inhabited

structure Container where
  /-- What the factory of an extension class yields: an extension, or the text of a failure. -/
  factories : Table ClassName (Except String ContainerExtension) := .empty
  deployment : Option Descriptor := none
  deriving Inhabited

namespace Container

def withFactory (container : Container) (name : ClassName)
    (factory : Except String ContainerExtension) : Container :=
  { container with factories := container.factories.insert name factory }

/-- Registers a factory whose extension is named after the class. -/
def withNamed (container : Container) (name : ClassName) : Container :=
  container.withFactory name (.ok (.named name.text))

def isStarted (container : Container) : Bool := container.deployment.isSome

def isExtensionType (info : ClassInfo) : Bool := info.implements Vocabulary.extensionInterface

def instantiate (container : Container) (info : ClassInfo) : Except String ContainerExtension :=
  (container.factories.get? info.name).getD
    (.error ("no accessible no-argument constructor for " ++ info.name.text))

def interface (container : Container) : ContainerInterface where
  isExtensionType := isExtensionType
  instantiate := container.instantiate

def start (container : Container) (descriptor : Descriptor) : Except String Container :=
  match container.deployment with
  | some _ => .error "container already started"
  | none => .ok { container with deployment := some descriptor }

theorem start_of_isStarted {container : Container} (h : container.isStarted = true)
    (descriptor : Descriptor) :
    container.start descriptor = .error "container already started" := by
  cases hd : container.deployment <;> simp_all [isStarted, start]

end Container
end BeanDiscovery
