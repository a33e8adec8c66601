import BeanDiscovery.ClassName

/-! # Mock frameworks

A mock framework is recognised by a type of its library and fills the fields that carry its marker. -/
namespace BeanDiscovery

inductive MockFramework where
  | mockito
  | easymock
  deriving DecidableEq, Inhabited

namespace MockFramework

def label : MockFramework → String
  | mockito => "mockito"
  | easymock => "easymock"

def extensionName : MockFramework → String
  | mockito => "io.github.beanscope.mockito.MockitoExtension"
  | easymock => "io.github.beanscope.easymock.EasyMockExtension"

/-- Where the extension is said to come from. -/
def extensionLocation : MockFramework → String
  | mockito => "io.github.beanscope.mockito.MockitoDiscovery"
  | easymock => "io.github.beanscope.easymock.EasyMockDiscovery"

/-- The type whose presence shows that the library is there. -/
def sentinel : MockFramework → ClassName
  | mockito => ⟨"org.mockito.Mock"⟩
  | easymock => ⟨"org.easymock.EasyMockRunner"⟩

def marker : MockFramework → ClassName
  | mockito => ⟨"org.mockito.Mock"⟩
  | easymock => ⟨"org.easymock.Mock"⟩

end MockFramework
end BeanDiscovery
