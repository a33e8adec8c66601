import BeanDiscovery.ClassName

/-! # Well known names

The types and markers that discovery gives a meaning to. The markers of the test framework itself
live in one package, and moving the framework to another package moves them along. -/
namespace BeanDiscovery.Vocabulary

/-- The root of every class hierarchy. -/
def object : ClassName := ⟨"java.lang.Object"⟩

def inject : ClassName := ⟨"jakarta.inject.Inject"⟩
def produces : ClassName := ⟨"jakarta.enterprise.inject.Produces"⟩
def provider : ClassName := ⟨"jakarta.inject.Provider"⟩
def instanceLookup : ClassName := ⟨"jakarta.enterprise.inject.Instance"⟩

def interceptor : ClassName := ⟨"jakarta.interceptor.Interceptor"⟩
def decorator : ClassName := ⟨"jakarta.decorator.Decorator"⟩
def stereotype : ClassName := ⟨"jakarta.enterprise.inject.Stereotype"⟩
def alternative : ClassName := ⟨"jakarta.enterprise.inject.Alternative"⟩

/-- The interface of container extension types. -/
def extensionInterface : ClassName := ⟨"jakarta.enterprise.inject.spi.Extension"⟩

/-- The package of the framework's own markers. -/
def frameworkPackage : String := "io.github.beanscope"

def additionalClasses : ClassName := ⟨"io.github.beanscope.AdditionalClasses"⟩
def additionalClasspaths : ClassName := ⟨"io.github.beanscope.AdditionalClasspaths"⟩
def additionalPackages : ClassName := ⟨"io.github.beanscope.AdditionalPackages"⟩
def ignoredClasses : ClassName := ⟨"io.github.beanscope.IgnoredClasses"⟩
def activatedAlternatives : ClassName := ⟨"io.github.beanscope.ActivatedAlternatives"⟩
def producesAlternative : ClassName := ⟨"io.github.beanscope.ProducesAlternative"⟩

/-- The same framework marker, declared in another package. -/
def relocated (marker : ClassName) (package : String) : ClassName :=
  if package = frameworkPackage then marker
  else ClassName.inPackage package marker.simpleName

@[simp] theorem relocated_frameworkPackage (marker : ClassName) :
    relocated marker frameworkPackage = marker := by
  simp [relocated]

end BeanDiscovery.Vocabulary
