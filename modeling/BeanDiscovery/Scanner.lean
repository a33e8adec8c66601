import BeanDiscovery.ClassName
import BeanDiscovery.Url

/-! # Scanning a class path -/
namespace BeanDiscovery

structure Scanner where
  label : String
  roots : List Url
  /-- The bean archives among some roots, in their order. -/
  beanArchives : List Url → List Url
  /-- The classes below some roots, root by root. -/
  classNames : List Url → List ClassName
  /-- The classes directly inside a package below a root. -/
  packageClassNames : String → Url → List ClassName

end BeanDiscovery
