import BeanDiscovery.ClassName

/-! # The test being prepared -/
namespace BeanDiscovery

structure TestConfiguration where
  testClass : ClassName
  testMethod : Option String := none
  /-- Classes to deploy alongside the test class. -/
  additionalClasses : List ClassName := []
  deriving DecidableEq, Inhabited

end BeanDiscovery
