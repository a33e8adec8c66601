import BeanDiscovery.Plugin.Mocking
import BeanDiscovery.Plugin.PartialBeans
import BeanDiscovery.Plugin.Scopes
import BeanDiscovery.Plugin.Standard
import BeanDiscovery.Plugin.TestMarkers

/-! # The default plugins -/
namespace BeanDiscovery.Plugin

/-- All plugins in the order they are called, the container's own notions first. -/
def defaultSet (package : String) : List Plugin :=
  [standard, testMarkers package, mocking .mockito, mocking .easymock, testScope, viewScope,
   producerConfig, partialBeanProxies]

end BeanDiscovery.Plugin
