import BeanDiscovery.Plugin

/-! # Partial bean proxies

A marker type switches on the proxies of partial beans: when it is inspected, the archives that hold
the proxy machinery are scanned and offered. The machinery has an older and a newer layout, and
either may be there. -/
namespace BeanDiscovery.Plugin

def proxySupportMarker : ClassName := ⟨"io.github.beanscope.deltaspike.SupportDeltaspikeProxy"⟩

/-- A type of the older and a type of the newer layout. -/
def proxySentinels : List ClassName :=
  [⟨"org.apache.deltaspike.proxy.impl.invocation.InterceptorLookup"⟩,
   ⟨"org.apache.deltaspike.proxy.spi.invocation.DeltaSpikeProxyInvocationHandler"⟩]

def proxyArchive (sentinel : ClassName) : Contribution :=
  .consult sentinel fun present =>
    if present then .scanArchives [sentinel] .offers else .done

def partialBeanProxies : Plugin where
  name := "deltaspike-proxy"
  respond := fun _ => fun
    | .process info =>
      if info.name = proxySupportMarker then .sequence (proxySentinels.map proxyArchive) else .done
    | _ => .done

end BeanDiscovery.Plugin
