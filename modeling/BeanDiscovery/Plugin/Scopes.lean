import BeanDiscovery.Plugin

/-! # Scopes

Before the traversal these plugins hand an extension to the container: the test scope always, the
view scope and the producer configuration only when their library is there. -/
namespace BeanDiscovery.Plugin

def viewScopeSentinel : ClassName := ⟨"jakarta.faces.view.ViewScoped"⟩

def producerConfigSentinel : ClassName := ⟨"jakarta.enterprise.inject.spi.ProducerFactory"⟩

def testScope : Plugin where
  name := "test-scope"
  respond := fun env => fun
    | .bootstrap _ => .actions [.register
        ⟨.testScope env.configuration, "io.github.beanscope.testscope.TestScopeDiscovery"⟩]
    | _ => .done

def viewScope : Plugin where
  name := "view-scope"
  respond := fun _ => fun
    | .bootstrap _ => .consult viewScopeSentinel fun present =>
      if present then
        .actions [.register ⟨.viewScope, "io.github.beanscope.jsf.ViewScopeDiscovery"⟩]
      else .done
    | _ => .done

def producerConfig : Plugin where
  name := "producer-config"
  respond := fun env => fun
    | .bootstrap _ => .consult producerConfigSentinel fun present =>
      if present then
        .actions [.register ⟨.producerConfig env.configuration,
          "io.github.beanscope.producerconfig.ProducerConfigDiscovery"⟩]
      else .done
    | _ => .done

end BeanDiscovery.Plugin
