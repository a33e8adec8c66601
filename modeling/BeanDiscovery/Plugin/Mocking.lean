import BeanDiscovery.Plugin

/-! # Mocked fields

A field that a mock framework fills needs no bean, so its erased type stays out of the deployment. -/
namespace BeanDiscovery.Plugin

/-- Leaves out the erased type of a field with the framework's marker. -/
def ignoreMocked (framework : MockFramework) (field : FieldInfo) : List Action :=
  if field.hasMarker framework.marker then
    field.rawType?.toList.map fun raw => .ignore (.ofClass raw)
  else []

def mockingResponse (framework : MockFramework) (env : Environment) : HookPoint → Contribution
  | .bootstrap test => .consult framework.sentinel fun present =>
    if present then
      .actions (.register ⟨.mocks framework, framework.extensionLocation⟩ ::
        ((env.registry.resolve test).toList.flatMap (·.fields)).flatMap (ignoreMocked framework))
    else .done
  | .field _ field => .consult framework.sentinel fun present =>
    if present then .actions (ignoreMocked framework field) else .done
  | .process _ => .done
  | .method _ _ => .done

def mocking (framework : MockFramework) : Plugin where
  name := framework.label
  respond := mockingResponse framework

end BeanDiscovery.Plugin
