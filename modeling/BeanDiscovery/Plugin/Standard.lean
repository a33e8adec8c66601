import BeanDiscovery.Plugin

/-! # The container's own notions

Container extensions, interceptors, decorators, alternative stereotypes, and the types of injection
points. -/
namespace BeanDiscovery.Plugin

def isInjectionPoint (markers : List MarkerUse) : Bool :=
  markers.any fun marker => marker.name = Vocabulary.inject || marker.name = Vocabulary.produces

/-- A field through which beans are looked up on demand. -/
def isLookup (field : FieldInfo) : Bool :=
  field.rawType?.any fun raw => raw = Vocabulary.provider || raw = Vocabulary.instanceLookup

/-- Hands over a concrete extension type; one that cannot be built ends the run. -/
def extensionContribution (env : Environment) (info : ClassInfo) : Contribution :=
  if info.isAbstract || !env.container.isExtensionType info then .done
  else match env.container.instantiate info with
    | .ok extension => .act (.register ⟨extension, info.name.text⟩) .done
    | .error cause => .fail (.extensionInstantiation info.name cause)

def activationsOf (info : ClassInfo) : List Activation :=
  (if info.hasMarker Vocabulary.interceptor then [.interceptor] else []) ++
  (if info.hasMarker Vocabulary.decorator then [.decorator] else []) ++
  (if info.isAlternativeStereotype then [.alternativeStereotype] else [])

def standardResponse (env : Environment) : HookPoint → Contribution
  | .bootstrap _ => .done
  | .process info =>
    extensionContribution env info ++
      .actions ((activationsOf info).map fun group => .activate group (.ofClass info.name))
  | .field _ field =>
    if isInjectionPoint field.markers || isLookup field then
      .actions [.offer (.ofType field.declared)]
    else .done
  | .method _ method =>
    if isInjectionPoint method.markers then
      .actions ((method.params ++ method.returns.toList).map fun type => .offer (.ofType type))
    else .done

def standard : Plugin where
  name := "standard"
  respond := standardResponse

end BeanDiscovery.Plugin
