import BeanDiscovery.Plugin

/-! # The framework's own markers

A test asks for more classes, class paths and packages, leaves classes out and activates alternatives
by markers from the framework's package. Markers from elsewhere and the superclass are followed as
well. -/
namespace BeanDiscovery.Plugin

/-- The contribution of the first use of a framework marker on a class, if there is one. -/
def onMarker (package : String) (info : ClassInfo) (marker : ClassName)
    (contribution : MarkerUse → Contribution) : Contribution :=
  match info.marker? (Vocabulary.relocated marker package) with
  | some found => contribution found
  | none => .done

/-- The classes that a marker refers to: those it mentions, then those it names by text. -/
def markedRefs (marker : MarkerUse) : List ClassRef :=
  marker.value.map .ofClass ++ marker.late.map fun text => .ofName ⟨text⟩

/-- Offers a class and activates it, unless it is an alternative stereotype. -/
def activateAlternative (registry : TypeRegistry) (name : ClassName) : List Action :=
  .offer (.ofClass name) ::
    if (registry.resolve name).any (·.isAlternativeStereotype) then []
    else [.activate .alternative (.ofClass name)]

def foreignMarkers (package : String) (info : ClassInfo) : List ClassName :=
  (info.markers.map (·.name)).filter fun name => name.package ≠ package

def followedSuperclass (info : ClassInfo) : List TypeRef :=
  info.superclass.toList.filter fun type => type.raw? ≠ some Vocabulary.object

def testMarkersOnClass (package : String) (registry : TypeRegistry) (info : ClassInfo) :
    Contribution :=
  .sequence [
    onMarker package info Vocabulary.additionalClasspaths fun marker =>
      .scanArchives marker.value .offers,
    onMarker package info Vocabulary.additionalPackages fun marker =>
      .scanPackages marker.value .offers,
    onMarker package info Vocabulary.additionalClasses fun marker =>
      .actions ((markedRefs marker).map .offer),
    onMarker package info Vocabulary.ignoredClasses fun marker =>
      .actions ((markedRefs marker).map .ignore),
    onMarker package info Vocabulary.activatedAlternatives fun marker =>
      .actions (marker.value.flatMap (activateAlternative registry)),
    .offers (foreignMarkers package info),
    .actions ((followedSuperclass info).map fun type => .offer (.ofType type))]

def testMarkersResponse (package : String) (env : Environment) : HookPoint → Contribution
  | .bootstrap _ => .done
  | .process info => testMarkersOnClass package env.registry info
  | .field _ field =>
    if field.hasMarker (Vocabulary.relocated Vocabulary.ignoredClasses package) then
      .actions [.ignore (.ofType field.declared)]
    else .done
  | .method _ method =>
    if method.hasMarker (Vocabulary.relocated Vocabulary.ignoredClasses package) then
      .actions (method.returns.toList.map fun type => .ignore (.ofType type))
    else .done

def testMarkers (package : String) : Plugin where
  name := "test-tool"
  respond := testMarkersResponse package

end BeanDiscovery.Plugin
