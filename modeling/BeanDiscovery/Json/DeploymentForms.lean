import BeanDiscovery.Descriptor
import BeanDiscovery.DiscoveryGraph
import BeanDiscovery.Json.Writer

/-! # The JSON text of deployments and graphs

Both are written over several lines. A graph is written as the list of its nodes and the pairs of
their positions that edges join. -/
namespace BeanDiscovery

def ClassName.listToJson (names : List ClassName) : Json := .strings (names.map (·.text))

def ExtensionRegistration.toJson (registration : ExtensionRegistration) : Json :=
  .object [
    ("name", .string registration.extension.name), ("location", .string registration.location)]

def Descriptor.toJson (descriptor : Descriptor) : Json :=
  .object [
    ("discovered_classes", ClassName.listToJson descriptor.discovered.toList),
    ("enabled_alternatives", ClassName.listToJson descriptor.alternatives),
    ("enabled_interceptors", ClassName.listToJson descriptor.interceptors),
    ("enabled_decorators", ClassName.listToJson descriptor.decorators),
    ("enabled_alternative_stereotypes",
      ClassName.listToJson descriptor.alternativeStereotypes),
    ("extensions", .array (descriptor.extensions.map (·.toJson)))]

def Descriptor.text (descriptor : Descriptor) : String := descriptor.toJson.pretty

/-- An edge as the positions of its ends and an empty weight. -/
def DiscoveryGraph.edgeToJson (graph : DiscoveryGraph) (edge : ClassName × ClassName) : Json :=
  .array [
    .natural (graph.nodes.toList.idxOf edge.1), .natural (graph.nodes.toList.idxOf edge.2), .null]

def DiscoveryGraph.toJson (graph : DiscoveryGraph) : Json :=
  .object [("topology", .object [
    ("nodes", ClassName.listToJson graph.nodes.toList),
    ("node_holes", .array []),
    ("edge_property", .string "directed"),
    ("edges", .array (graph.edges.toList.map graph.edgeToJson))])]

def DiscoveryGraph.text (graph : DiscoveryGraph) : String := graph.toJson.pretty

end BeanDiscovery
