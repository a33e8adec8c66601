import BeanDiscovery.Contribution

/-! # Plugins

A plugin answers each hook call with a contribution. It is called once before the traversal, and for
every inspected class once for the class, then for each of its fields and for each of its methods.
Probes for libraries belong to the plugin and outlive a run. -/
namespace BeanDiscovery

inductive Stage where
  | bootstrap
  | process
  | field
  | method
  deriving DecidableEq, Inhabited

/-- A point of a run at which every plugin is called. -/
inductive HookPoint where
  | bootstrap (test : ClassName)
  | process (info : ClassInfo)
  | field (info : ClassInfo) (field : FieldInfo)
  | method (info : ClassInfo) (method : MethodInfo)
  deriving Inhabited

namespace HookPoint

def stage : HookPoint → Stage
  | .bootstrap _ => .bootstrap
  | .process _ => .process
  | .field _ _ => .field
  | .method _ _ => .method

def subject : HookPoint → ClassName
  | .bootstrap test => test
  | .process info => info.name
  | .field info _ => info.name
  | .method info _ => info.name

/-- The member that a call is about, empty where it is about none. -/
def member : HookPoint → String
  | .bootstrap _ => ""
  | .process _ => ""
  | .field _ f => f.name
  | .method _ m => m.name

end HookPoint

/-- The points at which plugins are called for an inspected class. -/
def ClassInfo.hookPoints (info : ClassInfo) : List HookPoint :=
  .process info :: (info.fields.map (.field info) ++ info.methods.map (.method info))

structure Plugin where
  name : String
  respond : Environment → HookPoint → Contribution := fun _ _ => .done
  probes : List LibraryProbe := []
  /-- Whether its calls are shown in the account of a run. -/
  observed : Bool := false
  deriving Inhabited

namespace Plugin

def inert (name : String) : Plugin := { name }

end Plugin
end BeanDiscovery
