import BeanDiscovery.Plugin

/-! # Scripted plugins

A plugin given by rules: at a hook call, every rule that matches makes its requests, rule after rule.
The answers to the requests are kept. -/
namespace BeanDiscovery.Plugin

inductive Request where
  | act (action : Action)
  | scanArchives (bases : List ClassName)
  | scanPackages (bases : List ClassName)
  | configuration
  | isPresent (name : ClassName)
  /-- Whether a class is an extension type; a class that cannot be loaded gets no answer. -/
  | isExtensionType (name : ClassName)
  | fail (error : DiscoveryError)
  | failInstantiation (cause : String)
  deriving Inhabited

structure Rule where
  stage : Stage
  subject : Option ClassName := none
  member : Option String := none
  requests : List Request := []
  deriving Inhabited

def Request.contribution (env : Environment) (subject : ClassName) : Request → Contribution
  | .act action => .act action .done
  | .scanArchives bases => .scanArchives bases fun names => .note (.names names) .done
  | .scanPackages bases => .scanPackages bases fun names => .note (.names names) .done
  | .configuration => .note (.configuration env.configuration) .done
  | .isPresent name => .note (.flag (env.registry.isPresent name)) .done
  | .isExtensionType name =>
    match env.registry.resolve name with
    | some info => .note (.flag (env.container.isExtensionType info)) .done
    | none => .done
  | .fail error => .fail error
  | .failInstantiation cause => .fail (.extensionInstantiation subject cause)

/-- A rule without a class or a member matches every one. -/
def Rule.appliesTo (rule : Rule) (point : HookPoint) : Bool :=
  rule.stage = point.stage && rule.subject.all (· = point.subject) &&
    rule.member.all (· = point.member)

def scripted (name : String) (rules : List Rule) : Plugin where
  name
  respond := fun env point =>
    .sequence (((rules.filter (·.appliesTo point)).flatMap (·.requests)).map
      (·.contribution env point.subject))
  observed := true

end BeanDiscovery.Plugin
