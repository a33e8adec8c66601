import BeanDiscovery.Context
import BeanDiscovery.DiscoveryError
import BeanDiscovery.LibraryProbe

/-! # What a plugin contributes

A contribution is a finite program over a context. It acts, scans and goes on with the names that
were found, asks whether a library is there, or fails and gives up the rest. The main statements say
that contributions are performed one after the other and that what one does to the context are the
steps it takes. -/
namespace BeanDiscovery

/-- Something a plugin has learned and wants to be kept. -/
inductive Answer where
  | names (names : List ClassName)
  | flag (value : Bool)
  | configuration (configuration : TestConfiguration)
  deriving DecidableEq, Inhabited

inductive Contribution where
  | done
  | fail (error : DiscoveryError)
  | act (action : Action) (rest : Contribution)
  | scanArchives (bases : List ClassName) (next : List ClassName → Contribution)
  | scanPackages (bases : List ClassName) (next : List ClassName → Contribution)
  /-- Asks the plugin's probe for a library. -/
  | consult (sentinel : ClassName) (next : Bool → Contribution)
  | note (answer : Answer) (rest : Contribution)
  deriving Inhabited

/-- What a contribution works on: the context, the plugin's probes and its answers so far. -/
structure Call where
  context : Context
  probes : List LibraryProbe := []
  answers : List Answer := []
  failure : Option DiscoveryError := none
  deriving Inhabited

namespace Contribution

/-- One contribution after another; a failure of the first one gives up both. -/
def append : Contribution → Contribution → Contribution
  | .done, second => second
  | .fail error, _ => .fail error
  | .act action rest, second => .act action (rest.append second)
  | .scanArchives bases next, second => .scanArchives bases fun names => (next names).append second
  | .scanPackages bases next, second => .scanPackages bases fun names => (next names).append second
  | .consult sentinel next, second => .consult sentinel fun answer => (next answer).append second
  | .note answer rest, second => .note answer (rest.append second)

instance : Append Contribution := ⟨append⟩

def sequence (contributions : List Contribution) : Contribution :=
  contributions.foldr (· ++ ·) .done

def actions (steps : List Action) : Contribution := steps.foldr .act .done

def offers (names : List ClassName) : Contribution :=
  actions (names.map fun name => .offer (.ofClass name))

def perform (env : Environment) : Contribution → Call → Call
  | .done, call => call
  | .fail error, call => { call with failure := some error }
  | .act action rest, call =>
    rest.perform env { call with context := call.context.perform env action }
  | .scanArchives bases next, call =>
    let (names, context) := call.context.scanArchives env bases
    (next names).perform env { call with context }
  | .scanPackages bases next, call =>
    let (names, context) := call.context.scanPackages env bases
    (next names).perform env { call with context }
  | .consult sentinel next, call =>
    let (answer, probes) := LibraryProbe.askAmong env.registry sentinel call.probes
    (next answer).perform env { call with probes }
  | .note answer rest, call =>
    rest.perform env { call with answers := call.answers ++ [answer] }

/-- Unless the first contribution fails, the second one goes on where it stopped. -/
theorem perform_append (env : Environment) (first second : Contribution) (call : Call)
    (h : (first.perform env call).failure = none) :
    (first ++ second).perform env call = second.perform env (first.perform env call) := by
  change (first.append second).perform env call = _
  induction first generalizing call with
  | done => rfl
  | fail error => simp [perform] at h
  | act action rest ih => exact ih _ h
  | scanArchives bases next ih => exact ih _ _ h
  | scanPackages bases next ih => exact ih _ _ h
  | consult sentinel next ih => exact ih _ _ h
  | note answer rest ih => exact ih _ h

/-- The steps that a contribution takes, up to its end or its failure. -/
def steps (env : Environment) : Contribution → Call → List HookStep
  | .done, _ => []
  | .fail _, _ => []
  | .act action rest, call =>
    .act action :: rest.steps env { call with context := call.context.perform env action }
  | .scanArchives bases next, call =>
    let (names, context) := call.context.scanArchives env bases
    .scanArchives bases :: (next names).steps env { call with context }
  | .scanPackages bases next, call =>
    let (names, context) := call.context.scanPackages env bases
    .scanPackages bases :: (next names).steps env { call with context }
  | .consult sentinel next, call =>
    let (answer, probes) := LibraryProbe.askAmong env.registry sentinel call.probes
    (next answer).steps env { call with probes }
  | .note answer rest, call =>
    rest.steps env { call with answers := call.answers ++ [answer] }

/-- The steps are all that a contribution does to the context. -/
theorem context_perform (env : Environment) (contribution : Contribution) (call : Call) :
    (contribution.perform env call).context =
      call.context.takeAll env (contribution.steps env call) := by
  induction contribution generalizing call with
  | done => rfl
  | fail error => rfl
  | act action rest ih => exact ih _
  | scanArchives bases next ih => exact ih _ _
  | scanPackages bases next ih => exact ih _ _
  | consult sentinel next ih => exact ih _ _
  | note answer rest ih => exact ih _

end Contribution
end BeanDiscovery
