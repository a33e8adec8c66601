import BeanDiscovery.ClassName

/-! # Failures of discovery -/
namespace BeanDiscovery

/-- Why a discovery or a start failed. -/
inductive DiscoveryError where
  | extensionInstantiation (name : ClassName) (cause : String)
  | config (reason : String)
  | container (reason : String)
  deriving DecidableEq, Inhabited

/-- The text that reports a failure. -/
def DiscoveryError.message : DiscoveryError → String
  | extensionInstantiation name cause =>
    "failed to instantiate container extension " ++ name.text ++ ": " ++ cause
  | config reason => "Configuration error: " ++ reason
  | container reason => "Container error: " ++ reason

end BeanDiscovery
