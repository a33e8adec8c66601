/-! # Locations

A location is a URL in its normal form. Two locations are the same when their texts are: the root
of a class path with a trailing slash differs from the one without it. -/
namespace BeanDiscovery

structure Url where
  text : String
  deriving DecidableEq, Inhabited

end BeanDiscovery
