import BeanDiscovery.DiscoveryConfig
import BeanDiscovery.DiscoveryError
import BeanDiscovery.Json.Form

/-! # The JSON form of configurations

Every field may be left out. -/
namespace BeanDiscovery
open JsonForm Json

instance : JsonForm DiscoveryConfig where
  encode config := .object [
    ("classpath", encode config.classpath), ("scan_threads", encode config.scanThreads),
    ("bean_archive_descriptors", encode config.descriptors),
    ("framework_package", encode config.frameworkPackage)]
  decode json := do
    let unset : DiscoveryConfig := {}
    match slots ["classpath", "scan_threads", "bean_archive_descriptors", "framework_package"]
        json with
    | some [classpath, scanThreads, descriptors, frameworkPackage] =>
      return {
        classpath := ← classpath.orDefault unset.classpath
        scanThreads := ← scanThreads.orDefault unset.scanThreads
        descriptors := ← descriptors.orDefault unset.descriptors
        frameworkPackage := ← frameworkPackage.orDefault unset.frameworkPackage }
    | _ => none

/-- The configuration that a text holds. -/
def DiscoveryConfig.ofText (text : String) : Except DiscoveryError DiscoveryConfig :=
  match JsonForm.read? text with
  | some config => .ok config
  | none => .error (.config "invalid discovery config")

end BeanDiscovery
