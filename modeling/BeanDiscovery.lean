import BeanDiscovery.Bootstrap
import BeanDiscovery.Json.ClassForms
import BeanDiscovery.Json.ConfigForm
import BeanDiscovery.Json.DeploymentForms
import BeanDiscovery.Plugin.DefaultSet
import BeanDiscovery.Plugin.Scripted
import BeanDiscovery.ThreadCount
import BeanDiscovery.Proofs.Deployment
import BeanDiscovery.Proofs.DiscoveryForest
import BeanDiscovery.Proofs.Expansions
import BeanDiscovery.Proofs.StaticClosure
import BeanDiscovery.Proofs.RegistrationLists
import BeanDiscovery.Proofs.UnbuiltExtensions
import BeanDiscovery.Proofs.Starts
import BeanDiscovery.Proofs.HookSchedule
import BeanDiscovery.Proofs.WorklistOperations
import BeanDiscovery.Proofs.ScanRequests
import BeanDiscovery.Proofs.ScanSessions
import BeanDiscovery.Proofs.ExactAnswers
import BeanDiscovery.Proofs.RepeatedRuns
import BeanDiscovery.Proofs.Ignores
import BeanDiscovery.Proofs.SparedRuns
import BeanDiscovery.Proofs.Admissions
import BeanDiscovery.Proofs.AgreeingEnvironments
import BeanDiscovery.Proofs.UnreachedClasses
import BeanDiscovery.Proofs.DeclarationOrder
import BeanDiscovery.Proofs.AbsentLibraries
import BeanDiscovery.Proofs.RelocatedRuns
import BeanDiscovery.Proofs.PackageListings
import BeanDiscovery.Proofs.ShortenedForms
import BeanDiscovery.Proofs.MockedTypes
import BeanDiscovery.Proofs.SingleOffers
import BeanDiscovery.Proofs.RegistryHistories
import BeanDiscovery.Proofs.LateNames
import BeanDiscovery.Proofs.RecordedGraphs
import BeanDiscovery.Proofs.EnvironmentOverrides
