import LfpPipe.TransitionRuns
import LfpPipe.LayeredSettings
import LfpPipe.ChunkedReads
import LfpPipe.Fallible
import LfpPipe.OwnedTables
import LfpPipe.NewestRecords
import LfpPipe.RecentEntries
import LfpPipe.GreatestElements
import LfpPipe.RotatingCursor
import LfpPipe.DevicePresence
import LfpPipe.RemotePrograms
import LfpPipe.JsonValues
import LfpPipe.AuthentikApi
import LfpPipe.ServicePrincipals
import LfpPipe.PrincipalCreation
import LfpPipe.DefaultDocuments
import LfpPipe.StoredConfigurations
import LfpPipe.OwnershipIndependence
import LfpPipe.OwnershipMediation
import LfpPipe.IdentityProvisioning
import LfpPipe.ManagedClients
import LfpPipe.ProvisioningRaces
import LfpPipe.ProgramProtocols
import LfpPipe.ProvisioningAttempts
import LfpPipe.ProvisioningRetries
import LfpPipe.SubjectPatterns
import LfpPipe.RustText
import LfpPipe.SharedHttp
import LfpPipe.SharedConfig
import LfpPipe.SharedRouting
import LfpPipe.SubjectRouting
import LfpPipe.ConfigExpansion
import LfpPipe.IngressPreface
import LfpPipe.IngressClaims
import LfpPipe.IngressPairing
import LfpPipe.ClaimSelection
import LfpPipe.IngressOwnership
import LfpPipe.IngressSafety
import LfpPipe.IngressHistory
import LfpPipe.IngressDelivery
import LfpPipe.IngressCapacity
import LfpPipe.HttpMessages
import LfpPipe.ClientIdentity
import LfpPipe.ClientAuthorizer
import LfpPipe.ClientSession
import LfpPipe.PathSelection
import LfpPipe.PatternCase
import LfpPipe.PolicyResolution
import LfpPipe.StartupValidation
import LfpPipe.ClientProxy
import LfpPipe.PrefixRewriting
import LfpPipe.CoupledRuns
import LfpPipe.PreparedRequests
import LfpPipe.ForwardedIdentities
import LfpPipe.ForwardedCredentials
import LfpPipe.ClientBridge
import LfpPipe.ClientInspection
import LfpPipe.RoutableClaims
import LfpPipe.ClaimProtocol
import LfpPipe.SessionRoles
import LfpPipe.CentralConfig
import LfpPipe.GoText
import LfpPipe.RouteAuth
import LfpPipe.EntitlementMatching
import LfpPipe.SubjectAgreement
import LfpPipe.TunnelTickets
import LfpPipe.SignInFlows
import LfpPipe.TenantIsolation
import LfpPipe.DeviceEnrollment
import LfpPipe.EnrollmentSafety
import LfpPipe.EnrollmentDisclosure
import LfpPipe.Base64
import LfpPipe.SharedPrefix
import LfpPipe.ByteSockets
import LfpPipe.RawTunnel
import LfpPipe.TunnelTransparency
import LfpPipe.TomlValues
import LfpPipe.ConfigDecoding
import LfpPipe.ConsoleModel
import LfpPipe.RouteAcceptance
import LfpPipe.ConsoleTruth
import LfpPipe.ConfigEditor
import LfpPipe.ConsoleSoundness
import LfpPipe.VerificationKeys
import LfpPipe.PrefixFraming
import LfpPipe.UrlReferences
import LfpPipe.ReturnTargets
import LfpPipe.SegmentPaths
import LfpPipe.ConsoleReturns
import LfpPipe.FlowCookieSpace
import LfpPipe.RouteNamespaces
import LfpPipe.EndpointOwnership
import LfpPipe.CacheDirectories
import LfpPipe.TicketClients
import LfpPipe.StableIdentifiers
import LfpPipe.SniRoutes
import LfpPipe.KeyPersistence
import LfpPipe.KeyRefresh
import LfpPipe.RequestDelivery
import LfpPipe.ConfigPush
import LfpPipe.ProtocolPermissions
import LfpPipe.AuthorizationCodes
import LfpPipe.ConsoleSessions
import LfpPipe.RouteSessions
import LfpPipe.LaunchSettings
import LfpPipe.IngressLaunch
import LfpPipe.ClientLaunch
import LfpPipe.KeyMaterial
import LfpPipe.TableEdits
import LfpPipe.DocumentEdits
import LfpPipe.ConsoleProvisioning
