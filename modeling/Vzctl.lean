import Vzctl.Reconciler.Resume
import Vzctl.Network.Allocation
import Vzctl.Network.AddressPlan
import Vzctl.Network.StableIdentity
import Vzctl.Supervisor.HelperGenerations
import Vzctl.Router.Convergence
import Vzctl.Edge.HostFirewall
import Vzctl.Edge.HostNetworkReconciler
import Vzctl.Edge.NumericFields
import Vzctl.Supervisor.SupersededRecovery
import Vzctl.Supervisor.FallbackRestores
import Vzctl.DNS.GuestHorizon
import Vzctl.Edge.EdgeAgreement
import Vzctl.Supervisor.EdgeRejections
import Vzctl.Ingress.GuestWarning
import Vzctl.Controllers.ClaimRoutes
import Vzctl.GuestAgent.TTYSession
import Vzctl.GuestAgent.ExecOutcome
import Vzctl.Certificates.CertificateRuns
import Vzctl.Controllers.SnapshotRuns
import Vzctl.Controllers.DeliveredCredentials
import Vzctl.Controllers.PostgresRuns
import Vzctl.Supervisor.NetworkStop
import Vzctl.DNS.SystemDNSResolver
import Vzctl.Supervisor.PercentEncoding
import Vzctl.Supervisor.RestServer
import Vzctl.Supervisor.RestStatusCache
import Vzctl.Supervisor.JobProcessRunner
import Vzctl.Kubernetes.OwnershipChecks
import Vzctl.Kubernetes.FieldAlgebra
import Vzctl.Images.ImageChecksums
import Vzctl.Helper.ConsoleServer
import Vzctl.GuestAgent.LoopbackRequests
import Vzctl.GuestAgent.StatsRange
import Vzctl.Network.AddressArithmetic
import Vzctl.Apply.FinishTransaction
import Vzctl.Reconciler.ComposeClosure
import Vzctl.Router.PolicyAssignment
import Vzctl.Reconciler.RepeatedNetworks
import Vzctl.Supervisor.JobBookkeeping
import Vzctl.Supervisor.FairTicks
import Vzctl.Kubernetes.RolloutWrites
import Vzctl.Reconciler.NewContainers
import Vzctl.Editor.UndoTimeline
import Vzctl.Editor.SaveFlag
import Vzctl.Mounts.FlagRoundTrip
import Vzctl.Oidc.ClientCallbacks
import Vzctl.DNS.ServedScopes
import Vzctl.Controllers.ProvisionSql
import Vzctl.Editor.TopologyAddresses
import Vzctl.Docker.DockerArgs
import Vzctl.Edge.EdgeGenerations
import Vzctl.Reconciler.NextPlan
