import NetbirdOperator.ControlLoop.Store
import NetbirdOperator.ControlLoop.Pass
import NetbirdOperator.ControlLoop.Run
import NetbirdOperator.ControlLoop.Objects
import NetbirdOperator.ControlLoop.Stake
import NetbirdOperator.Reconcile
import NetbirdOperator.ListCache
import NetbirdOperator.ReverseProxyCluster.Model
import NetbirdOperator.ReverseProxyCluster.Effects
import NetbirdOperator.ReverseProxyCluster.Sharing
import NetbirdOperator.ReverseProxyCluster.Cleanup
import NetbirdOperator.GatewayAPI.Model
import NetbirdOperator.GatewayAPI.Admission
import NetbirdOperator.GatewayAPI.Exposure
import NetbirdOperator.Mirror
import NetbirdOperator.DNSZone.Model
import NetbirdOperator.DNSZone.Effects
import NetbirdOperator.DNSZone.Survivors
import NetbirdOperator.DNSZone.Cleanup
import NetbirdOperator.DNSZone.FixedPoint
import NetbirdOperator.DNSRecord.Model
import NetbirdOperator.DNSRecord.Sharing
import NetbirdOperator.SetupKey.Model
import NetbirdOperator.SetupKey.Rotation
import NetbirdOperator.NetworkRouter.Model
import NetbirdOperator.NetworkRouter.PeerGroup
import NetbirdOperator.Group.Membership
import NetbirdOperator.GatewayAPI.Passes
import NetbirdOperator.GatewayAPI.RouteStatus
import NetbirdOperator.GatewayAPI.Isolation
import NetbirdOperator.ReverseProxyService.Model
import NetbirdOperator.GatewayAPI.Backends
import NetbirdOperator.GatewayAPI.PathRouting
import NetbirdOperator.LoadBalancer.Model
import NetbirdOperator.ControlLoop.Keyed
import NetbirdOperator.LoadBalancer.Effects
import NetbirdOperator.ReverseProxyCluster.Records
import NetbirdOperator.LoadBalancer.Children
import NetbirdOperator.LoadBalancer.Addresses
import NetbirdOperator.LoadBalancer.WakeUps
import NetbirdOperator.ReverseProxyCluster.Status
import NetbirdOperator.Gateway.Model
import NetbirdOperator.Gateway.Effects
import NetbirdOperator.Gateway.Status
import NetbirdOperator.LoadBalancer.Naming
import NetbirdOperator.ReverseProxyService.Apply
import NetbirdOperator.ReverseProxyService.PortDomains
import NetbirdOperator.LoadBalancer.ProxyGroups
import NetbirdOperator.Mirror.Shelf
import NetbirdOperator.Network.Model
import NetbirdOperator.NetworkResource.Model
import NetbirdOperator.Mirror.Kinds
import NetbirdOperator.NetworkRouter.Effects
import NetbirdOperator.Coherence.ChildIDs
import NetbirdOperator.Coherence.Finalizers
import NetbirdOperator.Coherence.Controllers
import NetbirdOperator.Coherence.SelfHealing
import NetbirdOperator.ReverseProxyCluster.Tokens
import NetbirdOperator.ControlLoop.Adoption
import NetbirdOperator.DNSZone.Adoption
import NetbirdOperator.DNSRecord.Adoption
import NetbirdOperator.ControlLoop.Ledger
import NetbirdOperator.Mirror.LostWrites
import NetbirdOperator.Coherence.LostWrites
import NetbirdOperator.Sorting
import NetbirdOperator.ReverseProxyService.Rendering
import NetbirdOperator.Gateway.Attachment
import NetbirdOperator.ListCache.History
import NetbirdOperator.LoadBalancer.ListOrder
import NetbirdOperator.ReverseProxyService.Ordering
import NetbirdOperator.SetupKey.Consistency
import NetbirdOperator.ControlLoop.Desired
import NetbirdOperator.GatewayAPI.Representable
import NetbirdOperator.GatewayAPI.Convergence
import NetbirdOperator.ClusterProxy.Model
import NetbirdOperator.Coherence.ChildNames
import NetbirdOperator.DNSNames
import NetbirdOperator.ReverseProxyService.DialedPort
import NetbirdOperator.GatewayAPI.RouteNames
import NetbirdOperator.PodWebhook.Model
import NetbirdOperator.IPText
import NetbirdOperator.PodWebhook.Injection
import NetbirdOperator.Coherence.AddressRecords
import NetbirdOperator.Coherence.ReadyTruth
import NetbirdOperator.Coherence.RouteToService
import NetbirdOperator.Gateway.GatewayQueue
import NetbirdOperator.Gateway.ManagedClass
import NetbirdOperator.Coherence.RoutingPeers
import NetbirdOperator.Coherence.Teardown
import NetbirdOperator.ReverseProxyCluster.Registered
import NetbirdOperator.Coherence.NetworkMoves
import NetbirdOperator.ClusterProxy.ProxyQueue
import NetbirdOperator.Coherence.Recovery
import NetbirdOperator.DNSZone.Renames
