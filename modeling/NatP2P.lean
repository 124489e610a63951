import NatP2P.Billing.Queue.Capacity
import NatP2P.Billing.Nat.Ordering
import NatP2P.Billing.Nat.Signing
import NatP2P.Billing.Relay.Charging
import NatP2P.E2E.DualStream
import NatP2P.E2E.Nonces
import NatP2P.Network.MuxConn
import NatP2P.Network.Writes
import NatP2P.Network.AckTracking
import NatP2P.Network.Handover
import NatP2P.Network.Holdback.Accounting
import NatP2P.Network.FrameSize
import NatP2P.Network.Routes.Attribution
import NatP2P.Network.Failover.Identity
import NatP2P.RelayNode.HostRoutes.Freshness
import NatP2P.RelayNode.HostRoutes.Batches
import NatP2P.Network.Striping.PrefixLaw
import NatP2P.Network.Striping.Transfers
import NatP2P.RelayNode.StripedAccept.Runs
import NatP2P.RelayNode.Revocation.Store
import NatP2P.Network.Mux.Agreement
import NatP2P.Router.Tree
