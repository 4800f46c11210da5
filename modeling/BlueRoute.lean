import BlueRoute.Core.NapAdmission.Accounting
import BlueRoute.Core.TopologyRecovery.FixedPoint
import BlueRoute.Linux.Pan.Safety
import BlueRoute.Core.RouteRecovery
import BlueRoute.Linux.RouteExecutor
import BlueRoute.Daemon.PeerTrust.Authorization
import BlueRoute.Protocol.SessionAgreement
import BlueRoute.Daemon.RegisteredTransport.Ownership
import BlueRoute.Daemon.ControlListener.Gating
import BlueRoute.Daemon.JoinNetwork.Exclusion
import BlueRoute.Daemon.SingleStar.Agreement
import BlueRoute.Protocol.SessionStream.Runs
import BlueRoute.Protocol.Session.Registry
import BlueRoute.Protocol.Session.Pacing
import BlueRoute.Daemon.AttemptSocket
import BlueRoute.Core.Topology.Integrity
import BlueRoute.Core.ForwardingPolicy
import BlueRoute.Core.RoutePlanner.Reachability
import BlueRoute.Core.TopologyRecoveryFlow.Backoff
import BlueRoute.Linux.Forwarding.Lease
import BlueRoute.Core.SegmentAllocator.Bootstrap
import BlueRoute.Linux.RouteProjection.Agreement
import BlueRoute.Daemon.NapControl.Confirmation
import BlueRoute.Linux.Pan.Loss
import BlueRoute.Linux.MembershipStore.RoundTrip
import BlueRoute.Daemon.PeerPinStore.Registry
import BlueRoute.Protocol.Handshake
import BlueRoute.Protocol.Control.Strictness
import BlueRoute.Linux.PrefixArithmetic
import BlueRoute.Protocol.ControlIo
