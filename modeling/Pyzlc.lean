import Pyzlc.Foundation.Text
import Pyzlc.Foundation.Dict
import Pyzlc.Foundation.Entries
import Pyzlc.Foundation.Serials
import Pyzlc.Foundation.Machine
import Pyzlc.Foundation.Inevitable
import Pyzlc.Foundation.Effect
import Pyzlc.Foundation.Attempts
import Pyzlc.Foundation.Visits
import Pyzlc.Foundation.While
import Pyzlc.Foundation.BigEndian
import Pyzlc.Foundation.Padding
import Pyzlc.Foundation.MessagePack
import Pyzlc.Foundation.Reader
import Pyzlc.Foundation.Writer
import Pyzlc.Foundation.Versioned
import Pyzlc.Foundation.Channel
import Pyzlc.Foundation.Simulation
import Pyzlc.Foundation.ServerQueue
import Pyzlc.Foundation.Path
import Pyzlc.Utils.Exception
import Pyzlc.Utils.Event
import Pyzlc.Utils.NodeInfo
import Pyzlc.Utils.NodeInfoFormat
import Pyzlc.Utils.Msg
import Pyzlc.Utils.HeartbeatFormat
import Pyzlc.Utils.Subnet
import Pyzlc.Utils.Msgpack
import Pyzlc.Utils.PyObject
import Pyzlc.Utils.Request
import Pyzlc.Utils.RequestOutcomes
import Pyzlc.Utils.PyInt
import Pyzlc.Utils.VersionSuffix
import Pyzlc.Utils.Version
import Pyzlc.Nodes.NodesInfoManager
import Pyzlc.Nodes.Registry
import Pyzlc.Nodes.ManagerSpec
import Pyzlc.Nodes.Discovery
import Pyzlc.Nodes.RegistryInvariant
import Pyzlc.Nodes.HeartbeatMonitor
import Pyzlc.Nodes.Versions
import Pyzlc.Nodes.HeartbeatEffect
import Pyzlc.Nodes.Pair
import Pyzlc.Nodes.VersionAgreement
import Pyzlc.Nodes.UntypedRegistry
import Pyzlc.Nodes.RejectedReplies
import Pyzlc.Nodes.TypedReplies
import Pyzlc.Nodes.UpdateHandlers
import Pyzlc.Nodes.RegistryRefinement
import Pyzlc.Nodes.Multicast
import Pyzlc.Nodes.GroupDelivery
import Pyzlc.Nodes.MulticastLoops
import Pyzlc.Nodes.MulticastStop
import Pyzlc.Nodes.FormatAgreement
import Pyzlc.Nodes.Network
import Pyzlc.Nodes.Growth
import Pyzlc.Nodes.Views
import Pyzlc.Nodes.FineNetwork
import Pyzlc.Nodes.ReadInParts
import Pyzlc.Nodes.KnownMoments
import Pyzlc.Nodes.Convergence
import Pyzlc.Nodes.FailureDetector
import Pyzlc.Nodes.ServiceNames
import Pyzlc.Nodes.LoopManager
import Pyzlc.Nodes.ExecutorTasks
import Pyzlc.Nodes.ExecutorShutdown
import Pyzlc.Nodes.ExecutorLedger
import Pyzlc.Nodes.ExecutorResolution
import Pyzlc.Nodes.ExecutorQueue
import Pyzlc.Nodes.TaskLoop
import Pyzlc.Nodes.TaskLoopStop
import Pyzlc.Nodes.LanComNode
import Pyzlc.Nodes.NodeLifecycle
import Pyzlc.Sockets.ServiceManager
import Pyzlc.Sockets.ServiceLoop
import Pyzlc.Sockets.ServiceHandler
import Pyzlc.Sockets.Payloads
import Pyzlc.Sockets.SubscriberManager
import Pyzlc.Sockets.Announcements
import Pyzlc.Sockets.RefusedConnections
import Pyzlc.Sockets.FailingHandlers
import Pyzlc.Sockets.ServiceReplies
import Pyzlc.Sockets.ServiceCalls
import Pyzlc.Sockets.BoundedWait
import Pyzlc.Sockets.RemoteCalls
import Pyzlc.Sockets.HandlerPool
import Pyzlc.Sockets.HandlerCalls
import Pyzlc.Sockets.Subscriptions
import Pyzlc.Sockets.OwnConnections
import Pyzlc.Sockets.Rendezvous
import Pyzlc.Sockets.ManagedSubscribers
import Pyzlc.Sockets.AddSubscriber
import Pyzlc.Sockets.TopicIsolation
import Pyzlc.Sockets.OneConnection
import Pyzlc.Sockets.ReceiveLoop
import Pyzlc.Sockets.PubSub
import Pyzlc.Sockets.SubscriberConnections
import Pyzlc.Sockets.Streamer
import Pyzlc.Sockets.StreamerYields
import Pyzlc.Sockets.StreamerRate
import Pyzlc.Sockets.NodeInfoExchange
import Pyzlc.Sockets.InfoService
import Pyzlc.Package.ServiceRegistration
import Pyzlc.Package.WaitForService
