import XServer.Client.AvatarSelection
import XServer.Client.GameInstance
import XServer.Client.KcpDatagram
import XServer.Client.KcpDownlink
import XServer.Client.KcpInterop
import XServer.Client.KcpLink
import XServer.Client.KcpLoss
import XServer.Client.KcpRecovery
import XServer.Client.KcpScan
import XServer.Client.KcpSession
import XServer.Client.KcpUplink
import XServer.Core.ClusterConfig
import XServer.Core.ConfigErrors
import XServer.Core.ConfigFile
import XServer.Core.ConfigLoad
import XServer.Core.ConfigSchema
import XServer.Core.ConfigSound
import XServer.Core.Json
import XServer.Core.JsonText
import XServer.Core.LogFiles
import XServer.Core.LogLine
import XServer.Core.LogRotation
import XServer.Core.LoopLaws
import XServer.Core.LoopRuns
import XServer.Core.MainEventLoop
import XServer.Core.Timer
import XServer.Ipc.ListenerRuns
import XServer.Ipc.ZmqActiveConnector
import XServer.Ipc.ZmqPassiveListener
import XServer.Ipc.ZmqSocket
import XServer.Lib.Announce
import XServer.Lib.Binary64
import XServer.Lib.Checking
import XServer.Lib.Cycle
import XServer.Lib.Delimited
import XServer.Lib.Fallible
import XServer.Lib.History
import XServer.Lib.Machine
import XServer.Lib.Mail
import XServer.Lib.Phrase
import XServer.Lib.Reads
import XServer.Lib.Scan
import XServer.Lib.Search
import XServer.Lib.Serial
import XServer.Lib.Table
import XServer.Lib.Window
import XServer.Lib.Wire
import XServer.Managed.AvatarDirectory
import XServer.Managed.AvatarSpawn
import XServer.Managed.EntityRpc
import XServer.Managed.EntityRpcRoundTrip
import XServer.Managed.GameProcess
import XServer.Managed.OwnershipApply
import XServer.Managed.PacketCodec
import XServer.Managed.RelayCodec
import XServer.Managed.RuntimeInvariant
import XServer.Managed.RuntimeState
import XServer.Managed.TimerDelay
import XServer.Managed.TimerScheduler
import XServer.Net.BinaryBuffer
import XServer.Net.BufferCalls
import XServer.Net.ByteOrder
import XServer.Net.EntryReserve
import XServer.Net.FixedMessages
import XServer.Net.Ikcp
import XServer.Net.IkcpReceive
import XServer.Net.IkcpSend
import XServer.Net.IkcpStream
import XServer.Net.InnerCluster
import XServer.Net.KcpPeer
import XServer.Net.Packet
import XServer.Net.PacketExact
import XServer.Net.Register
import XServer.Net.Relay
import XServer.Net.Serialization
import XServer.Node.AvatarCreate
import XServer.Node.AvatarLink
import XServer.Node.ClientLink
import XServer.Node.ClientNetwork
import XServer.Node.ClientSession
import XServer.Node.Cluster
import XServer.Node.ConversationSearch
import XServer.Node.GameAct
import XServer.Node.GameLink
import XServer.Node.GameMesh
import XServer.Node.GameNode
import XServer.Node.GameOwnership
import XServer.Node.GamePeer
import XServer.Node.GameProvenance
import XServer.Node.GateAccounts
import XServer.Node.GateAct
import XServer.Node.GateAdmission
import XServer.Node.GateAnswer
import XServer.Node.GateAvatar
import XServer.Node.GateBook
import XServer.Node.GateChange
import XServer.Node.GateLink
import XServer.Node.GateNode
import XServer.Node.GateReady
import XServer.Node.GateRelay
import XServer.Node.GateRoutes
import XServer.Node.GateSelect
import XServer.Node.GateSessions
import XServer.Node.GateTargets
import XServer.Node.GateTraffic
import XServer.Node.GmBroadcast
import XServer.Node.GmControlHttp
import XServer.Node.GmNode
import XServer.Node.GmOnline
import XServer.Node.GmPeers
import XServer.Node.GmRegister
import XServer.Node.GmStartup
import XServer.Node.GmStubs
import XServer.Node.Heartbeat
import XServer.Node.HeartbeatTimer
import XServer.Node.HttpConnection
import XServer.Node.HttpRequest
import XServer.Node.HttpRoundTrip
import XServer.Node.InnerNetwork
import XServer.Node.InnerSession
import XServer.Node.MeshReport
import XServer.Node.OwnershipAgreement
import XServer.Node.QueryDecoding
import XServer.Node.ReceiveLoop
import XServer.Node.Reregister
import XServer.Node.SessionLifecycle
import XServer.Node.SessionMaps
import XServer.Node.SessionStore
