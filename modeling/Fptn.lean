import Fptn.Client.DnsExchange
import Fptn.Client.ServerRace
import Fptn.Common.PacketChannel
import Fptn.Common.UserFile
import Fptn.Connection.PoolAccounts
import Fptn.Connection.PoolSend
import Fptn.Connection.RenewalPace
import Fptn.Connection.StopRace
import Fptn.Connection.TunnelLifetimes
import Fptn.Https.DecompressGzip
import Fptn.NatTable.AddressPool
import Fptn.NatTable.FailedConnection
import Fptn.NatTable.Ipv6Keys
import Fptn.Network.AddressRewrite
import Fptn.Network.ChecksumValid
import Fptn.Network.ClientHello
import Fptn.Network.DnsAccess
import Fptn.Network.DnsAnswers
import Fptn.Network.FlightReaders
import Fptn.Network.FlightRecords
import Fptn.Network.PacketBounds
import Fptn.Network.TlsAccess
import Fptn.Network.TunSender
import Fptn.Obfuscator.Detach
import Fptn.Obfuscator.Detection
import Fptn.Obfuscator.InputBuffer
import Fptn.Obfuscator.RecordSizes
import Fptn.Obfuscator.RoundTrip
import Fptn.Plugin.SplitTunnel
import Fptn.Protocol.YaffSerializer
import Fptn.Routing.ClientRoutes
import Fptn.Routing.ServerRoutes
import Fptn.Vpn.AnswerPath
import Fptn.Vpn.ClientTunnel
import Fptn.Vpn.PacketOrder
import Fptn.Vpn.PacketWorker
import Fptn.Vpn.SubnetFilter
import Fptn.Vpn.Supervisor
import Fptn.Vpn.TunnelStream
import Fptn.Web.ApiLogin
import Fptn.Web.Authentication
import Fptn.Web.Bandwidth
import Fptn.Web.BatchSender
import Fptn.Web.HandshakeAgreement
import Fptn.Web.HandshakeCache
import Fptn.Web.Lifecycle
import Fptn.Web.ProxyRelay
import Fptn.Web.SessionLimit
import Fptn.Web.Shutdown
import Fptn.Web.SniPolicy
