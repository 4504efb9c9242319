import Networkrs.AttributeOrder
import Networkrs.CommandLine
import Networkrs.Correlation
import Networkrs.Ethtool
import Networkrs.EventStream
import Networkrs.HealthyVerdict
import Networkrs.JsonRoundTrip
import Networkrs.MalformedRecord
import Networkrs.Packing
import Networkrs.ProcNet
import Networkrs.ScanTraffic
import Networkrs.Watch
import Networkrs.ParserSafety
import Networkrs.Dns
import Networkrs.NextHops
import Networkrs.ProbePorts
import Networkrs.Wifi
import Networkrs.Lib.Once
import Networkrs.TargetOnce
import Networkrs.Lib.Gather
import Networkrs.EchoSchedule
import Networkrs.FlagWords
import Networkrs.SocketTable
import Networkrs.Statistics
import Networkrs.DefaultRoute
import Networkrs.PingStatistics
import Networkrs.Lib.Fork
import Networkrs.Resolver
import Networkrs.Traffic
import Networkrs.DualStack
import Networkrs.CidrArithmetic
import Networkrs.Checksum
import Networkrs.Ssid
import Networkrs.RouteLookup
import Networkrs.ErrorCodes
import Networkrs.IpDiagnostics
import Networkrs.KernelLinks
import Networkrs.KernelLookup
import Networkrs.Lib.Grouped
import Networkrs.SocketProcesses
import Networkrs.Probe
import Networkrs.EthtoolDevices
import Networkrs.WifiRecords
import Networkrs.WifiSnapshot
import Networkrs.AddressText
import Networkrs.JsonReports
import Networkrs.ScanReport
import Networkrs.TrafficScreen
import Networkrs.InterfaceReport
import Networkrs.Selection
