import Landscape.Nat4.Conservation
import Landscape.Route.FlowTargets
import Landscape.Route.SlotShares
import Landscape.Flow.DstIpPrecedence
import Landscape.Nat4.StaticConverge
import Landscape.Neigh.Truthful
import Landscape.Route.LanCache
import Landscape.Chain.Traversal
import Landscape.Firewall.Alike
import Landscape.Flow.DstIpInForce
import Landscape.Dhcp4.Pool
import Landscape.Dhcp4.ClientLease
import Landscape.Dhcp4.Offer
import Landscape.Dhcp6.Slaac
import Landscape.Dhcp6.PdRoutes
import Landscape.Dhcp6.Planning
import Landscape.Flow.EntryMatch
import Landscape.Flow.Isolation
import Landscape.Flow.LanPaths
import Landscape.Flow.Trace
import Landscape.LanDevice.Arbitration
import Landscape.Dhcp6.PdRenewal
import Landscape.Pppoe.Robust
import Landscape.Flow.CacheCoherence
import Landscape.Nat6.Errors
import Landscape.LanDevice.Enrolled
import Landscape.LanDevice.Presence
import Landscape.Database.Versions
import Landscape.Metric.DnsSummary
import Landscape.Metric.FinalPoint
import Landscape.Dns.Filter
import Landscape.Cert.DnsCleanup
import Landscape.Gateway.Passthrough
import Landscape.Ddns.TaskRegistry
import Landscape.Dhcp4.ClientTimer
import Landscape.Dns.Revival
import Landscape.Icmpv6.Options
import Landscape.Dns.Matcher
