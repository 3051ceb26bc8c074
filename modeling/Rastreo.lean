import Rastreo.Fuser.DistinctKeys
import Rastreo.Topology.Cables
import Rastreo.CollectionProfile.Endpoints
import Rastreo.Prober.Absence
import Rastreo.Sink.Reporting
import Rastreo.Server.Outcomes
import Rastreo.Server.Responses
import Rastreo.Fuser.OverShared
import Rastreo.Scheduler.Cancel
import Rastreo.Pipeline.ReorderBuffer
import Rastreo.Pipeline.TornLines
import Rastreo.Resolver.Overlaps
import Rastreo.Pipeline.Accounting
import Rastreo.Checkpoint.Fingerprint
import Rastreo.Pipeline.GuardedRuns
import Rastreo.Server.Readiness
import Rastreo.Pipeline.Halting
import Rastreo.Server.Attribution
import Rastreo.Prober.Snmp.Cleartext
import Rastreo.Prober.Snmp.Stale
import Rastreo.Prober.Snmp.WalkOrder
import Rastreo.Prober.Snmp.Salts
import Rastreo.Prober.Icmp
import Rastreo.Prober.Gnmi.Paths
import Rastreo.Prober.Gnmi.Subtree
import Rastreo.Topology.Sources
import Rastreo.Classifier.Slots
import Rastreo.Config.Secrets
import Rastreo.Sink.Redact
import Rastreo.Fuser.MibRows
import Rastreo.Scheduler.Pacing
import Rastreo.Cli.Targets
import Rastreo.Prober.Stun
import Rastreo.Model.Timestamps
import Rastreo.Server.Snapshots
import Rastreo.Encoder.Table
import Rastreo.Sink.PendingRuns
import Rastreo.Prober.Snmp.Localize
