import NimbusIo.Wire
import NimbusIo.Rows
import NimbusIo.Base64
import NimbusIo.Transport.ResilientClient
import NimbusIo.Transport.Delivery
import NimbusIo.Transport.InFlight
import NimbusIo.Transport.Channel
import NimbusIo.Transport.Progress
import NimbusIo.Handoff.ForwarderCoroutine
import NimbusIo.Handoff.ForwarderRuns
import NimbusIo.Handoff.Retrieval
import NimbusIo.Reader.DataReader
import NimbusIo.Reader.Conversations
import NimbusIo.Reader.Isolation
import NimbusIo.AntiEntropy.Server
import NimbusIo.AntiEntropy.ConsistencyHash
import NimbusIo.AntiEntropy.Audit
import NimbusIo.AntiEntropy.ActiveRequests
import NimbusIo.AntiEntropy.AuditRound
import NimbusIo.AntiEntropy.Ledger
import NimbusIo.WebServer.DataSlicer
import NimbusIo.WebServer.ListMatcher
import NimbusIo.WebServer.ListKeys
import NimbusIo.WebServer.ListVersions
import NimbusIo.WebServer.Paging
import NimbusIo.WebServer.Prefixes
import NimbusIo.WebServer.DataReader
import NimbusIo.WebServer.Destroyer
import NimbusIo.Messages.DatabaseListMatch
