import AcpBridge.Config.Tls
import AcpBridge.Config.Loopback
import AcpBridge.Buzz.Forgery
import AcpBridge.Translate.Dedup
import AcpBridge.Translate.Tools
import AcpBridge.Translate.Thoughts
import AcpBridge.Translate.Diagnostics
import AcpBridge.Session.Exactness
import AcpBridge.Session.History
import AcpBridge.Northbound.Exactness
import AcpBridge.Agent.Capacity
import AcpBridge.Agent.Streaming
import AcpBridge.Agent.Cancellation
import AcpBridge.Agent.Shutdown
import AcpBridge.Agent.Partitions
import AcpBridge.Agent.Completion
import AcpBridge.Agent.Protocol
import AcpBridge.Agent.Order
import AcpBridge.Agent.Backpressure
import AcpBridge.Agent.Upstream
import AcpBridge.Agent.Directory
import AcpBridge.Agent.Isolation
import AcpBridge.Agent.Disconnect
import AcpBridge.Agent.Liveness
import AcpBridge.Agent.Redaction
import AcpBridge.Doctor.Agreement
import AcpBridge.Doctor.Origin
import AcpBridge.Doctor.Redaction
import AcpBridge.Doctor.Verdict
import AcpBridge.Doctor.Report
