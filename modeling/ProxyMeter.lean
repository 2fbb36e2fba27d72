import ProxyMeter.Api.TimeRange
import ProxyMeter.Gate.Admission
import ProxyMeter.Gate.AllowList
import ProxyMeter.Gate.RateLimit
import ProxyMeter.Metrics.Exposition
import ProxyMeter.Socks.Address.Parser
import ProxyMeter.Socks.Handshake
import ProxyMeter.Traffic.RecordReader
import ProxyMeter.Decimal.Compensated
import ProxyMeter.Log.Line
import ProxyMeter.Pipeline.Collector
import ProxyMeter.Pipeline.Publisher
import ProxyMeter.Pipeline.Rehearsal
import ProxyMeter.Relay.Script
import ProxyMeter.Relay.Tracked
import ProxyMeter.Settings.Document
import ProxyMeter.Settings.Fault
import ProxyMeter.Settings.Load
import ProxyMeter.Store.Database
import ProxyMeter.Store.Disk
import ProxyMeter.Store.Location
import ProxyMeter.Api.Query
import ProxyMeter.Api.Question
import ProxyMeter.Api.Response
import ProxyMeter.Api.Site
import ProxyMeter.Log.Filter
import ProxyMeter.Main
import ProxyMeter.Proofs.Session.Reports
import ProxyMeter.Proofs.Socks.Authentication
import ProxyMeter.Proofs.Socks.Request
import ProxyMeter.Proofs.Socks.Fragments
import ProxyMeter.Proofs.Pipeline.Shutdown
import ProxyMeter.Proofs.Api.Answers
import ProxyMeter.Proofs.Api.Filtering
import ProxyMeter.Proofs.Pipeline.Startup
import ProxyMeter.Proofs.Settings.Loading
import ProxyMeter.Proofs.Store.Lifecycle
import ProxyMeter.Proofs.Gate.Isolation
import ProxyMeter.Proofs.Gate.Places
import ProxyMeter.Proofs.Socks.Secrecy
import ProxyMeter.Proofs.Socks.Replies
import ProxyMeter.Proofs.Pipeline.Freshness
import ProxyMeter.Proofs.Pipeline.Workers
import ProxyMeter.Proofs.Session.Rulings
import ProxyMeter.Proofs.Session.Restriction
import ProxyMeter.Proofs.Relay.Transparency
import ProxyMeter.Proofs.Store.AllOrNone
import ProxyMeter.Proofs.Store.Location
import ProxyMeter.Proofs.Store.Ranking
import ProxyMeter.Proofs.Pipeline.Closing
import ProxyMeter.Proofs.Gate.Edits
import ProxyMeter.Proofs.Metrics.Exposition
import ProxyMeter.Proofs.Traffic.Records
import ProxyMeter.Proofs.Api.Instants
