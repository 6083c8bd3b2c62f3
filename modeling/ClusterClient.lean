import ClusterClient.Text.Percent
import ClusterClient.Endpoint
import ClusterClient.Binary64.Shortest
import ClusterClient.Json.Number
import ClusterClient.Json.Reader
import ClusterClient.Json.Printer
import ClusterClient.Json.Record
import ClusterClient.Url
import ClusterClient.LogText
import ClusterClient.Materializer
import ClusterClient.ServerVersion
import ClusterClient.Address.Extract
import ClusterClient.Capability.Registry
import ClusterClient.Watch
import ClusterClient.Router
import ClusterClient.Yaml.Scalar
import ClusterClient.Yaml.Token
import ClusterClient.Yaml.Anchor
import ClusterClient.Yaml.Plain
import ClusterClient.Config.Storage
import ClusterClient.Client
import ClusterClient.Routes
import ClusterClient.Main
import ClusterClient.Proofs.Address.RoundTrip
import ClusterClient.Proofs.Catalog.Merge
import ClusterClient.Proofs.Catalog.Content
import ClusterClient.Proofs.Catalog.History
import ClusterClient.Proofs.Discovery.Answers
import ClusterClient.Proofs.Catalog.Restriction
import ClusterClient.Proofs.Discovery.Assembly
import ClusterClient.Proofs.Discovery.Isolation
import ClusterClient.Proofs.Client.Runs
import ClusterClient.Proofs.Client.Objects
import ClusterClient.Proofs.Catalog.Resolution
import ClusterClient.Proofs.Discovery.Surfaces
import ClusterClient.Proofs.Address.Unambiguous
import ClusterClient.Proofs.Address.Recognition
import ClusterClient.Proofs.Address.Belonging
import ClusterClient.Proofs.Client.Operations
import ClusterClient.Proofs.Client.Probes
import ClusterClient.Proofs.Client.Sequences
import ClusterClient.Proofs.Catalog.Invariant
import ClusterClient.Proofs.Catalog.Growth
import ClusterClient.Proofs.Catalog.Repetition
import ClusterClient.Proofs.Catalog.ListingOrder
import ClusterClient.Proofs.Discovery.Concurrent
import ClusterClient.Proofs.Discovery.Order
import ClusterClient.Proofs.Catalog.Accretion
import ClusterClient.Proofs.Client.Execution
import ClusterClient.Proofs.Address.Scope
import ClusterClient.Proofs.Client.Destinations
import ClusterClient.Proofs.Client.Scope
import ClusterClient.Proofs.Client.Watching
import ClusterClient.Proofs.Capability.Precedence
import ClusterClient.Proofs.Capability.Standard
import ClusterClient.Proofs.Client.Negotiation
import ClusterClient.Proofs.Watch.Traces
import ClusterClient.Proofs.Catalog.Declarations
import ClusterClient.Proofs.Discovery.Agreement
import ClusterClient.Proofs.Catalog.TypeRecords
import ClusterClient.Proofs.Discovery.Groups
import ClusterClient.Proofs.Client.Refusals
import ClusterClient.Proofs.Address.Making
import ClusterClient.Proofs.Capability.Queries
import ClusterClient.Proofs.Materializer.Types
import ClusterClient.Proofs.Materializer.Lists
import ClusterClient.Proofs.Watch.Failures
import ClusterClient.Proofs.Error.Answers
import ClusterClient.Proofs.ServerVersion.Numbers
import ClusterClient.Proofs.Resource.Setters
import ClusterClient.Proofs.Config.BaseUrl
import ClusterClient.Proofs.LogText.Bounds
