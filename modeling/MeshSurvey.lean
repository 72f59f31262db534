import MeshSurvey.Address.Authority
import MeshSurvey.Address.DnsLabel
import MeshSurvey.Address.Endpoint
import MeshSurvey.Address.HostPort
import MeshSurvey.Address.IP
import MeshSurvey.Address.IPv4
import MeshSurvey.Address.IPv6
import MeshSurvey.Address.RouteTable
import MeshSurvey.Address.ServerName
import MeshSurvey.Audit.MutualTls
import MeshSurvey.Audit.Polarity
import MeshSurvey.Audit.Registry
import MeshSurvey.Audit.Standard
import MeshSurvey.Audit.Vulnerability
import MeshSurvey.Discovery.Client
import MeshSurvey.Discovery.Config
import MeshSurvey.Discovery.ConfigDump
import MeshSurvey.Discovery.DebugEndpoint
import MeshSurvey.Discovery.Kubelet
import MeshSurvey.Discovery.PodFilter
import MeshSurvey.Discovery.Retrieval
import MeshSurvey.Discovery.Sidecar
import MeshSurvey.Discovery.Standard
import MeshSurvey.Discovery.State
import MeshSurvey.Duration
import MeshSurvey.Failure
import MeshSurvey.Json.Bytes
import MeshSurvey.Json.Codec
import MeshSurvey.Json.Reader
import MeshSurvey.Json.Value
import MeshSurvey.Json.Writer
import MeshSurvey.KeyMap
import MeshSurvey.Kubernetes.Container
import MeshSurvey.Kubernetes.Form
import MeshSurvey.Kubernetes.Namespace
import MeshSurvey.Kubernetes.Object
import MeshSurvey.Kubernetes.ObjectMeta
import MeshSurvey.Kubernetes.Placement
import MeshSurvey.Kubernetes.Pod
import MeshSurvey.Kubernetes.Volume
import MeshSurvey.Mesh.Catalog
import MeshSurvey.Mesh.EnvelopedResource
import MeshSurvey.Mesh.Kind
import MeshSurvey.Mesh.Object
import MeshSurvey.Network.Basic
import MeshSurvey.Network.DialRace
import MeshSurvey.Protocol.Message
import MeshSurvey.Resource.AuthorizationPolicy
import MeshSurvey.Resource.DestinationRule
import MeshSurvey.Resource.Enumeration
import MeshSurvey.Resource.Gateway
import MeshSurvey.Resource.PeerAuthentication
import MeshSurvey.Resource.VirtualService
import MeshSurvey.Resource.WorkloadSelector
import MeshSurvey.Scan.Job
import MeshSurvey.Scan.Pool
import MeshSurvey.Scan.Protocol
import MeshSurvey.Schema
import MeshSurvey.Simulation.Network
import MeshSurvey.Simulation.Server
import MeshSurvey.Snapshot
import MeshSurvey.Strategy.Chain
import MeshSurvey.Strategy.ExpectedNamespace
import MeshSurvey.Strategy.SidecarBootstrap
import MeshSurvey.Strategy.SubnetScan
import MeshSurvey.Strategy.WellKnownName
import MeshSurvey.Text.CodeRange
import MeshSurvey.Text.Combining
import MeshSurvey.Text.Numeral
import MeshSurvey.Text.Printable
import MeshSurvey.Text.Quoted
import MeshSurvey.Text.Split
import MeshSurvey.Time.Calendar
import MeshSurvey.Time.Clock
import MeshSurvey.Time.Offset
import MeshSurvey.Time.SuffixTag
import MeshSurvey.Time.Timestamp
import MeshSurvey.Wire.Message
import MeshSurvey.Wire.Record
import MeshSurvey.Wire.Varint
import MeshSurvey.Proofs.Network.Recorded
import MeshSurvey.Proofs.Strategy.FirstSuccess
import MeshSurvey.Proofs.Client.Exchange
import MeshSurvey.Proofs.Client.Pairing
import MeshSurvey.Proofs.Collect
import MeshSurvey.Proofs.Client.Resources
import MeshSurvey.Proofs.KeyMap
import MeshSurvey.Proofs.Wire.Record
import MeshSurvey.Proofs.Wire.Message
import MeshSurvey.Proofs.Wire.Codec
import MeshSurvey.Proofs.Json.Scalar
import MeshSurvey.Proofs.Json.Text
import MeshSurvey.Proofs.Json.Codec
import MeshSurvey.Proofs.Schema
import MeshSurvey.Proofs.Resource
import MeshSurvey.Proofs.Protocol
import MeshSurvey.Proofs.Mesh.FullName
import MeshSurvey.Proofs.Mesh.Item
import MeshSurvey.Proofs.Mesh.Catalog
import MeshSurvey.Proofs.Kubernetes.Object
import MeshSurvey.Proofs.Mesh.Json
import MeshSurvey.Proofs.Retrieval
import MeshSurvey.Proofs.Retrieval.DebugEndpoint
import MeshSurvey.Proofs.Client.Mirrored
import MeshSurvey.Proofs.Mesh.Response
import MeshSurvey.Proofs.Retrieval.Stream
import MeshSurvey.Proofs.Retrieval.Source
import MeshSurvey.Proofs.Retrieval.Version
import MeshSurvey.Proofs.Address.Port
import MeshSurvey.Proofs.Address.RouteTable
import MeshSurvey.Proofs.Retrieval.Connection
import MeshSurvey.Proofs.Strategy.Confirmation
import MeshSurvey.Proofs.Survey.History
import MeshSurvey.Proofs.Address.HostPort
import MeshSurvey.Proofs.Client.Telling
import MeshSurvey.Proofs.Strategy.Promise
import MeshSurvey.Proofs.Strategy.Recorded
import MeshSurvey.Proofs.Survey.Established
import MeshSurvey.Proofs.Audit.MutualTls
import MeshSurvey.Proofs.Wire.Arrangement
import MeshSurvey.Proofs.MessageType
import MeshSurvey.Proofs.Scan.Pool
import MeshSurvey.Proofs.Scan.Job
import MeshSurvey.Proofs.Network.DialRace
import MeshSurvey.Proofs.Wire.Grammar
import MeshSurvey.Proofs.Wire.Undeclared
import MeshSurvey.Proofs.Mesh.Undeclared
import MeshSurvey.Proofs.Json.Stable
import MeshSurvey.Proofs.Schema.Stable
import MeshSurvey.Proofs.Schema.Edits
import MeshSurvey.Proofs.Resource.Document
import MeshSurvey.Proofs.Text.Split
import MeshSurvey.Proofs.Text.Line
import MeshSurvey.Proofs.Text.Numeral
import MeshSurvey.Proofs.Search
import MeshSurvey.Proofs.ConfigDump.Name
import MeshSurvey.Proofs.ConfigDump.First
import MeshSurvey.Proofs.ConfigDump.Edits
import MeshSurvey.Proofs.Address.Literal
import MeshSurvey.Proofs.Address.Host
import MeshSurvey.Proofs.Address.Endpoint
import MeshSurvey.Proofs.ConfigDump.Usable
import MeshSurvey.Proofs.Strategy.SubnetScan
import MeshSurvey.Proofs.Audit.Registry
import MeshSurvey.Proofs.Audit.Vulnerability
import MeshSurvey.Proofs.Audit.Polarity
import MeshSurvey.Proofs.Audit.Inheritance
import MeshSurvey.Proofs.Discovery.PodFilter
