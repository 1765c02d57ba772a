import PodNet.AddResult
import PodNet.Annotation
import PodNet.Attachment
import PodNet.Builtin
import PodNet.Carving
import PodNet.Cluster
import PodNet.CniError
import PodNet.CommandLine
import PodNet.ConfList
import PodNet.Controller
import PodNet.Decimal.Shortest
import PodNet.Delegation
import PodNet.Directory
import PodNet.Dns
import PodNet.Execution
import PodNet.Failure
import PodNet.FileSystem.Basic
import PodNet.FileSystem.Path
import PodNet.HardwareAddress
import PodNet.Http.Host
import PodNet.Http.Message
import PodNet.Http.Uri
import PodNet.Http.Url
import PodNet.Intent
import PodNet.InterfaceName
import PodNet.Invocation
import PodNet.Json.Basic
import PodNet.Json.Document
import PodNet.Json.Literal
import PodNet.Json.Printer
import PodNet.Json.Token
import PodNet.Kubernetes.Access
import PodNet.Kubernetes.Api
import PodNet.Kubernetes.Client
import PodNet.Kubernetes.ClientConfig
import PodNet.Kubernetes.Kubeconfig
import PodNet.Kubernetes.Library
import PodNet.Kubernetes.Object
import PodNet.Kubernetes.PodShape
import PodNet.Kubernetes.Shape
import PodNet.Main
import PodNet.Pem.Armor
import PodNet.Pem.Lines
import PodNet.PluginProcess
import PodNet.Resolution
import PodNet.Resource
import PodNet.Selector
import PodNet.Settings
import PodNet.Status
import PodNet.Subnet
import PodNet.Table
import PodNet.Task
import PodNet.Text.Base64
import PodNet.Text.Blank
import PodNet.Text.Digits
import PodNet.Text.Graphic
import PodNet.Text.Quoted
import PodNet.Text.Split
import PodNet.Text.Styled
import PodNet.Text.Timestamp
import PodNet.Text.Utf16
import PodNet.Text.Utf8
import PodNet.Tls.Certificate
import PodNet.Tls.Der
import PodNet.Tls.Identity
import PodNet.Usage
import PodNet.Yaml.Reader
import PodNet.Yaml.Scalar
import PodNet.Yaml.Token
import PodNet.Proofs.Calls
import PodNet.Proofs.AttachmentCalls
import PodNet.Proofs.Sweep
import PodNet.Proofs.Rollback
import PodNet.Proofs.Atomicity
import PodNet.Proofs.Looking
import PodNet.Proofs.Resolving
import PodNet.Proofs.Pieces
import PodNet.Proofs.NotedPlugin
import PodNet.Proofs.Replanning
import PodNet.Proofs.Invocations
import PodNet.Proofs.Teardown
import PodNet.Proofs.Subnets
import PodNet.Proofs.LogicalNetworks
import PodNet.Proofs.Preparing
import PodNet.Proofs.Siblings
import PodNet.Proofs.Rereading
import PodNet.Proofs.GoneNetworks
import PodNet.Proofs.Json.Strings
import PodNet.Proofs.Json.Numbers
import PodNet.Proofs.Json.RoundTrip
import PodNet.Proofs.Json.Records
import PodNet.Proofs.StatusWritten
import PodNet.Proofs.InterfaceAssignment
import PodNet.Proofs.PodWrites
import PodNet.Proofs.ResultRecords
import PodNet.Proofs.Chaining
import PodNet.Proofs.Arguments
import PodNet.Proofs.AddressText
import PodNet.Proofs.AskedArguments
import PodNet.Proofs.HandedArguments
import PodNet.Proofs.SearchPath
import PodNet.Proofs.OwnConfiguration
import PodNet.Proofs.LeastTraffic
import PodNet.Proofs.RankedPlugins
import PodNet.Proofs.WithoutPod
import PodNet.Proofs.MakingDirectories
import PodNet.Proofs.Persisting
import PodNet.Proofs.Overshadowing
import PodNet.Proofs.StableBuiltins
import PodNet.Proofs.Footprint
import PodNet.Proofs.AnnotationGrammar
import PodNet.Proofs.FailedCalls
import PodNet.Proofs.Reports
import PodNet.Proofs.Merging
import PodNet.Proofs.Json.Values
import PodNet.Proofs.Json.Generic
import PodNet.Proofs.ResultCodec
import PodNet.Proofs.ListRoundTrip
import PodNet.Proofs.EitherForm
import PodNet.Proofs.TypedPlugins
import PodNet.Proofs.CountedAddresses
import PodNet.Proofs.SelectionForms
import PodNet.Proofs.EffectiveArguments
import PodNet.Proofs.Lookups
import PodNet.Proofs.HardwareAddresses
import PodNet.Proofs.ArgumentOrder
import PodNet.Proofs.ReportedMacs
import PodNet.Proofs.VersionAnswers
