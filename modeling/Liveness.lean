import Liveness.Check.Basic
import Liveness.Check.Results
import Liveness.CommandLine
import Liveness.Config.Basic
import Liveness.Config.Environment
import Liveness.Config.Format
import Liveness.Config.Json
import Liveness.Config.Load
import Liveness.Config.Parse
import Liveness.Config.Session
import Liveness.Config.Yaml
import Liveness.Decimal.Shortest
import Liveness.Decimal.Text
import Liveness.Environment.Basic
import Liveness.Environment.Setting
import Liveness.Files.Path
import Liveness.Files.Tree
import Liveness.Http.Body
import Liveness.Http.Client
import Liveness.Http.Head
import Liveness.Http.Network
import Liveness.Http.Pool
import Liveness.Http.Reading
import Liveness.Http.Request
import Liveness.Http.Socket
import Liveness.Http.Wire
import Liveness.Json.Basic
import Liveness.Json.Error
import Liveness.Json.Number
import Liveness.Json.Reader
import Liveness.Json.Writer
import Liveness.Main
import Liveness.Probe.Basic
import Liveness.Probe.Report
import Liveness.Probe.Script
import Liveness.Probe.Stamp
import Liveness.Proofs.Config.Fitness
import Liveness.Proofs.Except
import Liveness.Text.Base64
import Liveness.Text.Causes
import Liveness.Text.Quoted
import Liveness.Text.Utf8
import Liveness.Unicode.Bidi
import Liveness.Unicode.CombiningClass
import Liveness.Unicode.Decomposition
import Liveness.Unicode.GraphemeExtend
import Liveness.Unicode.Joining
import Liveness.Unicode.Mark
import Liveness.Unicode.Normalization
import Liveness.Unicode.Printable
import Liveness.Unicode.Runs
import Liveness.Url.Basic
import Liveness.Url.Host.Domain
import Liveness.Url.Host.Ipv4
import Liveness.Url.Host.Ipv6
import Liveness.Url.Host.Mapping
import Liveness.Url.Host.Punycode
import Liveness.Url.Join
import Liveness.Url.Parser
import Liveness.Url.Percent
import Liveness.Url.Printer
import Liveness.Yaml.Cursor
import Liveness.Yaml.Document
import Liveness.Yaml.Error
import Liveness.Yaml.Event
import Liveness.Yaml.Event.Grammar
import Liveness.Yaml.Token.Basic
import Liveness.Yaml.Token.Lexer
import Liveness.Yaml.Token.Scalar
import Liveness.Yaml.Token.Tag
import Liveness.Yaml.Value
import Liveness.Proofs.Config.Layers
import Liveness.Proofs.Config.History
import Liveness.Proofs.Check.Results
import Liveness.Proofs.Check.Verdict
import Liveness.Proofs.Http.Link
import Liveness.Proofs.Http.Waiting
import Liveness.Proofs.CommandLine.Ending
import Liveness.Proofs.Http.Chain
import Liveness.Proofs.Http.Prefix
import Liveness.Proofs.Probe.Runs
import Liveness.Proofs.Probe.Truncation
import Liveness.Proofs.Text.Characters
import Liveness.Proofs.Url.Host.Punycode
import Liveness.Proofs.Url.Percent
import Liveness.Proofs.Url.Split
import Liveness.Proofs.Url.Host.Domain
import Liveness.Proofs.Url.Host.Ipv4
import Liveness.Proofs.Url.Host.Ipv6
import Liveness.Proofs.Url.Hosts
import Liveness.Proofs.Url.Paths
import Liveness.Proofs.Url.Authorities
import Liveness.Proofs.Url.RoundTrip
import Liveness.Proofs.Json.Written
import Liveness.Proofs.Config.Written
import Liveness.Proofs.Config.Targets
import Liveness.Proofs.Url.LongNames
import Liveness.Proofs.Config.RoundTrip
import Liveness.Proofs.Probe.Redirects
import Liveness.Proofs.Config.Variables
import Liveness.Proofs.Config.Timeouts
import Liveness.Proofs.Config.Foreign
import Liveness.Proofs.Config.Routes
import Liveness.Proofs.Http.Courses
import Liveness.Proofs.Probe.Courses
import Liveness.Proofs.Http.Indifference
import Liveness.Proofs.Probe.Independence
import Liveness.Proofs.Http.Chunks
import Liveness.Proofs.Http.Messages
import Liveness.Proofs.Probe.Bodies
import Liveness.Proofs.Http.Requests
import Liveness.Proofs.Probe.Requests
import Liveness.Proofs.Config.Methods
import Liveness.Proofs.Config.Overlay
import Liveness.Proofs.Environment.Keys
import Liveness.Proofs.Environment.Lists
import Liveness.Proofs.Environment.Text
import Liveness.Proofs.Mapped
import Liveness.Proofs.Probe.Fetch
import Liveness.Proofs.Url.Host.Ideographs
import Liveness.Unicode.Ideograph
import Liveness.Proofs.Json.Grammar
import Liveness.Proofs.Json.Strings
import Liveness.Proofs.Json.Numbers
import Liveness.Proofs.Json.Values
import Liveness.Proofs.Json.Decimals
import Liveness.Proofs.Config.Fields
import Liveness.Proofs.Config.Members
import Liveness.Proofs.Config.Items
import Liveness.Proofs.Config.Acceptance
import Liveness.Proofs.Files.Walk
import Liveness.Proofs.Config.Paths
import Liveness.Proofs.Yaml.Scalars
import Liveness.Proofs.Yaml.Lexer
import Liveness.Proofs.Yaml.Tokens
import Liveness.Proofs.Yaml.Nodes
import Liveness.Proofs.Config.Formats
import Liveness.Proofs.Config.Hosts
import Liveness.Proofs.Json.Meanings
import Liveness.Proofs.Json.Layouts
import Liveness.Proofs.CommandLine.Accounts
import Liveness.Proofs.Check.Collected
