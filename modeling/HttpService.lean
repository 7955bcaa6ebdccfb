import HttpService.Address.Email
import HttpService.Address.Host
import HttpService.Address.Ip
import HttpService.Address.Punycode
import HttpService.Address.Url
import HttpService.Assoc
import HttpService.Binding.Bind
import HttpService.Binding.Coerce
import HttpService.Binding.Depth
import HttpService.Binding.Gather
import HttpService.Binding.Zero
import HttpService.Code
import HttpService.Controller.Basic
import HttpService.Controller.Group
import HttpService.Datatype.Basic
import HttpService.Datatype.Decode
import HttpService.Decimal.Read
import HttpService.Decimal.Shortest
import HttpService.Derive.Attribute
import HttpService.Derive.Casing
import HttpService.Derive.Endpoints
import HttpService.Derive.Generics
import HttpService.Derive.Reflection
import HttpService.Derive.Token
import HttpService.Duration
import HttpService.Event
import HttpService.Failure
import HttpService.Http.Form
import HttpService.Http.Headers
import HttpService.Http.MediaType
import HttpService.Http.Multipart
import HttpService.Http.Request
import HttpService.Http.Uri
import HttpService.Json.Basic
import HttpService.Json.Parser
import HttpService.Json.Printer
import HttpService.Locale
import HttpService.Metrics.Exposition
import HttpService.Metrics.Instruments
import HttpService.OpenApi.Document
import HttpService.OpenApi.Operation
import HttpService.OpenApi.Page
import HttpService.OpenApi.Schema
import HttpService.OpenApi.Walker
import HttpService.Pipeline.Action
import HttpService.Pipeline.Endpoint
import HttpService.Pipeline.Exchange
import HttpService.Pipeline.Middleware
import HttpService.Pipeline.Site
import HttpService.Pipeline.Step
import HttpService.Proofs.Basic
import HttpService.Proofs.Binding.Filling
import HttpService.Proofs.Binding.Hidden
import HttpService.Proofs.Binding.Naming
import HttpService.Proofs.Binding.Omitted
import HttpService.Proofs.Binding.Precedence
import HttpService.Proofs.Binding.Rules
import HttpService.Proofs.Binding.Supplied
import HttpService.Proofs.Controller.Introspection
import HttpService.Proofs.Decimal.Doubles
import HttpService.Proofs.Decimal.Nearest
import HttpService.Proofs.Decimal.Rounding
import HttpService.Proofs.Http.Form
import HttpService.Proofs.Http.Uri
import HttpService.Proofs.Json.Reading
import HttpService.Proofs.Metrics.Conservation
import HttpService.Proofs.OpenApi.Listing
import HttpService.Proofs.OpenApi.Operations
import HttpService.Proofs.OpenApi.Sources
import HttpService.Proofs.Pipeline.Deeds
import HttpService.Proofs.Pipeline.Onion
import HttpService.Proofs.Pipeline.ResponseLaw
import HttpService.Proofs.Route.Lookup
import HttpService.Proofs.Route.Matching
import HttpService.Proofs.Route.Path
import HttpService.Proofs.Route.Registry
import HttpService.Proofs.Route.Table
import HttpService.Proofs.Server.Composition
import HttpService.Proofs.Server.History
import HttpService.Proofs.Server.Registration
import HttpService.Proofs.Text.Blank
import HttpService.Proofs.Text.Utf8
import HttpService.Proofs.Text.Words
import HttpService.Proofs.Validation.Coverage
import HttpService.RateLimit.Bucket
import HttpService.RateLimit.Config
import HttpService.RateLimit.Limiter
import HttpService.Response.Envelope
import HttpService.Response.Payload
import HttpService.Response.Writer
import HttpService.Route.Basic
import HttpService.Route.Matcher
import HttpService.Route.Path
import HttpService.Route.Pattern
import HttpService.Route.Registry
import HttpService.Route.Table
import HttpService.Server.Basic
import HttpService.Server.Der
import HttpService.Server.KeyPair
import HttpService.Server.Lifecycle
import HttpService.Server.Listener
import HttpService.Server.Pem
import HttpService.Server.Service
import HttpService.Settings.Basic
import HttpService.Settings.EnvFile
import HttpService.Settings.Environment
import HttpService.Settings.Logging
import HttpService.Shape
import HttpService.Tag
import HttpService.Tag.Scanner
import HttpService.Text.Base64
import HttpService.Text.Blank
import HttpService.Text.HiddenTable
import HttpService.Text.Letter
import HttpService.Text.LetterTable
import HttpService.Text.Quoted
import HttpService.Text.Split
import HttpService.Text.Utf8
import HttpService.Text.Words
import HttpService.Tracing.Span
import HttpService.Validation.Message
import HttpService.Validation.Rule
import HttpService.Validation.Struct
import HttpService.Proofs.RateLimit.Runs
import HttpService.Proofs.RateLimit.Bound
import HttpService.Proofs.Derive.Names
import HttpService.Proofs.Derive.Tags
import HttpService.Proofs.RateLimit.Dropping
import HttpService.Proofs.Server.Prefixes
import HttpService.Proofs.Failure
import HttpService.Proofs.Settings.Durations
import HttpService.Proofs.Settings.Layering
import HttpService.Proofs.Pipeline.Deadlines
import HttpService.Proofs.Response.WriteOnce
import HttpService.Proofs.Pipeline.Codes
import HttpService.Proofs.Validation.Order
import HttpService.Proofs.Validation.Walks
import HttpService.Proofs.Pipeline.Reach
import HttpService.Proofs.Binding.Gate
import HttpService.Proofs.Binding.Texts
import HttpService.Proofs.Binding.Pairs
import HttpService.Proofs.Http.Percent
import HttpService.Proofs.Route.Filled
import HttpService.Proofs.Binding.PathText
import HttpService.Proofs.Binding.GivenNames
import HttpService.Proofs.OpenApi.Expansion
import HttpService.Proofs.Pipeline.WriteTimeout
import HttpService.Proofs.RateLimit.Waits
import HttpService.Proofs.Tag.Grammar
import HttpService.Proofs.Tag.Scanner
import HttpService.Proofs.Binding.Settling
import HttpService.Proofs.OpenApi.Levels
import HttpService.Proofs.OpenApi.Walker
