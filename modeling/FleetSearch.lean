import FleetSearch.Unicode.Category
import FleetSearch.Unicode.Upper
import FleetSearch.Unicode.Blank
import FleetSearch.Text.Digits
import FleetSearch.Text.Quoted
import FleetSearch.Text.Split
import FleetSearch.Decimal.Binary64
import FleetSearch.Decimal.Shortest
import FleetSearch.Decimal.Layout
import FleetSearch.Entries
import FleetSearch.Json.Write
import FleetSearch.Json.Read
import FleetSearch.Inventory.Instance
import FleetSearch.Text.Utf8
import FleetSearch.Inventory.Flat
import FleetSearch.Inventory.Collector
import FleetSearch.Inventory.Written
import FleetSearch.Search.Request
import FleetSearch.Search.Error
import FleetSearch.Yaml.ScalarText
import FleetSearch.Yaml.Lexer
import FleetSearch.Yaml.Node
import FleetSearch.Yaml.Decode
import FleetSearch.Yaml.Printer
import FleetSearch.Config.Document
import FleetSearch.Config.Resolver
import FleetSearch.Config.Load
import FleetSearch.Backend.Builtin
import FleetSearch.Url.Form
import FleetSearch.Url.Punycode
import FleetSearch.Url.Read
import FleetSearch.Unicode.Script
import FleetSearch.Pattern.Basic
import FleetSearch.Pattern.Read
import FleetSearch.Cache.Values
import FleetSearch.Cache.Location
import FleetSearch.Search.Timeline
import FleetSearch.Web.Router
import FleetSearch.Proofs.Cache.Exchange
import FleetSearch.Proofs.Search.Preparation
import FleetSearch.Proofs.Search.Advance
import FleetSearch.Proofs.Search.Conduct
import FleetSearch.Proofs.Search.Ledger
import FleetSearch.Proofs.Search.Union
import FleetSearch.Proofs.Cache.Clients
import FleetSearch.Proofs.Web.MemoKey
import FleetSearch.Proofs.Web.Pages
import FleetSearch.Proofs.Web.Transparency
import FleetSearch.Proofs.Search.SharedStore
import FleetSearch.Proofs.Cache.TimedMap
import FleetSearch.Proofs.Search.Outline
import FleetSearch.Proofs.Search.AnyCache
import FleetSearch.Proofs.Search.SameHits
import FleetSearch.Proofs.Search.Blame
import FleetSearch.Proofs.Json.Numerals
import FleetSearch.Proofs.Json.Strings
import FleetSearch.Proofs.Entries
import FleetSearch.Proofs.Json.Values
import FleetSearch.Proofs.Json.RoundTrip
import FleetSearch.Proofs.Inventory.Written
import FleetSearch.Proofs.Network.Answers
import FleetSearch.Proofs.Backend.Cacheable
import FleetSearch.Proofs.Cache.InForce
import FleetSearch.Proofs.Search.Refusal
import FleetSearch.Proofs.Inventory.Kept
import FleetSearch.Proofs.Search.Shelf
import FleetSearch.Proofs.Search.Repeat
import FleetSearch.Proofs.Backend.Registry
import FleetSearch.Proofs.Search.Completion
import FleetSearch.Proofs.Search.Clock
import FleetSearch.Proofs.Search.SameTargets
import FleetSearch.Proofs.Backend.Registration
import FleetSearch.Proofs.Config.Options
import FleetSearch.Proofs.Config.Confinement
import FleetSearch.Proofs.Text.Digits
import FleetSearch.Proofs.Text.Split
import FleetSearch.Proofs.Text.Separated
import FleetSearch.Proofs.Text.Utf8
import FleetSearch.Proofs.Text.Quoted
import FleetSearch.Proofs.Json.Paths
import FleetSearch.Proofs.Network.Responses
import FleetSearch.Proofs.Backend.Keys
import FleetSearch.Proofs.Backend.ConsulKeys
import FleetSearch.Proofs.Backend.RestAnswers
import FleetSearch.Proofs.Pattern.Matching
import FleetSearch.Proofs.Backend.RestKeys
import FleetSearch.Proofs.Config.Loading
import FleetSearch.Proofs.Web.Listing
import FleetSearch.Proofs.Search.Attribution
import FleetSearch.Proofs.Config.Required
import FleetSearch.Proofs.Backend.Extraction
import FleetSearch.Proofs.Url.Percent
import FleetSearch.Proofs.Url.Plain
import FleetSearch.Proofs.Url.Rereading
import FleetSearch.Proofs.Network.Exchanges
import FleetSearch.Proofs.Backend.CatalogListing
import FleetSearch.Proofs.Pattern.Suffixes
import FleetSearch.Proofs.Pattern.Endings
import FleetSearch.Proofs.Pattern.Classes
import FleetSearch.Proofs.Pattern.Groups
import FleetSearch.Proofs.Pattern.Steps
import FleetSearch.Proofs.Pattern.Trailing
import FleetSearch.Proofs.Pattern.Rows
import FleetSearch.Proofs.Pattern.Leading
import FleetSearch.Proofs.Pattern.Sizes
import FleetSearch.Proofs.Pattern.Spliced
import FleetSearch.Proofs.Pattern.Casing
import FleetSearch.Proofs.Pattern.Caseless
import FleetSearch.Proofs.Backend.NamePatterns
import FleetSearch.Proofs.Backend.Severity
import FleetSearch.Proofs.Backend.NodeFilter
import FleetSearch.Proofs.Config.Variables
import FleetSearch.Proofs.Url.Decoding
import FleetSearch.Proofs.Url.Appended
import FleetSearch.Proofs.Backend.NodeAddress
import FleetSearch.Proofs.Text.Numerals
import FleetSearch.Proofs.Text.Trimmed
import FleetSearch.Proofs.Json.Conversion
import FleetSearch.Proofs.Inventory.Projection
import FleetSearch.Proofs.Inventory.Flattening
import FleetSearch.Proofs.Web.Query
import FleetSearch.Proofs.Config.Overrides
import FleetSearch.Proofs.Search.Identifiers
import FleetSearch.Proofs.Config.Startup
import FleetSearch.Proofs.Inventory.Sharing
