import QuoteGateway.ApiKey
import QuoteGateway.Assembly
import QuoteGateway.Cache.Call
import QuoteGateway.Cache.InMemory
import QuoteGateway.Cache.Redis
import QuoteGateway.Cache.RedisServer
import QuoteGateway.Cache.RedisUrl
import QuoteGateway.Cache.RedisWire
import QuoteGateway.Cache.Standin
import QuoteGateway.Cache.TimedMap
import QuoteGateway.CacheKey
import QuoteGateway.Calendar.Day
import QuoteGateway.Calendar.Instant
import QuoteGateway.Calendar.Rfc3339
import QuoteGateway.Calendar.Stamp
import QuoteGateway.Calendar.UpdatedStamp
import QuoteGateway.Clock
import QuoteGateway.CommandLine
import QuoteGateway.Dialogue
import QuoteGateway.Duration
import QuoteGateway.Failure
import QuoteGateway.Feed
import QuoteGateway.Gateway
import QuoteGateway.Json.Document
import QuoteGateway.Json.Lexeme
import QuoteGateway.Json.Numeral
import QuoteGateway.Json.Reader
import QuoteGateway.Json.Skip
import QuoteGateway.Json.Stop
import QuoteGateway.KeyStore.Database
import QuoteGateway.KeyStore.Seeded
import QuoteGateway.Main
import QuoteGateway.Net.Address
import QuoteGateway.Net.Exchange
import QuoteGateway.Net.Octets
import QuoteGateway.Net.Percent
import QuoteGateway.Net.Punycode
import QuoteGateway.Net.Status
import QuoteGateway.Net.Url
import QuoteGateway.Number.Binary64
import QuoteGateway.Number.Literal
import QuoteGateway.Number.Shortest
import QuoteGateway.Observation
import QuoteGateway.Pair
import QuoteGateway.Quota
import QuoteGateway.Quote.Gate
import QuoteGateway.Quote.Lookup
import QuoteGateway.Quote.Loop
import QuoteGateway.Quote.Request
import QuoteGateway.Quote.Service
import QuoteGateway.Quote.Updater
import QuoteGateway.Rate
import QuoteGateway.Settings.Decoder
import QuoteGateway.Settings.EnvironmentFile
import QuoteGateway.Settings.Layers
import QuoteGateway.Settings.Load
import QuoteGateway.Settings.Sections
import QuoteGateway.Settings.Tree
import QuoteGateway.Simulation.Faults
import QuoteGateway.Simulation.Updates
import QuoteGateway.Simulation.World
import QuoteGateway.Table
import QuoteGateway.Text.LetterCase
import QuoteGateway.Text.LetterTables
import QuoteGateway.Text.Numeral
import QuoteGateway.Text.Pieces
import QuoteGateway.Text.Quoted
import QuoteGateway.Text.VisibleTable
import QuoteGateway.Text.WhiteSpace
import QuoteGateway.Toml.Lexeme
import QuoteGateway.Toml.Reader
import QuoteGateway.Proofs.Json.Composites
import QuoteGateway.Proofs.QuotaText
import QuoteGateway.Proofs.CacheKeys
import QuoteGateway.Proofs.Number.Rounding
import QuoteGateway.Proofs.Run
import QuoteGateway.Proofs.Conduct
import QuoteGateway.Proofs.Window
import QuoteGateway.Proofs.Contract
import QuoteGateway.Proofs.Interleaving
import QuoteGateway.Proofs.Isolation
import QuoteGateway.Proofs.Number.ShortestBounds
import QuoteGateway.Proofs.Number.Nearest
import QuoteGateway.Proofs.Number.ShortestReads
import QuoteGateway.Proofs.Json.Reals
import QuoteGateway.Proofs.Json.ExactReals
import QuoteGateway.Proofs.TypedEntries
import QuoteGateway.Proofs.Publication
import QuoteGateway.Proofs.RereadRates
import QuoteGateway.Proofs.Charge
import QuoteGateway.Proofs.Admission
import QuoteGateway.Proofs.Chronicle
import QuoteGateway.Proofs.WrittenLogs
import QuoteGateway.Proofs.Schedule
import QuoteGateway.Proofs.Readability
import QuoteGateway.Proofs.WindowLength
import QuoteGateway.Proofs.Cache.Keeper
import QuoteGateway.Proofs.Cache.Interchange
import QuoteGateway.Proofs.Settings.Overlay
import QuoteGateway.Proofs.Settings.Slot
import QuoteGateway.Proofs.Settings.Variables
import QuoteGateway.Proofs.Settings.Definitions
import QuoteGateway.Proofs.Settings.Kinds
import QuoteGateway.Proofs.Settings.Inventory
import QuoteGateway.Proofs.Settings.Precedence
import QuoteGateway.Proofs.Settings.WholeNumbers
import QuoteGateway.Proofs.Settings.TextSetting
import QuoteGateway.Proofs.RaisedLimit
import QuoteGateway.Proofs.Counters
import QuoteGateway.Proofs.UpdaterCycle
import QuoteGateway.Proofs.Cache.Contention
import QuoteGateway.Proofs.Stages
import QuoteGateway.Proofs.Decision
import QuoteGateway.Proofs.Leniency
import QuoteGateway.Proofs.Retrieval
import QuoteGateway.Proofs.Deadline
import QuoteGateway.Proofs.Calendar.Walk
import QuoteGateway.Proofs.Calendar.Parts
import QuoteGateway.Proofs.Calendar.UpdatedStamps
import QuoteGateway.Proofs.Net.Forms
import QuoteGateway.Proofs.Net.OctetOrder
import QuoteGateway.Proofs.Net.Addresses
import QuoteGateway.Proofs.FetchedRates
import QuoteGateway.Proofs.Json.Remainders
import QuoteGateway.Proofs.Json.Objects
import QuoteGateway.Proofs.ReplyBodies
import QuoteGateway.Proofs.Fetch
import QuoteGateway.Proofs.Lifetimes
import QuoteGateway.Proofs.Pieces
import QuoteGateway.Proofs.Json.Spelling
import QuoteGateway.Proofs.PairText
import QuoteGateway.Proofs.Traversal
import QuoteGateway.Proofs.PairLists
import QuoteGateway.Proofs.Cache.Presence
import QuoteGateway.Proofs.Calendar.DayNumbers
import QuoteGateway.Proofs.Calendar.Instants
import QuoteGateway.Proofs.KeyRecords
import QuoteGateway.Proofs.Pruning
