import PoolWatch.Account.Codec
import PoolWatch.Account.LookupTable
import PoolWatch.Account.Market
import PoolWatch.Account.Pool
import PoolWatch.Address
import PoolWatch.Binary64
import PoolWatch.Bytes
import PoolWatch.Channel
import PoolWatch.Curve.Field
import PoolWatch.Curve.Point
import PoolWatch.Curve.Signature
import PoolWatch.Derived
import PoolWatch.Envelope.Basic
import PoolWatch.Envelope.Json
import PoolWatch.Executor
import PoolWatch.Hash.Sha256
import PoolWatch.Hash.Sha512
import PoolWatch.Http
import PoolWatch.Instruction
import PoolWatch.Json.Parser
import PoolWatch.Json.Printer
import PoolWatch.Json.Token
import PoolWatch.Json.Value
import PoolWatch.Key
import PoolWatch.Main
import PoolWatch.Node.Answer
import PoolWatch.Node.Client
import PoolWatch.Pool.Keys
import PoolWatch.Program.Bot
import PoolWatch.Program.Inspect
import PoolWatch.Proofs.Account.Layout
import PoolWatch.Proofs.Account.LookupTable
import PoolWatch.Proofs.Bytes
import PoolWatch.Proofs.Channel
import PoolWatch.Proofs.Curve.Edwards
import PoolWatch.Proofs.Curve.Field
import PoolWatch.Proofs.Curve.Point
import PoolWatch.Proofs.Curve.Primality
import PoolWatch.Proofs.Curve.Signature
import PoolWatch.Proofs.Envelope.Balances
import PoolWatch.Proofs.Envelope.Forms
import PoolWatch.Proofs.Envelope.RoundTrip
import PoolWatch.Proofs.Frame
import PoolWatch.Proofs.Instruction
import PoolWatch.Proofs.Json.Canonical
import PoolWatch.Proofs.Json.Layout
import PoolWatch.Proofs.Json.RoundTrip
import PoolWatch.Proofs.Json.Words
import PoolWatch.Proofs.Node.Accounts
import PoolWatch.Proofs.Node.Refusals
import PoolWatch.Proofs.Program.Channels
import PoolWatch.Proofs.Registry.Additions
import PoolWatch.Proofs.Registry.Caches
import PoolWatch.Proofs.Registry.Knowledge
import PoolWatch.Proofs.Registry.Numbering
import PoolWatch.Proofs.Registry.Operations
import PoolWatch.Proofs.Registry.Pools
import PoolWatch.Proofs.Registry.Resolution
import PoolWatch.Proofs.Registry.Tables
import PoolWatch.Proofs.Relay.Attempts
import PoolWatch.Proofs.Relay.Inbox
import PoolWatch.Proofs.Relay.Moves
import PoolWatch.Proofs.Relay.Requests
import PoolWatch.Proofs.Run
import PoolWatch.Proofs.Settings.Enough
import PoolWatch.Proofs.Settings.Sources
import PoolWatch.Proofs.Store.Cells
import PoolWatch.Proofs.Store.LastEdit
import PoolWatch.Proofs.Store.Listing
import PoolWatch.Proofs.Store.Records
import PoolWatch.Proofs.Store.Survival
import PoolWatch.Proofs.Submit.Acceptance
import PoolWatch.Proofs.Submit.Isolation
import PoolWatch.Proofs.Tandem
import PoolWatch.Proofs.Text.Base64
import PoolWatch.Proofs.Text.Blank
import PoolWatch.Proofs.Text.Decimal
import PoolWatch.Proofs.Text.KeyText
import PoolWatch.Proofs.Text.Order
import PoolWatch.Proofs.Text.Pieces
import PoolWatch.Proofs.Text.Signed
import PoolWatch.Proofs.Text.Utf8
import PoolWatch.Proofs.Tracking.Apart
import PoolWatch.Proofs.Tracking.Atomic
import PoolWatch.Proofs.Tracking.Draws
import PoolWatch.Proofs.Tracking.Lifecycle
import PoolWatch.Proofs.Tracking.Listing
import PoolWatch.Proofs.Tracking.Operations
import PoolWatch.Proofs.Tracking.Stages
import PoolWatch.Proofs.Tracking.Undated
import PoolWatch.Proofs.Trade.Compare
import PoolWatch.Proofs.Trade.Filter
import PoolWatch.Proofs.Trade.Log
import PoolWatch.Proofs.Trade.Numeral
import PoolWatch.Proofs.Trade.Rows
import PoolWatch.Proofs.Trade.Search
import PoolWatch.Proofs.Trade.Statement
import PoolWatch.Proofs.Transaction.Assembly
import PoolWatch.Proofs.Transaction.Calls
import PoolWatch.Proofs.Transaction.Compiles
import PoolWatch.Proofs.Transaction.Numbers
import PoolWatch.Proofs.Transaction.ReadBack
import PoolWatch.Proofs.Transaction.Uses
import PoolWatch.Proofs.Transaction.Wire
import PoolWatch.Proofs.Watcher.Abreast
import PoolWatch.Proofs.Watcher.Answer
import PoolWatch.Proofs.Watcher.Beside
import PoolWatch.Proofs.Watcher.BrokenOff
import PoolWatch.Proofs.Watcher.Clock
import PoolWatch.Proofs.Watcher.ComesBack
import PoolWatch.Proofs.Watcher.Commute
import PoolWatch.Proofs.Watcher.Dedup
import PoolWatch.Proofs.Watcher.Deeds
import PoolWatch.Proofs.Watcher.Discipline
import PoolWatch.Proofs.Watcher.Feed
import PoolWatch.Proofs.Watcher.Operations
import PoolWatch.Proofs.Watcher.Order
import PoolWatch.Proofs.Watcher.Recorded
import PoolWatch.Proofs.Watcher.Replay
import PoolWatch.Proofs.Watcher.Scan
import PoolWatch.Proofs.Watcher.SentFacts
import PoolWatch.Proofs.Watcher.Sightings
import PoolWatch.Proofs.Watcher.Signing
import PoolWatch.Proofs.Watcher.Site
import PoolWatch.Proofs.Watcher.Swap
import PoolWatch.Proofs.Watcher.Together
import PoolWatch.Registry.Basic
import PoolWatch.Registry.Reader
import PoolWatch.Registry.Resolve
import PoolWatch.Relay.Client
import PoolWatch.Relay.Inbox
import PoolWatch.Relay.Pool
import PoolWatch.Settings.Basic
import PoolWatch.Settings.EnvFile
import PoolWatch.Settings.Payer
import PoolWatch.Store.Basic
import PoolWatch.Submit.BlockEngine
import PoolWatch.Submit.Direct
import PoolWatch.Submit.Router
import PoolWatch.Swap
import PoolWatch.Text.Base58
import PoolWatch.Text.Base64
import PoolWatch.Text.Blank
import PoolWatch.Text.Decimal
import PoolWatch.Text.Hex
import PoolWatch.Text.Printable
import PoolWatch.Text.Quoted
import PoolWatch.Text.Uri
import PoolWatch.Text.Url
import PoolWatch.Text.Utf8
import PoolWatch.Tracking.Ledger
import PoolWatch.Tracking.Status
import PoolWatch.Tracking.Tracker
import PoolWatch.Trade.Basic
import PoolWatch.Trade.Cell
import PoolWatch.Trade.Filter
import PoolWatch.Trade.History
import PoolWatch.Trade.Pattern
import PoolWatch.Trade.Row
import PoolWatch.Trade.Statement
import PoolWatch.Transaction.Message
import PoolWatch.Transaction.Signing
import PoolWatch.Transaction.Wire
import PoolWatch.Watcher.Basic
import PoolWatch.Watcher.Facts
import PoolWatch.Watcher.Feed
import PoolWatch.Watcher.Process
