import Provisioning.Command.Arguments
import Provisioning.Command.Error
import Provisioning.Command.Execute
import Provisioning.Command.Grammar
import Provisioning.Command.Pool
import Provisioning.Command.Range
import Provisioning.Command.Select
import Provisioning.Command.Session
import Provisioning.Command.Settings
import Provisioning.Command.Wait
import Provisioning.Data.SortedMap
import Provisioning.Decimal.Notation
import Provisioning.Decimal.Reading
import Provisioning.Decimal.Shortest
import Provisioning.Files.Store
import Provisioning.Files.Tree
import Provisioning.Json.Fault
import Provisioning.Json.Number
import Provisioning.Json.Print
import Provisioning.Json.Read
import Provisioning.Json.Scan
import Provisioning.Json.Value
import Provisioning.Log.Entry
import Provisioning.Main
import Provisioning.Network.Address
import Provisioning.Network.AddressSet
import Provisioning.Network.Block
import Provisioning.Network.Cidr
import Provisioning.Network.Error
import Provisioning.Network.Pool
import Provisioning.Network.Range
import Provisioning.Network.Report
import Provisioning.Number.Binary64
import Provisioning.Poll.Blocking
import Provisioning.Poll.Event
import Provisioning.Poll.Outcome
import Provisioning.Poll.Policy
import Provisioning.Poll.Script
import Provisioning.Poll.Timed
import Provisioning.Poll.Token
import Provisioning.Probe.Command
import Provisioning.Quantity.Duration
import Provisioning.Quantity.Scan
import Provisioning.Quantity.Size
import Provisioning.Settings.Data
import Provisioning.Settings.Document
import Provisioning.Settings.Keys
import Provisioning.Settings.Store
import Provisioning.Shell.Arithmetic
import Provisioning.Shell.Process
import Provisioning.Shell.Run
import Provisioning.Shell.Script
import Provisioning.Shell.Token
import Provisioning.Shell.Utility
import Provisioning.Template.Architecture
import Provisioning.Template.Candidate
import Provisioning.Template.Dimension
import Provisioning.Template.Error
import Provisioning.Template.Mismatch
import Provisioning.Template.Ranking
import Provisioning.Template.Reading
import Provisioning.Template.Resources
import Provisioning.Template.Score
import Provisioning.Template.Writing
import Provisioning.Terminal.Notice
import Provisioning.Terminal.Report
import Provisioning.Terminal.Style
import Provisioning.Terminal.Table
import Provisioning.Text.Blank
import Provisioning.Text.CaseTable
import Provisioning.Text.DecimalDigit
import Provisioning.Text.LowerCase
import Provisioning.Text.Natural
import Provisioning.Text.Rest
import Provisioning.Text.Utf8
import Provisioning.Time.Span
import Provisioning.Toml.Entries
import Provisioning.Toml.Numbers
import Provisioning.Toml.Reading
import Provisioning.Toml.Strings
import Provisioning.Toml.Value
import Provisioning.Toml.Writing
import Provisioning.Proofs.Poll.Calls
import Provisioning.Proofs.Poll.Truthful
import Provisioning.Proofs.Poll.Bounded
import Provisioning.Proofs.Poll.Agreement
import Provisioning.Proofs.Poll.Rounds
import Provisioning.Proofs.Poll.Carried
import Provisioning.Proofs.Poll.CutOff
import Provisioning.Proofs.Poll.Interrupted
import Provisioning.Proofs.Network.Requests
import Provisioning.Proofs.Network.Ledger
import Provisioning.Proofs.Number.TotalOrder
import Provisioning.Proofs.Template.Order
import Provisioning.Proofs.Poll.Wakeups
import Provisioning.Proofs.Poll.Cancellation
import Provisioning.Proofs.Settings.Writes
import Provisioning.Proofs.Settings.Saved
import Provisioning.Proofs.Text.Scanning
import Provisioning.Proofs.Number.Rounding
import Provisioning.Proofs.Decimal.Shortest
import Provisioning.Proofs.Decimal.Positional
import Provisioning.Proofs.Toml.Keys
import Provisioning.Proofs.Toml.Numbers
import Provisioning.Proofs.Toml.Documents
import Provisioning.Proofs.Text.LowerCase
import Provisioning.Proofs.Template.Architecture
import Provisioning.Proofs.Template.Checks
import Provisioning.Proofs.Json.Readers
import Provisioning.Proofs.Command.Select
import Provisioning.Proofs.Settings.Weights
import Provisioning.Proofs.Settings.Keys
import Provisioning.Proofs.Settings.Checks
import Provisioning.Proofs.Settings.Refusals
import Provisioning.Proofs.Settings.Answers
import Provisioning.Proofs.Settings.Policies
import Provisioning.Proofs.Data.Except
import Provisioning.Proofs.Json.Strings
import Provisioning.Proofs.Json.Numbers
import Provisioning.Proofs.Template.Catalog
import Provisioning.Proofs.Number.Arithmetic
import Provisioning.Proofs.Template.Dominance
import Provisioning.Proofs.Command.Scores
import Provisioning.Proofs.Files.View
import Provisioning.Proofs.Files.Tree
import Provisioning.Proofs.Settings.Store
import Provisioning.Proofs.Command.Session
import Provisioning.Proofs.Command.Settings
import Provisioning.Proofs.Network.Order
import Provisioning.Proofs.Network.Lowest
import Provisioning.Proofs.Network.Reservations
import Provisioning.Proofs.Network.Series
import Provisioning.Proofs.Network.Hosts
import Provisioning.Proofs.Command.Pool
import Provisioning.Proofs.Text.Digits
import Provisioning.Proofs.Text.Trimming
import Provisioning.Proofs.Network.Masks
import Provisioning.Proofs.Network.Octets
import Provisioning.Proofs.Network.Walks
import Provisioning.Proofs.Network.Notation
import Provisioning.Proofs.Network.RoundTrip
import Provisioning.Proofs.Template.Shortfalls
import Provisioning.Proofs.Template.Prices
import Provisioning.Proofs.Poll.Halted
import Provisioning.Proofs.Text.Classes
import Provisioning.Proofs.Quantity.Spelling
import Provisioning.Proofs.Quantity.Units
import Provisioning.Proofs.Quantity.Values
import Provisioning.Proofs.Quantity.Grammar
import Provisioning.Proofs.Terminal.Table
import Provisioning.Proofs.Command.Pricing
import Provisioning.Proofs.Command.NothingFits
import Provisioning.Proofs.Template.Spellings
