import CurrencyWallet.Amount
import CurrencyWallet.Balances
import CurrencyWallet.Binary64.Basic
import CurrencyWallet.Binary64.Shortest
import CurrencyWallet.Currency
import CurrencyWallet.Database.Address
import CurrencyWallet.Database.Books
import CurrencyWallet.Database.Conversation
import CurrencyWallet.Database.Statement
import CurrencyWallet.Decimal.Arithmetic
import CurrencyWallet.Decimal.Basic
import CurrencyWallet.Decimal.OfBinary64
import CurrencyWallet.Decimal.Parser
import CurrencyWallet.Decimal.Printer
import CurrencyWallet.Decimal.Rounding
import CurrencyWallet.Directory
import CurrencyWallet.Json.Codec
import CurrencyWallet.Json.Printer
import CurrencyWallet.Json.Reader
import CurrencyWallet.Json.Record
import CurrencyWallet.Json.Value
import CurrencyWallet.Ledger.Basic
import CurrencyWallet.Ledger.Error
import CurrencyWallet.Ledger.Mutation
import CurrencyWallet.Ledger.User
import CurrencyWallet.Main
import CurrencyWallet.Network
import CurrencyWallet.Power
import CurrencyWallet.Random.ChaCha
import CurrencyWallet.Random.Draw
import CurrencyWallet.Random.Source
import CurrencyWallet.Rates.Cache
import CurrencyWallet.Rates.Error
import CurrencyWallet.Rates.Provider
import CurrencyWallet.Rates.Quote
import CurrencyWallet.Rates.Remote
import CurrencyWallet.Service.Api
import CurrencyWallet.Service.Desk
import CurrencyWallet.Service.Error
import CurrencyWallet.Service.Quotes
import CurrencyWallet.Service.Reply
import CurrencyWallet.Service.Request
import CurrencyWallet.Settings
import CurrencyWallet.Simulation.Basic
import CurrencyWallet.Simulation.Metrics
import CurrencyWallet.Simulation.Options
import CurrencyWallet.Simulation.Rates
import CurrencyWallet.Simulation.Scenario
import CurrencyWallet.Text.Blank
import CurrencyWallet.Text.Hex
import CurrencyWallet.Text.Hidden
import CurrencyWallet.Text.Percent
import CurrencyWallet.Text.Quoted
import CurrencyWallet.Text.Ranges
import CurrencyWallet.Text.Split
import CurrencyWallet.Text.Utf8
import CurrencyWallet.Timestamp
import CurrencyWallet.Url.Basic
import CurrencyWallet.Url.Domain
import CurrencyWallet.Url.Domain.Composed
import CurrencyWallet.Url.Domain.Direction
import CurrencyWallet.Url.Domain.Joining
import CurrencyWallet.Url.Domain.Mapping
import CurrencyWallet.Url.Domain.Punycode
import CurrencyWallet.Url.Numeric
import CurrencyWallet.Url.Parser
import CurrencyWallet.UserId
import CurrencyWallet.Proofs.Decimal.Fitting
import CurrencyWallet.Proofs.Decimal.Arithmetic
import CurrencyWallet.Proofs.Decimal.Balance
import CurrencyWallet.Proofs.Ledger.Mutation
import CurrencyWallet.Proofs.Ledger.Booking
import CurrencyWallet.Proofs.Last
import CurrencyWallet.Proofs.Directory
import CurrencyWallet.Proofs.Rates.Lookup
import CurrencyWallet.Proofs.Service.Operations
import CurrencyWallet.Proofs.Service.Range
import CurrencyWallet.Proofs.Service.Atomicity
import CurrencyWallet.Proofs.Service.Reconciliation
import CurrencyWallet.Proofs.Database.Sql
import CurrencyWallet.Proofs.Database.Server
import CurrencyWallet.Proofs.Database.Agreement
import CurrencyWallet.Proofs.Rates.History
import CurrencyWallet.Proofs.Service.Quotes
import CurrencyWallet.Proofs.Service.ReadThrough
import CurrencyWallet.Proofs.Service.Isolation
import CurrencyWallet.Proofs.Database.Refusals
import CurrencyWallet.Proofs.Ledger.Competition
import CurrencyWallet.Proofs.Ledger.Registration
import CurrencyWallet.Proofs.Simulation.Course
import CurrencyWallet.Proofs.Simulation.Enrolment
import CurrencyWallet.Proofs.Simulation.Verification
import CurrencyWallet.Proofs.Simulation.Contention
import CurrencyWallet.Proofs.Service.Reliable
import CurrencyWallet.Proofs.Simulation.Random
import CurrencyWallet.Proofs.Ledger.Verdict
import CurrencyWallet.Proofs.Decimal.Rounding
import CurrencyWallet.Proofs.Decimal.Product
import CurrencyWallet.Proofs.Service.Conversion
import CurrencyWallet.Proofs.Json.Grammar
import CurrencyWallet.Proofs.UserId
import CurrencyWallet.Proofs.Json.Reading
import CurrencyWallet.Proofs.Json.Printing
import CurrencyWallet.Proofs.Json.Records
import CurrencyWallet.Proofs.Service.Exchange
import CurrencyWallet.Proofs.Service.Contact
import CurrencyWallet.Proofs.Service.Vanishing
import CurrencyWallet.Proofs.Service.Failure
import CurrencyWallet.Proofs.Service.Overflow
import CurrencyWallet.Proofs.Decimal.Order
import CurrencyWallet.Proofs.Service.Growth
import CurrencyWallet.Proofs.Binary64.Nearest
import CurrencyWallet.Proofs.Decimal.OfBinary64
import CurrencyWallet.Proofs.Amount
import CurrencyWallet.Proofs.Service.Request
import CurrencyWallet.Proofs.Service.Oversized
import CurrencyWallet.Proofs.Database.Course
import CurrencyWallet.Proofs.Database.Report
import CurrencyWallet.Proofs.Database.Registration
import CurrencyWallet.Proofs.Simulation.Merging
import CurrencyWallet.Proofs.Simulation.Percentiles
import CurrencyWallet.Proofs.Random.Reading
import CurrencyWallet.Proofs.Simulation.Operations
import CurrencyWallet.Proofs.Rates.Quote
import CurrencyWallet.Proofs.Rounding
import CurrencyWallet.Proofs.Simulation.Audit
