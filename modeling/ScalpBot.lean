import ScalpBot.Decimal.Text
import ScalpBot.Time.Text
import ScalpBot.Binary64.Text
import ScalpBot.Text.Quoted
import ScalpBot.Text.Case
import ScalpBot.Json.Reader
import ScalpBot.Json.Writer
import ScalpBot.Market.Json
import ScalpBot.Exchange.DryRun
import ScalpBot.Strategy.Scalping
import ScalpBot.Engine
import ScalpBot.Bitstamp.Signature
import ScalpBot.Bitstamp.Reply
import ScalpBot.Toml.Document
import ScalpBot.Settings.Load
import ScalpBot.Web.Address
import ScalpBot.Bitstamp.Client
import ScalpBot.Text.Similarity
import ScalpBot.Text.Uuid
import ScalpBot.Program.Arguments
import ScalpBot.Program.DotEnv
import ScalpBot.Program.Log
import ScalpBot.Program.Launch
import ScalpBot.Main
import ScalpBot.Proofs.Exchange.Course
import ScalpBot.Proofs.Engine.Loop
import ScalpBot.Proofs.Strategy.Occasion
import ScalpBot.Proofs.Strategy.History
import ScalpBot.Proofs.Strategy.Trading
import ScalpBot.Proofs.Exchange.Holdings
import ScalpBot.Proofs.Strategy.LiveOrders
import ScalpBot.Proofs.Strategy.Atomicity
import ScalpBot.Proofs.Bitstamp.Calls
import ScalpBot.Proofs.Bitstamp.Classification
import ScalpBot.Proofs.Decimal.Value
import ScalpBot.Proofs.Result
import ScalpBot.Proofs.Strategy.Margin
import ScalpBot.Proofs.Strategy.Pricing
import ScalpBot.Proofs.Json.Members
import ScalpBot.Proofs.Record
import ScalpBot.Proofs.Bitstamp.Delivery
import ScalpBot.Proofs.Bitstamp.Rejection
import ScalpBot.Proofs.Bitstamp.OpenOrders
import ScalpBot.Proofs.Exchange.DryRun
import ScalpBot.Proofs.Program.CommandLine
import ScalpBot.Proofs.Bitstamp.Requests
import ScalpBot.Proofs.Program.Simulation
import ScalpBot.Proofs.Strategy.CallOrder
import ScalpBot.Proofs.Strategy.Protocol
import ScalpBot.Proofs.Decimal.Range
import ScalpBot.Proofs.Decimal.Threshold
import ScalpBot.Proofs.Strategy.Overflow
import ScalpBot.Proofs.Strategy.Positivity
import ScalpBot.Proofs.Web.PlainPath
import ScalpBot.Proofs.Web.Appended
import ScalpBot.Proofs.Bitstamp.Verification
import ScalpBot.Proofs.Engine.Statistics
import ScalpBot.Proofs.Decimal.Quotient
import ScalpBot.Proofs.Strategy.Budget
import ScalpBot.Proofs.Exchange.Acceptance
import ScalpBot.Proofs.Strategy.Rehearsal
import ScalpBot.Proofs.Decimal.Rounded
import ScalpBot.Proofs.Decimal.HalfUp
import ScalpBot.Proofs.Decimal.Monotone
import ScalpBot.Proofs.Web.Form
import ScalpBot.Proofs.Bitstamp.Authentication
import ScalpBot.Proofs.Settings.Validation
import ScalpBot.Proofs.Strategy.Sizing
import ScalpBot.Proofs.Strategy.Asking
import ScalpBot.Proofs.Strategy.Monotonicity
import ScalpBot.Proofs.Bitstamp.Secrecy
import ScalpBot.Proofs.Bitstamp.Orders
import ScalpBot.Proofs.Bitstamp.Unambiguous
import ScalpBot.Proofs.Text.Digits
import ScalpBot.Proofs.Text.Uuid
import ScalpBot.Proofs.Decimal.Text
import ScalpBot.Proofs.Time.Calendar
import ScalpBot.Proofs.Time.Text
import ScalpBot.Proofs.Json.Number
import ScalpBot.Proofs.Json.Text
import ScalpBot.Proofs.Json.Codec
import ScalpBot.Proofs.Market.Codec
import ScalpBot.Proofs.Bitstamp.Messages
import ScalpBot.Proofs.Settings.Paths
import ScalpBot.Proofs.Settings.Leaves
import ScalpBot.Proofs.Settings.Layers
import ScalpBot.Proofs.Settings.Origins
import ScalpBot.Proofs.Settings.Written
import ScalpBot.Proofs.Settings.Loading
import ScalpBot.Proofs.Settings.VariableText
import ScalpBot.Proofs.Settings.Overriding
import ScalpBot.Proofs.Bitstamp.OrderBook
import ScalpBot.Proofs.Strategy.PriceScale
import ScalpBot.Proofs.Binary64.Nearest
import ScalpBot.Proofs.Binary64.Shortest
import ScalpBot.Proofs.Binary64.Text
import ScalpBot.Proofs.Json.Literal
import ScalpBot.Proofs.Bitstamp.Fees
