import Eligibility.Catalog.Scripted
import Eligibility.Main
import Eligibility.Rule.Printer
import Eligibility.RuleBook.Step
import Eligibility.Proofs.Rule.RoundTrip
import Eligibility.Proofs.Rule.Concatenation
import Eligibility.Proofs.Rule.JoinedTexts
import Eligibility.Proofs.Action
import Eligibility.Proofs.Rule.Encoding
import Eligibility.Proofs.Rule.Outcome
import Eligibility.Proofs.RuleBook.Combining
import Eligibility.Proofs.Number.Spelling
import Eligibility.Proofs.Rule.NumberLiterals
import Eligibility.Proofs.Store.Growth
import Eligibility.Proofs.Catalog.Registering
import Eligibility.Proofs.RuleBook.Reading
import Eligibility.Proofs.RuleBook.Creating
import Eligibility.Proofs.RuleBook.Running
import Eligibility.Proofs.Api.Creation
import Eligibility.Proofs.Api.History
import Eligibility.Proofs.Rule.Documents
import Eligibility.Proofs.RuleBook.Failing
import Eligibility.Proofs.Api.Routing
import Eligibility.Proofs.Api.FrontEnds
import Eligibility.Proofs.Document.Numbers
import Eligibility.Proofs.Document.RoundTrip
import Eligibility.Proofs.Document.Bytes
import Eligibility.Proofs.Rule.Safety
import Eligibility.Proofs.Rule.Viability
import Eligibility.Proofs.Rule.DepthLimit
import Eligibility.Proofs.Rule.Coverage
import Eligibility.Proofs.Rule.Spacing
import Eligibility.Proofs.Rule.Faults
import Eligibility.Proofs.Number.Order
import Eligibility.Proofs.Rule.NumberOrder
import Eligibility.Proofs.Rule.TwoRecords
import Eligibility.Proofs.RuleBook.RequestOrder
import Eligibility.Proofs.Rule.LooseEquality
import Eligibility.Proofs.Rule.QuotedNumbers
import Eligibility.Proofs.Text.Lowering
import Eligibility.Proofs.Catalog.Hints
import Eligibility.Proofs.Settings.Reading
import Eligibility.Proofs.CommandLine.Launching
import Eligibility.Proofs.Rule.Folding
import Eligibility.Proofs.Document.Opening
import Eligibility.Proofs.Settings.Hints
import Eligibility.Proofs.Text.Escaping
import Eligibility.Proofs.Api.Addressing
import Eligibility.Proofs.Log.Context
import Eligibility.Proofs.Api.Events
import Eligibility.Proofs.Api.Tracing
import Eligibility.Proofs.Rule.ExactLiterals
