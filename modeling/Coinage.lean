import Coinage.BaseForm
import Coinage.Coin
import Coinage.Decimal
import Coinage.Decimal.Budget
import Coinage.Decimal.Printer
import Coinage.Decimal.Reader
import Coinage.Denom
import Coinage.Exchange
import Coinage.Expression
import Coinage.Expression.Sequence
import Coinage.Failure
import Coinage.Fixed
import Coinage.Fixed.Arithmetic
import Coinage.Fixed.Literal
import Coinage.Numeral
import Coinage.Numeral.Binary
import Coinage.Numeral.Working
import Coinage.Power
import Coinage.Proofs.BaseForm
import Coinage.Proofs.BaseForm.Idempotent
import Coinage.Proofs.BaseForm.Outcome
import Coinage.Proofs.BaseForm.Routes
import Coinage.Proofs.Coin
import Coinage.Proofs.Coin.Remake
import Coinage.Proofs.Coin.Split
import Coinage.Proofs.Decimal.Budget
import Coinage.Proofs.Decimal.Printer
import Coinage.Proofs.Decimal.Reader
import Coinage.Proofs.Decimal.Spelling
import Coinage.Proofs.Denom
import Coinage.Proofs.Exchange.Accuracy
import Coinage.Proofs.Exchange.Decimal
import Coinage.Proofs.Exchange.Detour
import Coinage.Proofs.Exchange.Magnitude
import Coinage.Proofs.Exchange.Monotone
import Coinage.Proofs.Exchange.Rate
import Coinage.Proofs.Exchange.Return
import Coinage.Proofs.Exchange.Settling
import Coinage.Proofs.Exchange.Whole
import Coinage.Proofs.Expression
import Coinage.Proofs.Expression.Grammar
import Coinage.Proofs.Expression.Layout
import Coinage.Proofs.Expression.Separator
import Coinage.Proofs.Expression.Sequence
import Coinage.Proofs.Failure
import Coinage.Proofs.Fixed
import Coinage.Proofs.Fixed.Arithmetic
import Coinage.Proofs.Fixed.Exact
import Coinage.Proofs.Fixed.Literal
import Coinage.Proofs.Fixed.Nearest
import Coinage.Proofs.Fixed.Product
import Coinage.Proofs.Fixed.Quotient
import Coinage.Proofs.Fixed.Text
import Coinage.Proofs.Numeral.Magnitude
import Coinage.Proofs.Numeral.Notation
import Coinage.Proofs.Numeral.Working
import Coinage.Proofs.Registry.Columns
import Coinage.Proofs.Registry.Entries
import Coinage.Proofs.Registry.History
import Coinage.Proofs.Registry.Order
import Coinage.Proofs.Registry.Registration
import Coinage.Proofs.Registry.Sheet
import Coinage.Proofs.Rounding
import Coinage.Proofs.Session.Circulation
import Coinage.Proofs.Session.Isolation
import Coinage.Proofs.Text.Blank
import Coinage.Proofs.Text.Digit
import Coinage.Proofs.Value
import Coinage.Registry
import Coinage.Registry.Sheet
import Coinage.Registry.Staking
import Coinage.Rounding
import Coinage.Scale
import Coinage.Session.Run
import Coinage.Session.Step
import Coinage.Text.Blank
import Coinage.Text.Digit
import Coinage.Text.Positional
import Coinage.Value
