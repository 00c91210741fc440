import Metrology.Calculator.Method
import Metrology.Json.Form
import Metrology.Json.Reader
import Metrology.Main
import Metrology.Proofs.Container
import Metrology.Proofs.Dimension.Algebra
import Metrology.Proofs.Factor
import Metrology.Proofs.Conversion.Pivot
import Metrology.Proofs.Conversion.Groupoid
import Metrology.Proofs.Conversion.Slope
import Metrology.Proofs.Conversion.Order
import Metrology.Proofs.Measurement.Arithmetic
import Metrology.Proofs.Measurement.Comparison
import Metrology.Proofs.Measurement.Affine
import Metrology.Proofs.Measurement.Availability
import Metrology.Proofs.Spelling.Lookup
import Metrology.Proofs.Spelling.Rows
import Metrology.Proofs.Spelling.Order
import Metrology.Proofs.Spelling.Case
import Metrology.Proofs.Reading
import Metrology.Proofs.Quantity.Rule
import Metrology.Proofs.System.Calculation
import Metrology.Proofs.Binary64.Nearest
import Metrology.Proofs.Decimal.Overflow
import Metrology.Proofs.Json.Numeral
import Metrology.Proofs.Json.Reading
import Metrology.Proofs.Json.Document
import Metrology.Proofs.Json.Shown
import Metrology.Proofs.Json.Record
import Metrology.Proofs.Json.RoundTrip
import Metrology.Proofs.Root
import Metrology.Proofs.Container.Hash
import Metrology.Proofs.Measurement.Geometry
import Metrology.Proofs.Measurement.Splitting
import Metrology.Proofs.Quantity.Cancellation
import Metrology.Proofs.Quantity.Absolute
import Metrology.Proofs.Text.Alphabet
import Metrology.Proofs.Text.Form
import Metrology.Proofs.Text.Number
import Metrology.Proofs.Spelling.Variant
import Metrology.Proofs.Spelling.Respelling
import Metrology.Proofs.Container.Symmetric
import Metrology.Proofs.Container.Inverse
import Metrology.Proofs.Container.Direction
import Metrology.Proofs.Quantity.Stress
import Metrology.Proofs.Text.Stable
import Metrology.Proofs.Container.Singular
import Metrology.Proofs.Container.Product
import Metrology.Proofs.Dimension.Text
import Metrology.Proofs.Quantity.Direction
import Metrology.Proofs.Quantity.Gradient
import Metrology.Proofs.Container.Order
