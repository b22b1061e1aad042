import Offside.Command
import Offside.Main
import Offside.Session
import Offside.Proofs.Logged
import Offside.Proofs.Loops
import Offside.Proofs.Layout
import Offside.Proofs.Outline
import Offside.Proofs.Strictness
import Offside.Proofs.Legible
import Offside.Proofs.Indentation
import Offside.Proofs.Reading
import Offside.Proofs.Execution
import Offside.Proofs.Counting
import Offside.Proofs.Grammar
import Offside.Proofs.Retouch
import Offside.Proofs.Reload
import Offside.Proofs.Normal
import Offside.Proofs.Typed
import Offside.Proofs.Echo
import Offside.Proofs.Interchange
import Offside.Proofs.Bracketing
import Offside.Proofs.Converters
import Offside.Proofs.Dumping
import Offside.Proofs.Reporting
import Offside.Proofs.Emission
import Offside.Proofs.Delivery
import Offside.Proofs.Unambiguous
import Offside.Proofs.Exposure
import Offside.Proofs.Margins
import Offside.Proofs.Assignments
import Offside.Proofs.StringValues
import Offside.Proofs.IntegerValues
import Offside.Proofs.Loggers
import Offside.Proofs.Spelling
import Offside.Proofs.Correspondence
import Offside.Proofs.Shapes
import Offside.Proofs.Essence
import Offside.Proofs.Informational
