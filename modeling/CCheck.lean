import CCheck.Main
import CCheck.Proofs.Checking.Conditionals
import CCheck.Proofs.Checking.Definitions
import CCheck.Proofs.Checking.Redeclarations
import CCheck.Proofs.Checking.Tallies
import CCheck.Proofs.Constants.Exactness
import CCheck.Proofs.Constants.Fitting
import CCheck.Proofs.Constants.Truncation
import CCheck.Proofs.Layout
import CCheck.Proofs.Lexing.Directives
import CCheck.Proofs.Lexing.LineEndings
import CCheck.Proofs.Lexing.Strings
import CCheck.Proofs.Naming.Restoring
import CCheck.Proofs.Parsing.BaseTypes
import CCheck.Proofs.Parsing.NearestIf
import CCheck.Proofs.Parsing.Precedence
import CCheck.Proofs.Records.ArrayElements
import CCheck.Proofs.Scoping.Blocks
import CCheck.Proofs.Specifiers.RecordIdentity
import CCheck.Proofs.Types.Initializers
