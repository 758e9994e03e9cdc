import FieldPattern.Engine.Scripted
import FieldPattern.Main
import FieldPattern.Pattern.Decomposition
import FieldPattern.FileTree
import FieldPattern.Proofs.Expression.LeftmostLongest
import FieldPattern.Proofs.Pattern.Literal
import FieldPattern.Proofs.Expression.Denotation
import FieldPattern.Proofs.Pattern.Search
import FieldPattern.Proofs.Matching.Instance
import FieldPattern.Proofs.Pattern.Block
import FieldPattern.Proofs.Matching.Filling
import FieldPattern.Proofs.Matching.Scanning
import FieldPattern.Proofs.Matching.Session
import FieldPattern.Proofs.Pattern.Spacing
import FieldPattern.Proofs.Document.Plain
import FieldPattern.Proofs.Library.Update
import FieldPattern.Proofs.Matching.Respacing
import FieldPattern.Proofs.Matching.Calls
import FieldPattern.Proofs.Matching.Relaxing
import FieldPattern.Proofs.Command.Printing
import FieldPattern.Proofs.Expression.Respacing
import FieldPattern.Proofs.Expression.Renaming
import FieldPattern.Proofs.Library.Failing
import FieldPattern.Proofs.Matching.Preferred
import FieldPattern.Proofs.Pattern.Language
import FieldPattern.Proofs.Matching.Stretching
import FieldPattern.Proofs.Matching.Assignment
import FieldPattern.Proofs.Matching.WeakParsing
import FieldPattern.Proofs.Coercion.Reading
import FieldPattern.Proofs.Options.Canonical
import FieldPattern.Proofs.Document.Placed
