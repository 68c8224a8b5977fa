import TagTemplate.Text.Case
import TagTemplate.Text.Quoted
import TagTemplate.Text.Words
import TagTemplate.Text.Utf8
import TagTemplate.Text.Alphabetic
import TagTemplate.Text.Numeric
import TagTemplate.Text.Uppercase
import TagTemplate.Number.Arithmetic
import TagTemplate.Number.Decimal
import TagTemplate.Number.Shortest
import TagTemplate.Name
import TagTemplate.Collation
import TagTemplate.Sequence
import TagTemplate.Record
import TagTemplate.Value
import TagTemplate.Coercion
import TagTemplate.Operator.Table
import TagTemplate.Expr.Builder
import TagTemplate.TagShape
import TagTemplate.Error
import TagTemplate.Token
import TagTemplate.Forest
import TagTemplate.Expr.Eval
import TagTemplate.Directive.Execute
import TagTemplate.Directive.Effort
import TagTemplate.Template
import TagTemplate.CommandLine.Run
import TagTemplate.CommandLine.FileTree
import TagTemplate.Main
import TagTemplate.Proofs.Expr.Reading
import TagTemplate.Proofs.Forest.Standard
import TagTemplate.Proofs.Token.Structure
import TagTemplate.Proofs.Rendering.Cancellation
import TagTemplate.Proofs.Rendering.Leniency
import TagTemplate.Proofs.Rendering.Outputs
import TagTemplate.Proofs.Rendering.Termination
import TagTemplate.Proofs.Rendering.Displaced
import TagTemplate.Proofs.Rendering.Sequencing
import TagTemplate.Proofs.Template.Concatenation
import TagTemplate.Proofs.Template.Expressible
import TagTemplate.Proofs.Token.Delimiters
import TagTemplate.Proofs.Text.LowerCase
import TagTemplate.Proofs.Name.Keys
import TagTemplate.Proofs.Tag.Shapes
import TagTemplate.Proofs.Rendering.Contents
import TagTemplate.Proofs.Rendering.Loops
import TagTemplate.Proofs.Expr.Spelling
import TagTemplate.Proofs.Expr.Frame
import TagTemplate.Proofs.Sequence.Itemwise
import TagTemplate.Proofs.Tag.Splitting
import TagTemplate.Proofs.Operator.Registration
import TagTemplate.Proofs.Expr.Groups
import TagTemplate.Proofs.Record.History
import TagTemplate.Proofs.Dialect.Constants
import TagTemplate.Proofs.Context.Indexing
import TagTemplate.Proofs.Forest.Narrowing
import TagTemplate.Proofs.Expr.Checked
import TagTemplate.Proofs.Rendering.Branches
import TagTemplate.Proofs.Operator.Comparison
import TagTemplate.Proofs.Dialect.Coherence
import TagTemplate.Proofs.Token.Faults
import TagTemplate.Proofs.Tag.Origins
import TagTemplate.Proofs.Rendering.Blanks
import TagTemplate.Proofs.Template.Faults
import TagTemplate.Proofs.CommandLine.Spelling
import TagTemplate.Proofs.Settings.Faults
import TagTemplate.Proofs.Settings.Written
import TagTemplate.Proofs.Forest.Respelled
import TagTemplate.Proofs.Rendering.Words
import TagTemplate.Proofs.Sequence.Ranges
import TagTemplate.Proofs.Tag.LongestFirst
import TagTemplate.Proofs.Expr.Stacks
