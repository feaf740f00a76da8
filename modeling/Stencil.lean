import Stencil.Main
import Stencil.Proofs.Expr.Folding
import Stencil.Proofs.Template
import Stencil.Proofs.ErrorPosition
import Stencil.Proofs.RoundTrip
import Stencil.Proofs.Session
import Stencil.Proofs.Tower
import Stencil.Proofs.NestingLimit
import Stencil.Proofs.Context
import Stencil.Proofs.Expr.Mentions
import Stencil.Proofs.Value.Equality
import Stencil.Proofs.Value.Map
import Stencil.Proofs.Value.Part
import Stencil.Proofs.InsertionOrder
import Stencil.Proofs.Members
import Stencil.Proofs.Locality
import Stencil.Proofs.Configuration
import Stencil.Proofs.Recognition
import Stencil.Proofs.ExactLimit
import Stencil.Proofs.Options
import Stencil.Proofs.Bindings
import Stencil.Proofs.WholeMatch
import Stencil.Proofs.Arithmetic
import Stencil.Proofs.PrintedInteger
import Stencil.Proofs.Value.Loose
import Stencil.Proofs.NumberLiteral
import Stencil.Proofs.Indexing
import Stencil.Proofs.TextPosition
import Stencil.Proofs.QuotedSettings
import Stencil.Proofs.Arity
import Stencil.Proofs.Splitting
import Stencil.Proofs.IntegerText
import Stencil.Proofs.NumberMethods
import Stencil.Proofs.Value.Equivalence
import Stencil.Proofs.CursorDiscipline
