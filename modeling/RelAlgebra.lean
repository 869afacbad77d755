import RelAlgebra.Database.Scripted
import RelAlgebra.Main
import RelAlgebra.Shell.Completion
import RelAlgebra.Proofs.View.Generators
import RelAlgebra.Proofs.View.Making
import RelAlgebra.Proofs.Database.LiveViews
import RelAlgebra.Proofs.View.Footprint
import RelAlgebra.Proofs.Session.Cleanup
import RelAlgebra.Proofs.Text.Trim
import RelAlgebra.Proofs.Token.Parameter
import RelAlgebra.Proofs.Token.Spelling
import RelAlgebra.Proofs.Statement.Splitting
import RelAlgebra.Proofs.Expr.Grammar
import RelAlgebra.Proofs.Expr.Printing
import RelAlgebra.Proofs.Statement.Reading
import RelAlgebra.Proofs.Database.Morphism
import RelAlgebra.Proofs.Database.Watched
import RelAlgebra.Proofs.View.Exchange
import RelAlgebra.Proofs.View.Order
import RelAlgebra.Proofs.Session.History
import RelAlgebra.Proofs.Session.Support
import RelAlgebra.Proofs.Session.Outcome
import RelAlgebra.Proofs.View.Handling
import RelAlgebra.Proofs.Statement.Batch
import RelAlgebra.Proofs.Shell.Writing
import RelAlgebra.Proofs.Shell.Acts
import RelAlgebra.Proofs.Session.Log
import RelAlgebra.Proofs.Shell.Incremental
import RelAlgebra.Proofs.Shell.Lasting
import RelAlgebra.Proofs.Shell.Limits
import RelAlgebra.Proofs.View.Currency
import RelAlgebra.Proofs.Session.Dialects
import RelAlgebra.Proofs.Shell.Ending
import RelAlgebra.Proofs.View.SetOperators
import RelAlgebra.Proofs.View.Address
import RelAlgebra.Proofs.View.Clearing
import RelAlgebra.Proofs.Session.ErrorTree
import RelAlgebra.Proofs.Shell.Verbose
import RelAlgebra.Proofs.Statement.Closed
import RelAlgebra.Proofs.Statement.Viable
import RelAlgebra.Proofs.View.JoinColumns
import RelAlgebra.Proofs.Shell.Prompts
import RelAlgebra.Proofs.Token.Written
import RelAlgebra.Proofs.Sql.Quoting
import RelAlgebra.Proofs.View.Renaming
import RelAlgebra.Proofs.View.ColumnLists
import RelAlgebra.Proofs.View.Rendering
import RelAlgebra.Proofs.Shell.Completion
import RelAlgebra.Proofs.Shell.Copying
import RelAlgebra.Proofs.Shell.Lines
import RelAlgebra.Proofs.Database.Batches
import RelAlgebra.Proofs.Text.Order
import RelAlgebra.Proofs.Database.Patterns
import RelAlgebra.Proofs.Database.Relations
import RelAlgebra.Proofs.Store.Laws
import RelAlgebra.Proofs.Database.Listing
