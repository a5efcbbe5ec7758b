import SqlScribe.Proofs.Groups
import SqlScribe.Proofs.Literal.Prepared
import SqlScribe.Proofs.Statement.Rebinding

/-!
# Inlined values

A statement with inlined values is the one with parameters in which the literal of each parameter
stands in the place of its marker. The literal is that of the value as it is bound, whatever form
the dialect binds it in.
-/

namespace SqlScribe

open Emit

namespace Piece

variable {d : Dialect} {ps qs : List Piece}

end Piece

namespace Dialect

variable {d : Dialect}

end Dialect

end SqlScribe
