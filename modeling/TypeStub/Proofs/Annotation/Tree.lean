import TypeStub.Proofs.Annotation.Derivation

/-!
# Names and brackets of a tree

The names of a tree and the brackets of its composite types, both from the outside
in and from left to right, the keys of a mapping before its values.
-/

namespace TypeStub
namespace Annotation

namespace TypeNode

mutual

/-- The names of a tree, that of a type before those of its members. -/
def names : TypeNode → List String
  | .simple name => [name]
  | .collection name types => name :: namesOf types
  | .fixed name types => name :: namesOf types
  | .mapping name keys values => name :: (namesOf keys ++ namesOf values)
  | .foreign _ => []

def namesOf : List TypeNode → List String
  | [] => []
  | node :: nodes => names node ++ namesOf nodes

end

mutual

/-- The brackets of the composite types of a tree, that of a type before those of
its members. -/
def brackets : TypeNode → List Bracket
  | .simple _ => []
  | .collection _ types => .angle :: bracketsOf types
  | .fixed _ types => .paren :: bracketsOf types
  | .mapping _ keys values => .brace :: (bracketsOf keys ++ bracketsOf values)
  | .foreign _ => []

def bracketsOf : List TypeNode → List Bracket
  | [] => []
  | node :: nodes => brackets node ++ bracketsOf nodes

end

end TypeNode

open TypeNode

namespace Group

def names : Group → List String
  | .angle types => namesOf types
  | .paren types => namesOf types
  | .brace keys values => namesOf keys ++ namesOf values

def brackets : Group → List Bracket
  | .angle types => .angle :: bracketsOf types
  | .paren types => .paren :: bracketsOf types
  | .brace keys values => .brace :: (bracketsOf keys ++ bracketsOf values)

@[simp] theorem names_node (name : String) (group : Group) :
    (group.node name).names = name :: group.names := by
  cases group <;> rfl

@[simp] theorem brackets_node (name : String) (group : Group) :
    (group.node name).brackets = group.brackets := by
  cases group <;> rfl

end Group

end Annotation
end TypeStub
