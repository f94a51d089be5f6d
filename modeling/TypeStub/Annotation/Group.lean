import TypeStub.Annotation.Token
import TypeStub.Annotation.TypeNode

/-!
# Bracketed groups

A group is what stands between a bracket and its end.  A type with a group has a
kind that the bracket decides and a name that stands in front of the bracket, or
that the bracket implies if nothing stands there.
-/

namespace TypeStub
namespace Annotation

/-- A bracket with the types inside it. -/
inductive Group
  | angle (types : List TypeNode)
  | paren (types : List TypeNode)
  | brace (keys values : List TypeNode)
  deriving DecidableEq, Repr

def Group.node (name : String) : Group → TypeNode
  | .angle types => .collection name types
  | .paren types => .fixed name types
  | .brace keys values => .mapping name keys values

/-- The name of a type that starts with a bracket. -/
def Bracket.defaultName : Bracket → String
  | .angle => "Array"
  | .paren => "Array"
  | .brace => "Hash"

end Annotation
end TypeStub
