import Mathlib.Data.List.Forall2
import TypeStub.Annotation.Name
import TypeStub.Dialect.Expression

/-!
# The language of the standard dialect

A term is what a written type says, a name with members or none, and a form is what
annotations come to: nothing, one type, a union or a nilable type.  `WrittenAs` is
the grammar of both, and `normalForm` the form that the types of annotations come to.

Both are given without the writer.  The grammar says how a text is made up and
`normalForm` what is left of the types.
-/

namespace TypeStub

open TypeStub.Annotation

/-- What a written type says. -/
inductive Term
  | node (name : String) (members : List Term)

namespace Term

def isNil : Term → Bool
  | .node name [] => name = "NilClass"
  | .node _ (_ :: _) => false

theorem isNil_iff {term : Term} : term.isNil = true ↔ term = .node "NilClass" [] := by
  rcases term with ⟨name, - | ⟨member, members⟩⟩
  · simp [isNil]
  · simp [isNil]

@[elab_as_elim]
theorem induction {motive : Term → Prop}
    (node : ∀ name members, (∀ member ∈ members, motive member) → motive (.node name members))
    (term : Term) : motive term :=
  match term with
  | .node name members => node name members fun member _ => induction node member

end Term

/-- What annotations come to. -/
inductive Form
  | nothing
  | single (term : Term)
  | union (members : List Term)
  | nilable (members : List Term)

/-! ## The grammar -/

/-- A name as it is written. -/
def IsWrittenName (name : String) : Prop :=
  ∃ source : String, IsName source.toList ∧ name = Dialect.standard.spell source

/-- The text is the written form of the term: a name, or a name with members between
brackets, none of which is nil. -/
inductive Term.WrittenAs : Term → String → Prop
  | bare {name : String} : IsWrittenName name → WrittenAs (.node name []) name
  | generic {name : String} {members : List Term} {texts : List String} :
    IsWrittenName name → members ≠ [] → List.Forall₂ WrittenAs members texts →
      (∀ text ∈ texts, text ≠ "NilClass") →
      WrittenAs (.node name members) (name ++ "[" ++ listTypes texts ++ "]")

/-- The text is the written form of what annotations come to.  A union has two or more
members, none of which is nil. -/
inductive Form.WrittenAs : Form → String → Prop
  | nothing : WrittenAs .nothing ""
  | single {term : Term} {text : String} : term.WrittenAs text → WrittenAs (.single term) text
  | union {members : List Term} {texts : List String} :
    2 ≤ members.length → List.Forall₂ Term.WrittenAs members texts →
      (∀ text ∈ texts, text ≠ "NilClass") →
      WrittenAs (.union members) ("T.any(" ++ listTypes texts ++ ")")
  | nilable {members : List Term} {texts : List String} :
    members ≠ [] → List.Forall₂ Term.WrittenAs members texts →
      WrittenAs (.nilable members) ("T.nilable(" ++ listTypes texts ++ ")")

/-! ## Normal forms -/

namespace Annotation
namespace TypeNode

mutual

/-- What is left of a type: its name as it is written, and the members of a
collection that are not nil. -/
def term : TypeNode → Term
  | .simple name => .node (Dialect.standard.spell name) []
  | .collection name types =>
    .node (Dialect.standard.spell name) ((termsOf types).filter (!·.isNil))
  | .fixed name types => .node (Dialect.standard.spell name) ((termsOf types).filter (!·.isNil))
  | .mapping name _ _ => .node (Dialect.standard.spell name) []
  | .foreign text => .node text []

def termsOf : List TypeNode → List Term
  | [] => []
  | node :: nodes => term node :: termsOf nodes

end

end TypeNode
end Annotation

/-- What several terms come to.  The first nil among them makes the rest nilable. -/
def Form.of : List Term → Form
  | [] => .nothing
  | [term] => .single term
  | terms => if terms.any Term.isNil then .nilable (terms.eraseP Term.isNil) else .union terms

theorem Form.of_cons_cons (term next : Term) (terms : List Term) :
    Form.of (term :: next :: terms) =
      if (term :: next :: terms).any Term.isNil then
        .nilable ((term :: next :: terms).eraseP Term.isNil)
      else .union (term :: next :: terms) := rfl

/-- What the types of annotations come to. -/
def normalForm (nodes : List TypeNode) : Form := Form.of (TypeNode.termsOf nodes)

end TypeStub
