import TypeStub.Annotation.Group

/-!
# The grammar of annotations

What it is for tokens to be a list of types, said without a reader: types have
separators between them, a type is a name, a name with groups, or groups alone, and
a group is a bracket, types and the end of the bracket.  Each rule also gives the
nodes that the tokens mean.  Of several groups in a row the last one counts, and
the first one gives the name if none is written.
-/

namespace TypeStub
namespace Annotation

mutual

/-- Tokens that are one or more types. -/
inductive Types : List Token → List TypeNode → Prop
  | single {w : List Token} {node : TypeNode} : SingleType w node → Types w [node]
  | cons {w ws : List Token} {separator : Token} {node : TypeNode} {nodes : List TypeNode} :
    SingleType w node → separator.kind = .separator → Types ws nodes →
      Types (w ++ separator :: ws) (node :: nodes)

inductive SingleType : List Token → TypeNode → Prop
  | name {name : Token} : name.kind = .name → SingleType [name] (.simple name.lexeme)
  | named {name : Token} {w : List Token} {bracket : Bracket} {group : Group} :
    name.kind = .name → Groups w bracket group → SingleType (name :: w) (group.node name.lexeme)
  | unnamed {w : List Token} {bracket : Bracket} {group : Group} :
    Groups w bracket group → SingleType w (group.node bracket.defaultName)

/-- Tokens that are one or more groups, with the bracket of the first and the last
of them. -/
inductive Groups : List Token → Bracket → Group → Prop
  | single {w : List Token} {bracket : Bracket} {group : Group} :
    SingleGroup w bracket group → Groups w bracket group
  | cons {w ws : List Token} {bracket next : Bracket} {group last : Group} :
    SingleGroup w bracket group → Groups ws next last → Groups (w ++ ws) bracket last

inductive SingleGroup : List Token → Bracket → Group → Prop
  | angle {first last : Token} {w : List Token} {types : List TypeNode} :
    first.kind = .opening .angle → Types w types → last.kind = .closing .angle →
      SingleGroup (first :: w ++ [last]) .angle (.angle types)
  | paren {first last : Token} {w : List Token} {types : List TypeNode} :
    first.kind = .opening .paren → Types w types → last.kind = .closing .paren →
      SingleGroup (first :: w ++ [last]) .paren (.paren types)
  | brace {first arrow last : Token} {ks vs : List Token} {keys values : List TypeNode} :
    first.kind = .opening .brace → Types ks keys → arrow.kind = .closing .arrow →
      Types vs values → last.kind = .closing .brace →
      SingleGroup (first :: ks ++ arrow :: vs ++ [last]) .brace (.brace keys values)

end

theorem Types.nodes_ne_nil {w : List Token} {nodes : List TypeNode} (h : Types w nodes) :
    nodes ≠ [] := by
  cases h <;> exact List.cons_ne_nil _ _

end Annotation
end TypeStub
