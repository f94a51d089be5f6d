import TypeStub.Annotation.Grammar

/-!
# Induction over derivations

The four relations of the grammar call one another, so a statement about derived
types is proved together with one about a single type, about groups and about one
group.  `Preserved` says that every rule keeps the four statements, and
`Preserved.types` draws the conclusion for types once and for all.
-/

namespace TypeStub
namespace Annotation

/-- The rules of the grammar keep four statements: `T` about types, `S` about a single
type, `G` about groups and `H` about a single group. -/
structure Preserved (T : List Token → List TypeNode → Prop) (S : List Token → TypeNode → Prop)
    (G H : List Token → Bracket → Group → Prop) : Prop where
  single {w : List Token} {node : TypeNode} : S w node → T w [node]
  cons {w ws : List Token} {separator : Token} {node : TypeNode} {nodes : List TypeNode} :
    S w node → separator.kind = .separator → T ws nodes → T (w ++ separator :: ws) (node :: nodes)
  name {name : Token} : name.kind = .name → S [name] (.simple name.lexeme)
  named {name : Token} {w : List Token} {bracket : Bracket} {group : Group} :
    name.kind = .name → G w bracket group → S (name :: w) (group.node name.lexeme)
  unnamed {w : List Token} {bracket : Bracket} {group : Group} :
    G w bracket group → S w (group.node bracket.defaultName)
  group {w : List Token} {bracket : Bracket} {group : Group} :
    H w bracket group → G w bracket group
  groups {w ws : List Token} {bracket next : Bracket} {group last : Group} :
    H w bracket group → G ws next last → G (w ++ ws) bracket last
  angle {first last : Token} {w : List Token} {types : List TypeNode} :
    first.kind = .opening .angle → T w types → last.kind = .closing .angle →
      H (first :: w ++ [last]) .angle (.angle types)
  paren {first last : Token} {w : List Token} {types : List TypeNode} :
    first.kind = .opening .paren → T w types → last.kind = .closing .paren →
      H (first :: w ++ [last]) .paren (.paren types)
  brace {first arrow last : Token} {ks vs : List Token} {keys values : List TypeNode} :
    first.kind = .opening .brace → T ks keys → arrow.kind = .closing .arrow → T vs values →
      last.kind = .closing .brace →
      H (first :: ks ++ arrow :: vs ++ [last]) .brace (.brace keys values)

theorem Preserved.types {T : List Token → List TypeNode → Prop}
    {S : List Token → TypeNode → Prop} {G H : List Token → Bracket → Group → Prop}
    (rules : Preserved T S G H) {w : List Token} {nodes : List TypeNode} (h : Types w nodes) :
    T w nodes := by
  refine @Types.rec (fun w nodes _ => T w nodes) (fun w node _ => S w node)
    (fun w bracket group _ => G w bracket group) (fun w bracket group _ => H w bracket group)
    ?_ ?_ ?_ ?_ ?_ ?_ ?_ ?_ ?_ ?_ w nodes h
  · exact fun _ => rules.single
  · exact fun _ hseparator _ hnode hnodes => rules.cons hnode hseparator hnodes
  · exact rules.name
  · exact fun hname _ hgroups => rules.named hname hgroups
  · exact fun _ => rules.unnamed
  · exact fun _ => rules.group
  · exact fun _ _ hgroup hgroups => rules.groups hgroup hgroups
  · exact fun hfirst _ hlast htypes => rules.angle hfirst htypes hlast
  · exact fun hfirst _ hlast htypes => rules.paren hfirst htypes hlast
  · exact fun hfirst _ harrow _ hlast hkeys hvalues =>
      rules.brace hfirst hkeys harrow hvalues hlast

end Annotation
end TypeStub
