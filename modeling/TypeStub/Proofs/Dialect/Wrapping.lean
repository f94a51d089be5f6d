import TypeStub.Proofs.Dialect.Layering
import TypeStub.Proofs.Dialect.Writing
import TypeStub.Proofs.Template.Placeholder

/-!
# What a checked dialect wraps

Layers are checked for `{}` in the text of their wrappers and for nothing else.  So a
dialect that passes the check may still fail to write a union: `expression_of_two_places`.

Of the wrappers that pass it, those with a single place and nothing else to fill are the
ones that work.  Types of several annotations are written just if the wrapper that they need
is one of these, and they stand in its place as they are; otherwise the template is at fault
(`expression_of_several_eq_ok_iff`).
-/

namespace TypeStub
namespace Dialect

open TypeStub.Annotation

/-! ## Types of several annotations -/

/-- The template that types of several annotations are put in. -/
def wrapper (dialect : Dialect) (types : List String) : String :=
  if dialect.nilType ∈ types then dialect.nilableTemplate else dialect.unionTemplate

theorem Usable.wrapper {dialect : Dialect} (h : dialect.Usable) (types : List String) :
    ['{', '}'] <:+: (dialect.wrapper types).toList := by
  rw [Dialect.wrapper]
  split
  · exact h.2.1
  · exact h.2.2

section

variable [Template.Members] {dialect : Dialect}

theorem writeNodes_eq_ok_iff {nodes : List TypeNode} {types : List String} :
    dialect.writeNodes nodes = .ok types ↔
      List.Forall₂ (fun node type => dialect.writeNode node = .ok type) nodes types := by
  rw [writeNodes_eq_mapM, mapM_eq_ok_iff]

theorem exists_readInto_of_writeAnnotations {annotations types : List String}
    (h : dialect.writeAnnotations annotations = .ok types) :
    ∃ lists, ReadInto annotations lists := by
  induction annotations generalizing types with
  | nil => exact ⟨[], .nil⟩
  | cons text annotations ih =>
    rw [writeAnnotations] at h
    obtain ⟨nodes, hparse, h⟩ := bind_eq_ok_iff.mp h
    obtain ⟨written, -, h⟩ := bind_eq_ok_iff.mp h
    obtain ⟨rest, hrest, -⟩ := bind_eq_ok_iff.mp h
    obtain ⟨lists, hlists⟩ := ih hrest
    exact ⟨nodes :: lists, .cons (mapError_eq_ok_iff.mp hparse) hlists⟩

/-- Annotations are written just if all of them are read and all their types written. -/
theorem writeAnnotations_eq_ok_iff {annotations types : List String} :
    dialect.writeAnnotations annotations = .ok types ↔
      ∃ lists, ReadInto annotations lists ∧
        List.Forall₂ (fun node type => dialect.writeNode node = .ok type) lists.flatten types := by
  constructor
  · intro h
    obtain ⟨lists, hlists⟩ := exists_readInto_of_writeAnnotations h
    rw [writeAnnotations_of_readInto dialect hlists] at h
    exact ⟨lists, hlists, writeNodes_eq_ok_iff.mp h⟩
  · rintro ⟨lists, hlists, htypes⟩
    rw [writeAnnotations_of_readInto dialect hlists]
    exact writeNodes_eq_ok_iff.mpr htypes

theorem combine_of_several {types : List String} (h : 1 < types.length) :
    dialect.combine types = wrap (dialect.wrapper types) (types.erase dialect.nilType) := by
  rw [combine, if_neg (Nat.not_le_of_lt h), Dialect.wrapper]
  split
  · rfl
  · rename_i hnil
    rw [List.erase_of_not_mem hnil]

end

/-- In a dialect that passes the checks of its layers, types of several annotations are
written just if a place is all there is to fill in their wrapper.  The types stand in this
place, all but the one nil that makes the others nilable.  Without such a place it is the
template that fails. -/
theorem expression_of_several_eq_ok_iff [Template.Members] {layers : List Layer} {dialect : Dialect}
    {annotations types : List String} {lists : List (List TypeNode)}
    (hdialect : ofLayers layers = .ok dialect) (hread : ReadInto annotations lists)
    (hwritten : List.Forall₂ (fun node type => dialect.writeNode node = .ok type)
      lists.flatten types)
    (hseveral : 1 < types.length) (hopen : Template.HasOpenPlace (dialect.wrapper types)) :
    (∀ text, dialect.expression annotations = .ok text ↔
        ∃ front back, Template.IsPlaceBetween front back (dialect.wrapper types) ∧
          text = front ++ listTypes (types.erase dialect.nilType) ++ back) ∧
      ∀ failure, dialect.expression annotations = .error failure →
        ∃ fault, failure = .template fault := by
  have hplaceholder := (usable_of_ofLayers hdialect).wrapper types
  have hexpression : dialect.expression annotations =
      (Template.render (dialect.wrapper types)
        ⟨[listTypes (types.erase dialect.nilType)], []⟩).mapError .template := by
    rw [expression, writeAnnotations_eq_ok_iff.mpr ⟨lists, hread, hwritten⟩]
    exact combine_of_several hseveral
  rw [hexpression]
  refine ⟨fun text => mapError_eq_ok_iff.trans ?_, fun _ => exists_of_mapError_eq_error⟩
  exact Template.render_eq_ok_iff hplaceholder hopen _ text

/-- A union in braces, which are doubled in the template, still has its place. -/
theorem expression_of_braced_union :
    ∃ dialect,
      ofLayers [⟨none, none, none, some "\x7b\x7b\x7b\x7d\x7d\x7d", none⟩] = .ok dialect ∧
        ReadInto ["A", "B"] [[.simple "A"], [.simple "B"]] ∧
        List.Forall₂ (fun node type => dialect.writeNode node = .ok type)
          [.simple "A", .simple "B"] ["A", "B"] ∧
        Template.HasOpenPlace (dialect.wrapper ["A", "B"]) ∧
        dialect.expression ["A", "B"] = .ok "\x7bA, B\x7d" := by
  have hread : ReadInto ["A", "B"] [[.simple "A"], [.simple "B"]] :=
    .cons (by cbv) (.cons (by cbv) .nil)
  have hbetween : Template.IsPlaceBetween "\x7b" "\x7d" "\x7b\x7b\x7b\x7d\x7d\x7d" := .inl rfl
  have hopen : Template.HasOpenPlace "\x7b\x7b\x7b\x7d\x7d\x7d" := by
    refine .inl ?_
    rw [Template.isPlaceBetween_iff.mp hbetween]
    simp
  have hdialect : ofLayers [⟨none, none, none, some "\x7b\x7b\x7b\x7d\x7d\x7d", none⟩] =
      .ok {standard with unionTemplate := "\x7b\x7b\x7b\x7d\x7d\x7d"} := rfl
  have hwritten : List.Forall₂ (fun node type =>
      writeNode {standard with unionTemplate := "\x7b\x7b\x7b\x7d\x7d\x7d"} node = .ok type)
      [.simple "A", .simple "B"] ["A", "B"] := .cons rfl (.cons rfl .nil)
  have hexpression := expression_of_several_eq_ok_iff hdialect hread hwritten Nat.one_lt_two hopen
  exact ⟨_, hdialect, hread, hwritten, hopen, (hexpression.1 _).mpr ⟨_, _, hbetween, rfl⟩⟩

/-- A union with two places passes the check, but there is nothing for the second place. -/
theorem expression_of_two_places :
    ∃ dialect,
      ofLayers [⟨none, none, none, some "\x7b\x7d or \x7b\x7d", none⟩] = .ok dialect ∧
        ReadInto ["A", "B"] [[.simple "A"], [.simple "B"]] ∧
        List.Forall₂ (fun node type => dialect.writeNode node = .ok type)
          [.simple "A", .simple "B"] ["A", "B"] ∧
        dialect.expression ["A", "B"] = .error (.template (.outOfRange 1)) := by
  refine ⟨_, rfl, .cons (by cbv) (.cons (by cbv) .nil), .cons rfl (.cons rfl .nil), ?_⟩
  decide +kernel

end Dialect
end TypeStub
