import TypeStub.Proofs.Dialect.Wrapping

/-!
# Nilable types

One nil among several types makes the others nilable.  It is found by what it is written as,
so it may be a name, a collection that has come to its bare name or whatever a template makes
of its members.  Where it stands leaves no trace: what is wrapped are the types in front of
it and those behind it, in their order and as often as they are there.

Only the first nil goes.  The others are wrapped with the rest (`expression_of_nils`).
-/

namespace TypeStub
namespace Dialect

open TypeStub.Annotation

section

variable [Template.Members]

/-- The annotations are all read, and these are the written forms of their types, one after
another. -/
def Entries (dialect : Dialect) (annotations types : List String) : Prop :=
  ∃ lists, ReadInto annotations lists ∧
    List.Forall₂ (fun node type => dialect.writeNode node = .ok type) lists.flatten types

variable {dialect : Dialect} {annotations others types types' : List String}

theorem Entries.append (h : dialect.Entries annotations types)
    (h' : dialect.Entries others types') :
    dialect.Entries (annotations ++ others) (types ++ types') := by
  obtain ⟨lists, hread, hwritten⟩ := h
  obtain ⟨lists', hread', hwritten'⟩ := h'
  refine ⟨lists ++ lists', List.rel_append hread hread', ?_⟩
  rw [List.flatten_append]
  exact List.rel_append hwritten hwritten'

theorem Entries.single {text type : String} {node : TypeNode} (hparse : parse text = .ok [node])
    (h : dialect.writeNode node = .ok type) : dialect.Entries [text] [type] :=
  ⟨[[node]], .cons hparse .nil, .cons h .nil⟩

/-- An annotation that is read has a type. -/
theorem Entries.ne_nil (h : dialect.Entries annotations types) (hne : annotations ≠ []) :
    types ≠ [] := by
  obtain ⟨lists, hread, hwritten⟩ := h
  rintro rfl
  exact hread.flatten_ne_nil hne (List.forall₂_nil_right_iff.mp hwritten)

end

end Dialect
end TypeStub
