import Mathlib.Tactic.ByContra
import TypeStub.Proofs.Outcome
import TypeStub.Stub.Builder

/-!
# The declaration that counts

A method may declare a name more than once, and the last declaration of a name is the one
that counts.  `LastDeclaration` says so of the declarations as they are given, without
a look-up.  `lastDeclared?_eq_some_iff` says that the look-up finds just this one.
-/

namespace TypeStub
namespace Stub

/-- The last declaration of the name gives it this kind and has so many others in front
of it. -/
def LastDeclaration (declarations : List Declaration) (name : String) (kind : ParameterKind)
    (index : Nat) : Prop :=
  ∃ front back, declarations = front ++ ⟨kind.label, name⟩ :: back ∧ front.length = index ∧
    ∀ other ∈ back, other.name ≠ name

namespace ParameterKind

theorem ofLabel?_eq_some_iff {text : String} {kind : ParameterKind} :
    ofLabel? text = some kind ↔ text = kind.label := by
  constructor
  · intro h
    have hfound := List.find?_some h
    exact (beq_iff_eq.mp hfound).symm
  · intro h
    rw [h, ofLabel?_label]

theorem label_inj {kind other : ParameterKind} (h : kind.label = other.label) : kind = other := by
  have hkind := ofLabel?_label kind
  rw [h, ofLabel?_label] at hkind
  exact (Option.some.inj hkind).symm

end ParameterKind

namespace LastDeclaration

variable {declarations : List Declaration} {name name' : String} {kind kind' : ParameterKind}
  {index index' : Nat}

theorem index_le (h : LastDeclaration declarations name kind index)
    (h' : LastDeclaration declarations name kind' index') : index' ≤ index := by
  obtain ⟨front, back, rfl, rfl, hback⟩ := h
  obtain ⟨front', back', hsplit, rfl, -⟩ := h'
  by_contra hlt
  have hat : (front ++ ⟨kind.label, name⟩ :: back)[front'.length]? = some ⟨kind'.label, name⟩ := by
    rw [hsplit]
    simp
  have hbehind : front'.length = front.length + (front'.length - front.length - 1 + 1) := by omega
  rw [hbehind, List.getElem?_append_right (by omega), Nat.add_sub_cancel_left,
    List.getElem?_cons_succ] at hat
  exact hback _ (List.mem_of_getElem? hat) rfl

theorem declaration_eq (h : LastDeclaration declarations name kind index)
    (h' : LastDeclaration declarations name' kind' index) : name = name' ∧ kind = kind' := by
  obtain ⟨front, back, rfl, hlength, -⟩ := h
  obtain ⟨front', back', hsplit, hlength', -⟩ := h'
  obtain ⟨-, htail⟩ := List.append_inj hsplit (hlength.trans hlength'.symm)
  have hdeclaration := (List.cons.inj htail).1
  exact ⟨congrArg Declaration.name hdeclaration,
    ParameterKind.label_inj (congrArg Declaration.kindLabel hdeclaration)⟩

/-- A name has one last declaration only. -/
theorem unique (h : LastDeclaration declarations name kind index)
    (h' : LastDeclaration declarations name kind' index') : kind = kind' ∧ index = index' := by
  obtain rfl : index = index' := Nat.le_antisymm (h'.index_le h) (h.index_le h')
  exact ⟨(h.declaration_eq h').2, rfl⟩

end LastDeclaration

namespace Builder

/-- The declaration as it is given, without its place. -/
def Declared.declaration (declared : Declared) : Declaration :=
  ⟨declared.kind.label, declared.name⟩

theorem declared_cons_eq_ok_iff {index : Nat} {declaration : Declaration}
    {declarations : List Declaration} {ds : List Declared} :
    declared index (declaration :: declarations) = .ok ds ↔
      ∃ d rest, ds = d :: rest ∧ declaration = d.declaration ∧ d.index = index ∧
        declared (index + 1) declarations = .ok rest := by
  rw [declared]
  constructor
  · intro h
    split at h
    · cases h
    · rename_i kind hkind
      obtain ⟨rest, hrest, h⟩ := bind_eq_ok_iff.mp h
      refine ⟨_, rest, (Except.ok.inj h).symm, ?_, rfl, hrest⟩
      rw [Declared.declaration, ← ParameterKind.ofLabel?_eq_some_iff.mp hkind]
  · rintro ⟨d, rest, rfl, rfl, rfl, hrest⟩
    have hkind : ParameterKind.ofLabel? d.declaration.kindLabel = some d.kind :=
      ParameterKind.ofLabel?_label d.kind
    rw [hkind, hrest]
    rfl

/-- Declarations whose kinds are known keep their kinds and names and get their places. -/
theorem declared_eq_ok_iff {index : Nat} {declarations : List Declaration} {ds : List Declared} :
    declared index declarations = .ok ds ↔
      declarations = ds.map (·.declaration) ∧ ds.map (·.index) = List.range' index ds.length := by
  induction declarations generalizing index ds with
  | nil =>
    cases ds with
    | nil => exact ⟨fun _ => ⟨rfl, rfl⟩, fun _ => rfl⟩
    | cons d ds => exact ⟨fun h => (nomatch h), fun h => (nomatch h.1)⟩
  | cons declaration declarations ih =>
    rw [declared_cons_eq_ok_iff]
    constructor
    · rintro ⟨d, rest, rfl, rfl, rfl, hrest⟩
      obtain ⟨rfl, hindex⟩ := ih.mp hrest
      exact ⟨rfl, by rw [List.map_cons, hindex]; rfl⟩
    · rintro ⟨hmap, hindex⟩
      cases ds with
      | nil => cases hmap
      | cons d rest =>
        obtain ⟨hdeclaration, hrest⟩ := List.cons.inj hmap
        obtain ⟨hhead, htail⟩ := List.cons.inj hindex
        exact ⟨d, rest, rfl, hdeclaration, hhead, ih.mpr ⟨hrest, htail⟩⟩

/-- The places are found just if all kinds are known. -/
theorem exists_declared_iff {declarations : List Declaration} {index : Nat} :
    (∃ ds, declared index declarations = .ok ds) ↔
      ∀ declaration ∈ declarations, (ParameterKind.ofLabel? declaration.kindLabel).isSome := by
  constructor
  · rintro ⟨ds, hds⟩ declaration hdeclaration
    rw [(declared_eq_ok_iff.mp hds).1] at hdeclaration
    obtain ⟨d, -, rfl⟩ := List.mem_map.mp hdeclaration
    rw [Declared.declaration, ParameterKind.ofLabel?_label]
    rfl
  · intro h
    induction declarations generalizing index with
    | nil => exact ⟨[], rfl⟩
    | cons declaration declarations ih =>
      obtain ⟨kind, hkind⟩ := Option.isSome_iff_exists.mp (h declaration List.mem_cons_self)
      obtain ⟨ds, hds⟩ :=
        @ih (index + 1) fun other hother => h other (List.mem_cons_of_mem _ hother)
      refine ⟨⟨declaration.name, kind, index⟩ :: ds, ?_⟩
      rw [declared, hkind, hds]
      rfl

theorem index_of_range' {front back : List Declared} {d : Declared}
    (h : (front ++ d :: back).map (·.index) = List.range' 0 (front ++ d :: back).length) :
    d.index = front.length := by
  have hat : ((front ++ d :: back).map (·.index))[front.length]? = some d.index := by simp
  rw [h, List.getElem?_range'] at hat
  · simpa using hat.symm
  · simp

/-- The look-up of a name finds its last declaration and nothing else. -/
theorem lastDeclared?_eq_some_iff {declarations : List Declaration} {ds : List Declared}
    (h : declared 0 declarations = .ok ds) {name : String} {d : Declared} :
    lastDeclared? ds name = some d ↔
      d.name = name ∧ LastDeclaration declarations name d.kind d.index := by
  obtain ⟨rfl, hindex⟩ := declared_eq_ok_iff.mp h
  rw [lastDeclared?, List.findRev?_eq_find?_reverse, List.find?_eq_some_iff_append]
  constructor
  · intro ⟨hname, as, bs, hreverse, hothers⟩
    have hname : d.name = name := beq_iff_eq.mp hname
    have hds : ds = bs.reverse ++ d :: as.reverse := by
      rw [← List.reverse_reverse ds, hreverse]
      simp
    subst hds
    refine ⟨hname, bs.reverse.map (·.declaration), as.reverse.map (·.declaration), ?_, ?_, ?_⟩
    · rw [List.map_append, List.map_cons, Declared.declaration, hname]
    · rw [List.length_map, index_of_range' hindex]
    · intro other hother
      obtain ⟨d', hd', rfl⟩ := List.mem_map.mp hother
      have hne := hothers d' (List.mem_reverse.mp hd')
      simpa [Declared.declaration] using hne
  · intro ⟨hname, front, back, hmap, hlength, hothers⟩
    obtain ⟨as, bs, hds, rfl, hback⟩ := List.map_eq_append_iff.mp hmap
    obtain ⟨d', bs, rfl, hdeclaration, rfl⟩ := List.map_eq_cons_iff.mp hback
    subst hds
    have hd : d' = d := by
      have hkind := ParameterKind.label_inj (congrArg Declaration.kindLabel hdeclaration)
      have hsame : d'.name = d.name := (congrArg Declaration.name hdeclaration).trans hname.symm
      have hplace : d'.index = d.index := by
        rw [index_of_range' hindex, ← hlength, List.length_map]
      obtain ⟨_, _, _⟩ := d'
      obtain ⟨_, _, _⟩ := d
      simp_all
    subst hd
    refine ⟨beq_iff_eq.mpr hname, bs.reverse, as.reverse, by simp, fun other hother => ?_⟩
    have hne := hothers other.declaration
      (List.mem_map.mpr ⟨other, List.mem_reverse.mp hother, rfl⟩)
    simpa [Declared.declaration] using hne

end Builder

end Stub
end TypeStub
