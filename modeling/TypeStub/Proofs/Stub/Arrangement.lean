import TypeStub.Proofs.Stub.Declaration

/-!
# The order of the parameters

Which documented parameters a stub shows, and in which order, depends on their names and on
the declarations, but not on their annotations.  `Arrangement` says so of the places of the
documentation, without the sort: the places of the shown parameters, each once, by the
last declaration of their names and then by the documentation.  There is one such
arrangement only (`Arrangement.unique`).

The parameters of a stub are the documented ones in this arrangement, each with the kind
of its last declaration and with its own type (`parameters_eq_ok_iff`).
-/

namespace TypeStub
namespace Stub

/-! ## Lists

A stable sort, and lists related element by element. -/

section Lists

variable {α β : Type}

/-- Elements that a stable sort cannot tell apart keep the relation they stood in. -/
theorem pairwise_mergeSort_of_pairwise {le : α → α → Bool} {r : α → α → Prop}
    (htrans : ∀ a b c, le a b = true → le b c = true → le a c = true)
    (htotal : ∀ a b, (le a b || le b a) = true) {l : List α} (h : l.Pairwise r) :
    (l.mergeSort le).Pairwise fun a b => le a b = true ∧ (le b a = true → r a b) := by
  have hsorted : (l.zipIdx.mergeSort (List.zipIdxLE le)).Pairwise fun a b =>
      List.zipIdxLE le a b = true :=
    List.pairwise_mergeSort (List.zipIdxLE_trans htrans) (List.zipIdxLE_total htotal) l.zipIdx
  have hnodup : (l.zipIdx.mergeSort (List.zipIdxLE le)).Pairwise fun a b => a.2 ≠ b.2 := by
    have hperm := (List.mergeSort_perm l.zipIdx (List.zipIdxLE le)).map (·.2)
    rw [List.zipIdx_map_snd] at hperm
    exact List.pairwise_map.mp (hperm.nodup_iff.mpr List.nodup_range')
  rw [← List.mergeSort_zipIdx, List.pairwise_map]
  refine (hsorted.and hnodup).imp_of_mem ?_
  intro a b ha hb ⟨hle, hne⟩
  have hmem : ∀ {c}, c ∈ l.zipIdx.mergeSort (List.zipIdxLE le) → l[c.2]? = some c.1 :=
    fun hc => List.mem_zipIdx_iff_getElem?.mp (List.mem_mergeSort.mp hc)
  obtain ⟨hi, hai⟩ := List.getElem?_eq_some_iff.mp (hmem ha)
  obtain ⟨hj, hbj⟩ := List.getElem?_eq_some_iff.mp (hmem hb)
  rw [List.zipIdxLE] at hle
  by_cases hab : le a.1 b.1 = true
  · refine ⟨hab, fun hba => ?_⟩
    rw [if_pos hab, if_pos hba] at hle
    have hlt : a.2 < b.2 := Nat.lt_of_le_of_ne (of_decide_eq_true hle) hne
    rw [← hai, ← hbj]
    exact List.pairwise_iff_getElem.mp h a.2 b.2 hi hj hlt
  · rw [if_neg hab] at hle
    cases hle

/-- Sorting related elements by keys on which they agree keeps them related. -/
theorem forall₂_mergeSort {R : α → β → Prop} {r : α → α → Bool} {s : β → β → Bool} {l : List α}
    {m : List β} (h : List.Forall₂ R l m)
    (hkey : ∀ a a' b b', R a b → R a' b' → r a a' = s b b') :
    List.Forall₂ R (l.mergeSort r) (m.mergeSort s) := by
  obtain ⟨hlength, hzip⟩ := List.forall₂_iff_zip.mp h
  have hl : (l.zip m).map Prod.fst = l := List.map_fst_zip (Nat.le_of_eq hlength)
  have hm : (l.zip m).map Prod.snd = m := List.map_snd_zip (Nat.le_of_eq hlength.symm)
  have hfst := List.map_mergeSort (l := l.zip m) (f := Prod.fst) (s := r)
    (r := fun a b => r a.1 b.1) fun _ _ _ _ => rfl
  have hsnd := List.map_mergeSort (l := l.zip m) (f := Prod.snd) (s := s)
    (r := fun a b => r a.1 b.1) fun a ha b hb => hkey _ _ _ _ (hzip ha) (hzip hb)
  rw [hl] at hfst
  rw [hm] at hsnd
  rw [← hfst, ← hsnd, List.forall₂_map_left_iff, List.forall₂_map_right_iff, List.forall₂_same]
  exact fun pair hpair => hzip (List.mem_mergeSort.mp hpair)

theorem exists_of_forall₂ {R : α → β → Prop} {l : List α} {m : List β} (h : List.Forall₂ R l m)
    {a : α} (ha : a ∈ l) : ∃ b ∈ m, R a b := by
  induction h with
  | nil => exact absurd ha List.not_mem_nil
  | cons hab _ ih =>
    rcases List.mem_cons.mp ha with rfl | ha
    · exact ⟨_, List.mem_cons_self, hab⟩
    · obtain ⟨b, hb, hR⟩ := ih ha
      exact ⟨b, List.mem_cons_of_mem _ hb, hR⟩

theorem forall₂_getElem? {R : α → β → Prop} {l : List α} {m : List β} (h : List.Forall₂ R l m)
    {i : Nat} {a : α} {b : β} (ha : l[i]? = some a) (hb : m[i]? = some b) : R a b := by
  obtain ⟨hi, rfl⟩ := List.getElem?_eq_some_iff.mp ha
  obtain ⟨hj, rfl⟩ := List.getElem?_eq_some_iff.mp hb
  exact h.get hi hj

end Lists

/-! ## Arrangements -/

/-- The places in a list of documented names at which a parameter is shown, in the order
in which it is shown. -/
structure Arrangement (declarations : List Declaration) (names : List String)
    (places : List Nat) : Prop where
  nodup : places.Nodup
  /-- A parameter is shown if its last declaration is one by keyword or of a block. -/
  mem_iff (place : Nat) :
    place ∈ places ↔ ∃ name kind index, names[place]? = some name ∧
      LastDeclaration declarations name kind index ∧
      kind ∈ [ParameterKind.keyreq, .key, .keyrest, .block]
  ordered : places.Pairwise fun place later => ∀ name name' kind kind' index index',
    names[place]? = some name → LastDeclaration declarations name kind index →
      names[later]? = some name' → LastDeclaration declarations name' kind' index' →
        index ≤ index'
  /-- Parameters of one name stay in the order of the documentation. -/
  stable : places.Pairwise fun place later => names[place]? = names[later]? → place < later

/-- The declarations and the names leave no choice. -/
theorem Arrangement.unique {declarations : List Declaration} {names : List String}
    {places others : List Nat} (h : Arrangement declarations names places)
    (h' : Arrangement declarations names others) : places = others := by
  have hperm : places.Perm others :=
    (List.perm_ext_iff_of_nodup h.nodup h'.nodup).mpr fun place => by
      rw [h.mem_iff, h'.mem_iff]
  refine List.Perm.eq_of_pairwise ?_ (h.ordered.and h.stable) (h'.ordered.and h'.stable) hperm
  intro place later hplace hlater ⟨hle, hlt⟩ ⟨hge, hgt⟩
  obtain ⟨name, kind, index, hname, hlast, -⟩ := (h.mem_iff place).mp hplace
  obtain ⟨name', kind', index', hname', hlast', -⟩ := (h'.mem_iff later).mp hlater
  have hindex : index = index' :=
    Nat.le_antisymm (hle _ _ _ _ _ _ hname hlast hname' hlast')
      (hge _ _ _ _ _ _ hname' hlast' hname hlast)
  subst hindex
  have hsame : names[place]? = names[later]? := by
    rw [hname, hname', (hlast.declaration_eq hlast').1]
  have hbefore := hlt hsame
  have hbehind := hgt hsame.symm
  omega

namespace Builder

theorem isShown_iff (kind : ParameterKind) :
    isShown kind = true ↔ kind ∈ [ParameterKind.keyreq, .key, .keyrest, .block] := by
  cases kind <;> decide

/-- A documented parameter that is shown, with the declaration that makes it so and with
its place in the documentation. -/
structure Shown where
  parameter : DocumentedParameter
  declared : Declared
  place : Nat

/-- The parameters that are shown, in the order of the documentation. -/
def shown (ds : List Declared) (documented : List DocumentedParameter) : List Shown :=
  documented.zipIdx.filterMap fun entry =>
    (shown? ds entry.1).map fun pair => ⟨pair.1, pair.2, entry.2⟩

/-- The parameters that are shown, in the order of their declarations. -/
def arranged (ds : List Declared) (documented : List DocumentedParameter) : List Shown :=
  (shown ds documented).mergeSort fun a b => a.declared.index ≤ b.declared.index

variable {ds : List Declared} {documented : List DocumentedParameter}

theorem map_shown (ds : List Declared) (documented : List DocumentedParameter) :
    (shown ds documented).map (fun shown => (shown.parameter, shown.declared)) =
      documented.filterMap (shown? ds) := by
  have hforget : ∀ entry : DocumentedParameter × Nat,
      Option.map (fun shown : Shown => (shown.parameter, shown.declared))
        ((shown? ds entry.1).map fun pair => ⟨pair.1, pair.2, entry.2⟩) = shown? ds entry.1 := by
    intro entry
    cases shown? ds entry.1 <;> rfl
  rw [shown, List.map_filterMap]
  simp only [hforget]
  have hdocumented := List.zipIdx_map_fst 0 documented
  conv_rhs => rw [← hdocumented, List.filterMap_map]
  rfl

theorem shown?_eq_some_iff {parameter : DocumentedParameter}
    {pair : DocumentedParameter × Declared} :
    shown? ds parameter = some pair ↔
      pair.1 = parameter ∧ lastDeclared? ds parameter.name = some pair.2 ∧
        isShown pair.2.kind = true := by
  obtain ⟨other, declared⟩ := pair
  rw [shown?]
  cases lastDeclared? ds parameter.name with
  | none => simp
  | some found =>
    by_cases hkind : isShown found.kind = true
    · simp only [if_pos hkind, Option.some.injEq, Prod.mk.injEq]
      constructor
      · rintro ⟨rfl, rfl⟩
        exact ⟨rfl, rfl, hkind⟩
      · rintro ⟨rfl, rfl, -⟩
        exact ⟨rfl, rfl⟩
    · simp only [if_neg hkind, Option.some.injEq]
      constructor
      · exact fun h => (nomatch h)
      · rintro ⟨-, rfl, hshown⟩
        exact absurd hshown hkind

theorem mem_shown {shown : Shown} :
    shown ∈ Builder.shown ds documented ↔
      documented[shown.place]? = some shown.parameter ∧
        lastDeclared? ds shown.parameter.name = some shown.declared ∧
        isShown shown.declared.kind = true := by
  obtain ⟨parameter, declared, place⟩ := shown
  rw [Builder.shown, List.mem_filterMap]
  constructor
  · rintro ⟨⟨entry, index⟩, hentry, hshown⟩
    obtain ⟨pair, hpair, heq⟩ := Option.map_eq_some_iff.mp hshown
    obtain ⟨rfl, hlast, hkind⟩ := shown?_eq_some_iff.mp hpair
    cases heq
    exact ⟨List.mem_zipIdx_iff_getElem?.mp hentry, hlast, hkind⟩
  · rintro ⟨hplace, hlast, hkind⟩
    have hpair : shown? ds parameter = some (parameter, declared) :=
      shown?_eq_some_iff.mpr ⟨rfl, hlast, hkind⟩
    exact ⟨(parameter, place), List.mem_zipIdx_iff_getElem?.mpr hplace, by rw [hpair]; rfl⟩

theorem pairwise_shown (ds : List Declared) (documented : List DocumentedParameter) :
    (shown ds documented).Pairwise fun a b => a.place < b.place := by
  have hplaces : documented.zipIdx.Pairwise fun a b => a.2 < b.2 := by
    apply List.pairwise_map.mp
    rw [List.zipIdx_map_snd]
    exact List.pairwise_lt_range' 1
  rw [shown, List.pairwise_filterMap]
  refine hplaces.imp ?_
  intro entry later hlt a ha b hb
  obtain ⟨_, _, rfl⟩ := Option.map_eq_some_iff.mp ha
  obtain ⟨_, _, rfl⟩ := Option.map_eq_some_iff.mp hb
  exact hlt

theorem mem_arranged {shown : Shown} :
    shown ∈ arranged ds documented ↔ shown ∈ Builder.shown ds documented :=
  List.mem_mergeSort

theorem pairwise_arranged (ds : List Declared) (documented : List DocumentedParameter) :
    (arranged ds documented).Pairwise fun a b =>
      a.declared.index ≤ b.declared.index ∧
        (b.declared.index ≤ a.declared.index → a.place < b.place) := by
  let le : Shown → Shown → Bool := fun a b => a.declared.index ≤ b.declared.index
  have htrans : ∀ a b c, le a b = true → le b c = true → le a c = true := by
    intro a b c hab hbc
    simp only [le, decide_eq_true_eq] at hab hbc ⊢
    omega
  have htotal : ∀ a b, (le a b || le b a) = true := by
    intro a b
    simp only [le, Bool.or_eq_true, decide_eq_true_eq]
    omega
  have hsorted := pairwise_mergeSort_of_pairwise htrans htotal (pairwise_shown ds documented)
  simp only [le, decide_eq_true_eq] at hsorted
  exact hsorted

theorem nodup_arranged (ds : List Declared) (documented : List DocumentedParameter) :
    ((arranged ds documented).map (·.place)).Nodup := by
  have hperm := (List.mergeSort_perm (shown ds documented)
    fun a b => a.declared.index ≤ b.declared.index).map (·.place)
  rw [arranged, hperm.nodup_iff]
  refine List.pairwise_map.mpr ((pairwise_shown ds documented).imp ?_)
  intro a b hlt
  omega

/-- The sort arranges the places of the documentation. -/
theorem arrangement_arranged {declarations : List Declaration}
    (h : declared 0 declarations = .ok ds) (documented : List DocumentedParameter) :
    Arrangement declarations (documented.map (·.name))
      ((arranged ds documented).map (·.place)) := by
  have hname : ∀ {shown : Shown}, shown ∈ arranged ds documented →
      (documented.map (·.name))[shown.place]? = some shown.parameter.name := by
    intro shown hshown
    rw [List.getElem?_map, (mem_shown.mp (mem_arranged.mp hshown)).1]
    rfl
  have hindex : ∀ {shown : Shown} {name : String} {kind : ParameterKind} {index : Nat},
      shown ∈ arranged ds documented →
      (documented.map (·.name))[shown.place]? = some name →
      LastDeclaration declarations name kind index → shown.declared.index = index := by
    intro shown name kind index hshown hplace hlast
    obtain ⟨-, hdeclared, -⟩ := mem_shown.mp (mem_arranged.mp hshown)
    obtain rfl : shown.parameter.name = name := Option.some.inj ((hname hshown).symm.trans hplace)
    have hfound : lastDeclared? ds shown.parameter.name =
        some ⟨shown.parameter.name, kind, index⟩ :=
      (lastDeclared?_eq_some_iff h).mpr ⟨rfl, hlast⟩
    rw [hdeclared] at hfound
    exact congrArg Declared.index (Option.some.inj hfound)
  constructor
  · exact nodup_arranged ds documented
  · intro place
    rw [List.mem_map]
    constructor
    · rintro ⟨shown, hshown, rfl⟩
      obtain ⟨-, hdeclared, hkind⟩ := mem_shown.mp (mem_arranged.mp hshown)
      obtain ⟨-, hlast⟩ := (lastDeclared?_eq_some_iff h).mp hdeclared
      exact ⟨_, _, _, hname hshown, hlast, (isShown_iff _).mp hkind⟩
    · rintro ⟨name, kind, index, hplace, hlast, hkind⟩
      rw [List.getElem?_map] at hplace
      obtain ⟨parameter, hparameter, rfl⟩ := Option.map_eq_some_iff.mp hplace
      refine ⟨⟨parameter, ⟨parameter.name, kind, index⟩, place⟩, ?_, rfl⟩
      exact mem_arranged.mpr (mem_shown.mpr
        ⟨hparameter, (lastDeclared?_eq_some_iff h).mpr ⟨rfl, hlast⟩, (isShown_iff kind).mpr hkind⟩)
  · refine List.pairwise_map.mpr ((pairwise_arranged ds documented).imp_of_mem ?_)
    intro a b ha hb ⟨hle, _⟩ name name' kind kind' index index' hplace hlast hplace' hlast'
    rwa [← hindex ha hplace hlast, ← hindex hb hplace' hlast']
  · refine List.pairwise_map.mpr ((pairwise_arranged ds documented).imp_of_mem ?_)
    intro a b ha hb ⟨_, hstable⟩ hsame
    obtain ⟨-, hdeclared, -⟩ := mem_shown.mp (mem_arranged.mp ha)
    obtain ⟨-, hdeclared', -⟩ := mem_shown.mp (mem_arranged.mp hb)
    rw [hname ha, hname hb] at hsame
    rw [Option.some.inj hsame, hdeclared'] at hdeclared
    exact hstable (Nat.le_of_eq (congrArg Declared.index (Option.some.inj hdeclared)))

/-! ## The parameters of a stub -/

section

variable [Template.Members] {builder : Builder} {declarations : List Declaration}

theorem run_typed (builder : Builder) (pair : DocumentedParameter × Declared) :
    (builder.typed pair).run =
      ⟨(builder.parameterType pair.1).run.value.map fun type =>
          (⟨pair.1.name, pair.2.kind, type⟩, pair.2.index),
        (builder.parameterType pair.1).run.records⟩ :=
  Journaled.run_bind_pure _ _

theorem value_parameters (builder : Builder) (documented : List DocumentedParameter)
    (declarations : List Declaration) :
    (builder.parameters documented declarations).run.value = do
      let ds ← declared 0 declarations
      let placed ← (documented.filterMap (shown? ds)).mapM fun pair =>
        (builder.typed pair).run.value
      return (placed.mergeSort fun a b => a.2 ≤ b.2).map (·.1) := by
  simp only [parameters, Journaled.value_run_bind, Journaled.value_run_mapM]
  rfl

/-- The typed form of a parameter that is shown, with its place among the declarations. -/
def TypedForm (builder : Builder) (shown : Shown) (placed : TypedParameter × Nat) : Prop :=
  placed.1.name = shown.parameter.name ∧ placed.1.kind = shown.declared.kind ∧
    (builder.parameterType shown.parameter).run.value = .ok placed.1.type ∧
    placed.2 = shown.declared.index

theorem typedForm_of_value {shown : Shown} {placed : TypedParameter × Nat}
    (h : (builder.typed (shown.parameter, shown.declared)).run.value = .ok placed) :
    builder.TypedForm shown placed := by
  rw [run_typed] at h
  obtain ⟨type, htype, rfl⟩ := map_eq_ok_iff.mp h
  exact ⟨rfl, rfl, htype, rfl⟩

/-- The parameters of a stub are the shown ones, arranged and typed. -/
theorem exists_typedForms {result : List TypedParameter}
    (h : (builder.parameters documented declarations).run.value = .ok result) :
    ∃ ds placed, declared 0 declarations = .ok ds ∧ result = placed.map (·.1) ∧
      List.Forall₂ builder.TypedForm (arranged ds documented) placed := by
  rw [value_parameters] at h
  obtain ⟨ds, hdeclared, h⟩ := bind_eq_ok_iff.mp h
  obtain ⟨placed, hplaced, h⟩ := bind_eq_ok_iff.mp h
  have hforms : List.Forall₂ builder.TypedForm (shown ds documented) placed := by
    have hall := mapM_eq_ok_iff.mp hplaced
    rw [← map_shown, List.forall₂_map_left_iff] at hall
    exact hall.imp fun _ _ => typedForm_of_value
  have hkey : ∀ (a a' : Shown) (b b' : TypedParameter × Nat), builder.TypedForm a b →
      builder.TypedForm a' b' →
      decide (a.declared.index ≤ a'.declared.index) = decide (b.2 ≤ b'.2) := by
    intro a a' b b' ⟨_, _, _, hindex⟩ ⟨_, _, _, hindex'⟩
    rw [hindex, hindex']
  exact ⟨ds, placed.mergeSort fun a b => a.2 ≤ b.2, hdeclared, (Except.ok.inj h).symm,
    forall₂_mergeSort hforms hkey⟩

/-- The parameter is the documented one at the place, with the kind that its last
declaration gives it and with the type of its own annotations. -/
def TypedAt (builder : Builder) (declarations : List Declaration)
    (documented : List DocumentedParameter) (place : Nat) (parameter : TypedParameter) : Prop :=
  ∃ entry index, documented[place]? = some entry ∧ parameter.name = entry.name ∧
    LastDeclaration declarations entry.name parameter.kind index ∧
    (builder.parameterType entry).run.value = .ok parameter.type

theorem exists_typedAt {result : List TypedParameter}
    (h : (builder.parameters documented declarations).run.value = .ok result) :
    (∃ ds, declared 0 declarations = .ok ds) ∧
      ∃ places, Arrangement declarations (documented.map (·.name)) places ∧
        List.Forall₂ (builder.TypedAt declarations documented) places result := by
  obtain ⟨ds, placed, hdeclared, rfl, hforms⟩ := exists_typedForms h
  refine ⟨⟨ds, hdeclared⟩, _, arrangement_arranged hdeclared documented, ?_⟩
  rw [List.forall₂_map_left_iff, List.forall₂_map_right_iff]
  have hmem : ∀ shown ∈ arranged ds documented, shown ∈ Builder.shown ds documented :=
    fun _ hshown => mem_arranged.mp hshown
  refine ((List.forall₂_and_left _ _).mpr ⟨hmem, hforms⟩).imp ?_
  intro shown placed ⟨hshown, hname, hkind, htype, _⟩
  obtain ⟨hplace, hfound, -⟩ := mem_shown.mp hshown
  obtain ⟨-, hlast⟩ := (lastDeclared?_eq_some_iff hdeclared).mp hfound
  refine ⟨shown.parameter, shown.declared.index, hplace, hname, ?_, htype⟩
  rw [hkind]
  exact hlast

/-- The parameters can be built if all kinds are known and each parameter that is shown has
a type. -/
theorem exists_parameters {ds : List Declared} (hdeclared : declared 0 declarations = .ok ds)
    (htypes : ∀ shown ∈ Builder.shown ds documented,
      ∃ type, (builder.parameterType shown.parameter).run.value = .ok type) :
    ∃ result, (builder.parameters documented declarations).run.value = .ok result := by
  have htyped : ∀ pair ∈ documented.filterMap (shown? ds),
      ∃ placed, (builder.typed pair).run.value = .ok placed := by
    rw [← map_shown]
    intro pair hpair
    obtain ⟨shown, hshown, rfl⟩ := List.mem_map.mp hpair
    obtain ⟨type, htype⟩ := htypes shown hshown
    exact ⟨_, by rw [run_typed, htype]; rfl⟩
  obtain ⟨placed, hplaced⟩ := exists_mapM_eq_ok htyped
  refine ⟨(placed.mergeSort fun a b => a.2 ≤ b.2).map (·.1), ?_⟩
  rw [value_parameters, hdeclared]
  simp only [bind, Except.bind, hplaced]
  rfl

theorem TypedAt.unique {place : Nat} {parameter parameter' : TypedParameter}
    (h : builder.TypedAt declarations documented place parameter)
    (h' : builder.TypedAt declarations documented place parameter') : parameter = parameter' := by
  obtain ⟨name, kind, type⟩ := parameter
  obtain ⟨name', kind', type'⟩ := parameter'
  obtain ⟨entry, index, hentry, rfl, hlast, htype⟩ := h
  obtain ⟨entry', index', hentry', rfl, hlast', htype'⟩ := h'
  obtain rfl : entry = entry' := Option.some.inj (hentry.symm.trans hentry')
  obtain ⟨rfl, -⟩ := hlast.unique hlast'
  obtain rfl : type = type' := Except.ok.inj (htype.symm.trans htype')
  rfl

end

end Builder

/-- The parameters of a stub are built just if all kinds are known and each parameter that
is shown has a type.  They are the documented parameters that are declared by keyword or as
a block, each of them once and in the order of the last declarations of their names. -/
theorem parameters_eq_ok_iff [Template.Members] (builder : Builder)
    (documented : List DocumentedParameter) (declarations : List Declaration)
    (result : List TypedParameter) :
    (builder.parameters documented declarations).run.value = .ok result ↔
      (∀ declaration ∈ declarations,
          (ParameterKind.ofLabel? declaration.kindLabel).isSome) ∧
        ∃ places, Arrangement declarations (documented.map (·.name)) places ∧
          List.Forall₂ (builder.TypedAt declarations documented) places result := by
  constructor
  · intro h
    obtain ⟨hdeclared, hplaces⟩ := Builder.exists_typedAt h
    exact ⟨Builder.exists_declared_iff.mp hdeclared, hplaces⟩
  · rintro ⟨hknown, places, harrangement, htyped⟩
    obtain ⟨ds, hdeclared⟩ := Builder.exists_declared_iff.mpr hknown
    -- Every parameter that is shown has its place, and at its place it has a type.
    have htypes : ∀ shown ∈ Builder.shown ds documented,
        ∃ type, (builder.parameterType shown.parameter).run.value = .ok type := by
      intro shown hshown
      have hplace : shown.place ∈ places := by
        rw [harrangement.unique (Builder.arrangement_arranged hdeclared documented)]
        exact List.mem_map_of_mem (Builder.mem_arranged.mpr hshown)
      obtain ⟨parameter, -, entry, index, hentry, -, -, htype⟩ := exists_of_forall₂ htyped hplace
      rw [(Builder.mem_shown.mp hshown).1] at hentry
      obtain rfl := Option.some.inj hentry
      exact ⟨parameter.type, htype⟩
    obtain ⟨result', hresult'⟩ := Builder.exists_parameters hdeclared htypes
    obtain ⟨-, places', harrangement', htyped'⟩ := Builder.exists_typedAt hresult'
    obtain rfl := harrangement.unique harrangement'
    have hunique : Relator.RightUnique (builder.TypedAt declarations documented) :=
      fun _ _ _ h h' => h.unique h'
    rw [hresult', hunique.forall₂ htyped htyped']

/-- A name that is declared twice takes its kind and its place from the second time, and a
name that is documented twice is shown twice. -/
example :
    (Builder.parameters ⟨.standard, untyped⟩
      [⟨"b", ["String"]⟩, ⟨"a", ["Array<"]⟩, ⟨"other", ["nil"]⟩, ⟨"b", ["String", "nil"]⟩]
      [⟨"req", "a"⟩, ⟨"key", "b"⟩, ⟨"keyreq", "a"⟩]).run.value =
      .ok [⟨"b", .key, "String"⟩, ⟨"b", .key, "T.nilable(String)"⟩,
        ⟨"a", .keyreq, "T.untyped"⟩] := by
  cbv

end Stub
end TypeStub
