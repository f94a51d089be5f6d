import Mathlib.Data.List.Forall2

/-!
# Outcomes

When a computation that may fail does not fail.  One that is made of parts has a value
just if its parts have values, which are then known by name, and otherwise it has the fault
of the first part without one.
-/

namespace TypeStub

variable {ε ε' α β : Type}

theorem bind_eq_ok_iff {first : Except ε α} {next : α → Except ε β} {result : β} :
    first >>= next = .ok result ↔ ∃ value, first = .ok value ∧ next value = .ok result := by
  cases first with
  | ok value => exact ⟨fun h => ⟨value, rfl, h⟩, fun ⟨_, rfl, h⟩ => h⟩
  | error fault => exact ⟨fun h => (nomatch h), fun ⟨_, h, _⟩ => (nomatch h)⟩

theorem bind_eq_error_iff {first : Except ε α} {next : α → Except ε β} {fault : ε} :
    first >>= next = .error fault ↔
      first = .error fault ∨ ∃ value, first = .ok value ∧ next value = .error fault := by
  cases first with
  | ok value =>
    exact ⟨fun h => .inr ⟨value, rfl, h⟩, fun h => h.elim nofun fun ⟨_, rfl, h⟩ => h⟩
  | error cause =>
    exact ⟨fun h => .inl (congrArg _ (Except.error.inj h)),
      fun h => h.elim (fun h => congrArg _ (Except.error.inj h)) nofun⟩

theorem map_eq_ok_iff {first : Except ε α} {f : α → β} {result : β} :
    first.map f = .ok result ↔ ∃ value, first = .ok value ∧ f value = result := by
  cases first with
  | ok value => exact ⟨fun h => ⟨value, rfl, Except.ok.inj h⟩, fun ⟨_, rfl, h⟩ => congrArg _ h⟩
  | error fault => exact ⟨fun h => (nomatch h), fun ⟨_, h, _⟩ => (nomatch h)⟩

theorem mapError_eq_ok_iff {rename : ε → ε'} {outcome : Except ε α} {result : α} :
    outcome.mapError rename = .ok result ↔ outcome = .ok result := by
  cases outcome with
  | ok value =>
    exact ⟨fun h => congrArg _ (Except.ok.inj h), fun h => congrArg _ (Except.ok.inj h)⟩
  | error fault => exact ⟨nofun, nofun⟩

theorem mapError_eq_error_iff {rename : ε → ε'} {outcome : Except ε α} {fault : ε'} :
    outcome.mapError rename = .error fault ↔
      ∃ cause, outcome = .error cause ∧ fault = rename cause := by
  cases outcome with
  | ok value => exact ⟨nofun, nofun⟩
  | error cause =>
    exact ⟨fun h => ⟨cause, rfl, (Except.error.inj h).symm⟩,
      fun ⟨_, hcause, h⟩ => by rw [h, ← Except.error.inj hcause]; rfl⟩

theorem exists_of_mapError_eq_error {rename : ε → ε'} {outcome : Except ε α} {fault : ε'}
    (h : outcome.mapError rename = .error fault) : ∃ cause, fault = rename cause := by
  obtain ⟨cause, -, hfault⟩ := mapError_eq_error_iff.mp h
  exact ⟨cause, hfault⟩

/-- The fault of an outcome that has no value. -/
def errorOf? : Except ε α → Option ε
  | .ok _ => none
  | .error fault => some fault

@[simp] theorem errorOf?_ok (value : α) : errorOf? (.ok value : Except ε α) = none := rfl

@[simp] theorem errorOf?_error (fault : ε) : errorOf? (.error fault : Except ε α) = some fault :=
  rfl

@[simp] theorem errorOf?_map (outcome : Except ε α) (f : α → β) :
    errorOf? (outcome.map f) = errorOf? outcome := by
  cases outcome <;> rfl

theorem errorOf?_eq_some_iff {outcome : Except ε α} {fault : ε} :
    errorOf? outcome = some fault ↔ outcome = .error fault := by
  cases outcome <;> simp

theorem errorOf?_eq_none_iff {outcome : Except ε α} :
    errorOf? outcome = none ↔ ∃ value, outcome = .ok value := by
  cases outcome <;> simp

/-- What a computation does with its value can only fail where there is a value. -/
theorem errorOf?_bind {first : Except ε α} {next : α → Except ε β} {behind : Option ε}
    (h : ∀ value, first = .ok value → errorOf? (next value) = behind) :
    errorOf? (first >>= next) = (errorOf? first).or behind := by
  cases first with
  | ok value => exact h value rfl
  | error fault => rfl

@[simp] theorem errorOf?_bind_pure (first : Except ε α) (f : α → β) :
    errorOf? (first >>= fun value => pure (f value)) = errorOf? first := by
  cases first <;> rfl

/-- A list fails as the first of its elements that fails. -/
theorem errorOf?_mapM (f : α → Except ε β) (as : List α) :
    errorOf? (as.mapM f) = as.findSome? fun a => errorOf? (f a) := by
  induction as with
  | nil => rfl
  | cons a as ih =>
    rw [List.mapM_cons, ← List.singleton_append, List.findSome?_append, List.findSome?_singleton,
      ← ih]
    exact errorOf?_bind fun b _ => errorOf?_bind_pure _ _

theorem mapM_eq_ok_iff {f : α → Except ε β} {as : List α} {bs : List β} :
    as.mapM f = .ok bs ↔ List.Forall₂ (fun a b => f a = .ok b) as bs := by
  induction as generalizing bs with
  | nil =>
    rw [List.mapM_nil, List.forall₂_nil_left_iff]
    exact ⟨fun h => (Except.ok.inj h).symm, fun h => by rw [h]; rfl⟩
  | cons a as ih =>
    rw [List.mapM_cons, List.forall₂_cons_left_iff]
    constructor
    · intro h
      obtain ⟨b, hhead, h⟩ := bind_eq_ok_iff.mp h
      obtain ⟨rest, hrest, h⟩ := bind_eq_ok_iff.mp h
      exact ⟨b, rest, hhead, ih.mp hrest, (Except.ok.inj h).symm⟩
    · rintro ⟨b, rest, hhead, hrest, rfl⟩
      rw [hhead, ih.mpr hrest]
      rfl

theorem mapM_eq_ok_map {f : α → Except ε β} {g : α → β} {as : List α}
    (h : ∀ a ∈ as, f a = .ok (g a)) : as.mapM f = .ok (as.map g) := by
  rw [mapM_eq_ok_iff, List.forall₂_map_right_iff, List.forall₂_same]
  exact h

theorem exists_mem_of_mapM_eq_error {f : α → Except ε β} {as : List α} {fault : ε}
    (h : as.mapM f = .error fault) : ∃ a ∈ as, f a = .error fault := by
  rw [← errorOf?_eq_some_iff, errorOf?_mapM] at h
  obtain ⟨a, ha, herror⟩ := List.exists_of_findSome?_eq_some h
  exact ⟨a, ha, errorOf?_eq_some_iff.mp herror⟩

/-- A list with an element that fails does so as one of its elements. -/
theorem exists_mapM_eq_error {f : α → Except ε β} {as : List α} {a : α} {fault : ε} (ha : a ∈ as)
    (h : f a = .error fault) : ∃ other ∈ as, ∃ cause, f other = .error cause ∧
      as.mapM f = .error cause := by
  cases hall : as.mapM f with
  | ok bs =>
    have hnone := errorOf?_eq_none_iff.mpr ⟨bs, hall⟩
    rw [errorOf?_mapM, List.findSome?_eq_none_iff] at hnone
    cases (errorOf?_eq_some_iff.mpr h).symm.trans (hnone a ha)
  | error cause =>
    obtain ⟨other, hother, hcause⟩ := exists_mem_of_mapM_eq_error hall
    exact ⟨other, hother, cause, hcause, rfl⟩

theorem exists_mapM_eq_ok {f : α → Except ε β} {as : List α} (h : ∀ a ∈ as, ∃ b, f a = .ok b) :
    ∃ bs, as.mapM f = .ok bs := by
  induction as with
  | nil => exact ⟨[], rfl⟩
  | cons a as ih =>
    obtain ⟨b, hhead⟩ := h a List.mem_cons_self
    obtain ⟨bs, htail⟩ := ih fun other hother => h other (List.mem_cons_of_mem _ hother)
    refine ⟨b :: bs, ?_⟩
    rw [List.mapM_cons, hhead, htail]
    rfl

end TypeStub
