/-!
# Journal

What is worth knowing about a run besides its result is recorded in a journal: a
list of records, oldest first.  A computation with a journal keeps the records it
made before a failure, so a failure is a kind of result and not an end of the
journal.
-/

namespace TypeStub

inductive Severity
  | debug
  | warning
  deriving DecidableEq, Repr

/-- The part of the library that made a record. -/
inductive Channel
  | expressions
  | stubs
  deriving DecidableEq, Repr

/-- One entry of a journal. -/
structure Record where
  severity : Severity
  channel : Channel
  message : String
  deriving DecidableEq, Repr

/-- A value and the records made on the way to it. -/
structure Recorded (α : Type) where
  value : α
  records : List Record

namespace Recorded

instance : Monad Recorded where
  pure value := ⟨value, []⟩
  bind first next :=
    let second := next first.value
    ⟨second.value, first.records ++ second.records⟩

@[simp] theorem value_pure {α : Type} (a : α) : (pure a : Recorded α).value = a := rfl

@[simp] theorem records_pure {α : Type} (a : α) : (pure a : Recorded α).records = [] := rfl

@[simp] theorem value_bind {α β : Type} (first : Recorded α) (next : α → Recorded β) :
    (first >>= next).value = (next first.value).value := rfl

@[simp] theorem records_bind {α β : Type} (first : Recorded α) (next : α → Recorded β) :
    (first >>= next).records = first.records ++ (next first.value).records := rfl

instance : LawfulMonad Recorded :=
  LawfulMonad.mk' Recorded
    (fun x => congrArg (Recorded.mk x.value) (List.append_nil x.records))
    (fun _ _ => rfl)
    (fun x f g => congrArg (Recorded.mk (g (f x.value).value).value)
      (List.append_assoc x.records (f x.value).records (g (f x.value).value).records))

end Recorded

/-- A computation with a journal that may fail. -/
abbrev Journaled (ε α : Type) := ExceptT ε Recorded α

namespace Journaled

variable {ε α : Type}

def ofExcept (result : Except ε α) : Journaled ε α := ExceptT.mk (pure result)

def noteAll (records : List Record) : Journaled ε Unit := ExceptT.mk ⟨.ok (), records⟩

def note (record : Record) : Journaled ε Unit := noteAll [record]

@[simp] theorem run_ofExcept (result : Except ε α) :
    (ofExcept result).run = ⟨result, []⟩ := rfl

@[simp] theorem run_noteAll (records : List Record) :
    (noteAll records : Journaled ε Unit).run = ⟨.ok (), records⟩ := rfl

@[simp] theorem run_note (record : Record) :
    (note record : Journaled ε Unit).run = ⟨.ok (), [record]⟩ := rfl

variable {β : Type}

/-- A computation that succeeds hands its value on and puts its records in front. -/
theorem run_bind_of_ok {first : Journaled ε α} {a : α} (h : first.run.value = .ok a)
    (next : α → Journaled ε β) :
    (first >>= next).run =
      ⟨(next a).run.value, first.run.records ++ (next a).run.records⟩ := by
  have hbind : (first >>= next).run = first.run >>= ExceptT.bindCont next := rfl
  rcases hrun : first.run with ⟨value, records⟩
  rw [hrun] at h hbind
  obtain rfl : value = .ok a := h
  exact hbind

/-- A computation that fails ends all that follows it, and its records stay. -/
theorem run_bind_of_error {first : Journaled ε α} {e : ε} (h : first.run.value = .error e)
    (next : α → Journaled ε β) :
    (first >>= next).run = ⟨.error e, first.run.records⟩ := by
  have hbind : (first >>= next).run = first.run >>= ExceptT.bindCont next := rfl
  rcases hrun : first.run with ⟨value, records⟩
  rw [hrun] at h hbind
  obtain rfl : value = .error e := h
  have hend : (⟨.error e, records⟩ : Recorded (Except ε α)) >>= ExceptT.bindCont next =
      ⟨.error e, records ++ []⟩ := rfl
  rw [hbind, hend, List.append_nil]

/-- To change a value leaves no record. -/
theorem run_bind_pure (first : Journaled ε α) (f : α → β) :
    (first >>= fun a => pure (f a)).run = ⟨first.run.value.map f, first.run.records⟩ := by
  cases h : first.run.value with
  | ok a =>
    rw [run_bind_of_ok h]
    exact congrArg _ (List.append_nil _)
  | error e =>
    rw [run_bind_of_error h]
    rfl

/-! What a computation comes to does not depend on the records made on the way. -/

theorem value_run_bind (first : Journaled ε α) (next : α → Journaled ε β) :
    (first >>= next).run.value = first.run.value >>= fun a => (next a).run.value := by
  cases h : first.run.value with
  | ok a =>
    rw [run_bind_of_ok h]
    rfl
  | error e =>
    rw [run_bind_of_error h]
    rfl

theorem value_run_mapM (f : α → Journaled ε β) (as : List α) :
    (as.mapM f).run.value = as.mapM fun a => (f a).run.value := by
  induction as with
  | nil => rfl
  | cons a as ih =>
    rw [List.mapM_cons, List.mapM_cons, value_run_bind]
    simp only [value_run_bind, ih]
    rfl

end Journaled

end TypeStub
