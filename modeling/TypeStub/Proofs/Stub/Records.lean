import TypeStub.Proofs.Dialect.Failure
import TypeStub.Proofs.Dialect.Sequence
import TypeStub.Proofs.Stub.Arrangement

/-!
# Failures and records of a stub

A stub is built in the order of the documentation, although it is shown in the order of the
declarations.  All declarations are looked at first, so a kind that is not known is a
failure that nothing has been recorded before.  Then the parameters that are left out are
recorded, and only then the others are typed.

Malformed annotations are no failure of the stub, they are a warning about the annotation
that is not read (`RecordsOf`).  The first other failure is the one of the stub, and the
journal ends in front of it: `journal_of_parameters`.
-/

namespace TypeStub

open TypeStub.Annotation

/-- Computations that leave no record when they fail leave, one after another, the records
in front of the first failure. -/
theorem Journaled.records_run_mapM {ε α β : Type} {f : α → Journaled ε β}
    (hsilent : ∀ a fault, (f a).run.value = .error fault → (f a).run.records = [])
    (as : List α) :
    (as.mapM f).run.records =
      ((as.takeWhile fun a => (errorOf? (f a).run.value).isNone).map
        fun a => (f a).run.records).flatten := by
  induction as with
  | nil => rfl
  | cons a as ih =>
    rw [List.mapM_cons]
    cases hvalue : (f a).run.value with
    | error fault =>
      rw [run_bind_of_error hvalue, List.takeWhile_cons_of_neg (by simp [hvalue])]
      exact hsilent a fault hvalue
    | ok b =>
      rw [run_bind_of_ok hvalue, run_bind_pure, ih,
        List.takeWhile_cons_of_pos (by simp [hvalue])]
      rfl

namespace Stub

/-! ## Declarations of no kind -/

/-- The first label of a declaration that is no label of a kind. -/
def firstUnknown? (declarations : List Declaration) : Option String :=
  (declarations.map (·.kindLabel)).find? fun label => (ParameterKind.ofLabel? label).isNone

theorem errorOf?_declared (index : Nat) (declarations : List Declaration) :
    errorOf? (Builder.declared index declarations) =
      (firstUnknown? declarations).map .unknownKind := by
  induction declarations generalizing index with
  | nil => rfl
  | cons declaration declarations ih =>
    rw [Builder.declared, firstUnknown?, List.map_cons]
    cases hkind : ParameterKind.ofLabel? declaration.kindLabel with
    | none =>
      rw [List.find?_cons_of_pos (by simp [hkind])]
      rfl
    | some kind =>
      rw [List.find?_cons_of_neg (by simp [hkind])]
      refine Eq.trans ?_ (ih (index + 1))
      cases Builder.declared (index + 1) declarations <;> rfl

/-! ## Parameters that are left out -/

/-- The kind that the last declaration of a name gives it. -/
def lastKind? (declarations : List Declaration) (name : String) : Option ParameterKind :=
  (declarations.findRev? (·.name == name)).bind fun declaration =>
    ParameterKind.ofLabel? declaration.kindLabel

theorem lastKind?_eq_some_iff {declarations : List Declaration} {name : String}
    {kind : ParameterKind} :
    lastKind? declarations name = some kind ↔
      ∃ index, LastDeclaration declarations name kind index := by
  rw [lastKind?, List.findRev?_eq_find?_reverse, Option.bind_eq_some_iff]
  constructor
  · rintro ⟨⟨label, other⟩, hfind, hkind⟩
    obtain ⟨hname, as, bs, hreverse, hothers⟩ := List.find?_eq_some_iff_append.mp hfind
    obtain rfl : other = name := beq_iff_eq.mp hname
    obtain rfl : label = kind.label := ParameterKind.ofLabel?_eq_some_iff.mp hkind
    refine ⟨bs.length, bs.reverse, as.reverse, ?_, by simp, fun other hother => ?_⟩
    · rw [← List.reverse_reverse declarations, hreverse]
      simp
    · simpa using hothers other (List.mem_reverse.mp hother)
  · rintro ⟨index, front, back, rfl, -, hback⟩
    refine ⟨⟨kind.label, name⟩, List.find?_eq_some_iff_append.mpr ?_,
      ParameterKind.ofLabel?_label kind⟩
    refine ⟨by simp, back.reverse, front.reverse, by simp, fun other hother => ?_⟩
    simpa using hback other (List.mem_reverse.mp hother)

/-- The last declaration of the parameter is one by keyword or of a block. -/
def Kept (declarations : List Declaration) (parameter : DocumentedParameter) : Prop :=
  ∃ kind ∈ [ParameterKind.keyreq, .key, .keyrest, .block],
    ∃ index, LastDeclaration declarations parameter.name kind index

instance (declarations : List Declaration) : DecidablePred (Kept declarations) := fun parameter =>
  decidable_of_iff (∃ kind ∈ [ParameterKind.keyreq, .key, .keyrest, .block],
    lastKind? declarations parameter.name = some kind) (by simp only [Kept, lastKind?_eq_some_iff])

def leftOutRecord (name kind : String) : Record :=
  ⟨.debug, .stubs, "Skipping parameter '" ++ name ++ "' (kind: " ++ kind ++ ")"⟩

/-- The record of a parameter that is left out names the kind of its last declaration. -/
inductive SkippedRecord (declarations : List Declaration) (parameter : DocumentedParameter) :
    Record → Prop
  | undeclared : (∀ declaration ∈ declarations, declaration.name ≠ parameter.name) →
    SkippedRecord declarations parameter (leftOutRecord parameter.name "None")
  | declared {kind : ParameterKind} {index : Nat} :
    LastDeclaration declarations parameter.name kind index →
    SkippedRecord declarations parameter
      (leftOutRecord parameter.name ("ParameterKind." ++ kind.constantName))

namespace Builder

variable {builder : Builder} {declarations : List Declaration} {ds : List Declared}
  {documented : List DocumentedParameter} {parameter : DocumentedParameter}

theorem shown?_eq_none_iff (h : declared 0 declarations = .ok ds) :
    shown? ds parameter = none ↔ ¬Kept declarations parameter := by
  rw [← not_iff_not, not_not, ← ne_eq, Option.ne_none_iff_exists']
  constructor
  · rintro ⟨pair, hpair⟩
    obtain ⟨-, hfound, hkind⟩ := shown?_eq_some_iff.mp hpair
    obtain ⟨-, hlast⟩ := (lastDeclared?_eq_some_iff h).mp hfound
    exact ⟨pair.2.kind, (isShown_iff _).mp hkind, pair.2.index, hlast⟩
  · rintro ⟨kind, hkind, index, hlast⟩
    have hfound : lastDeclared? ds parameter.name = some ⟨parameter.name, kind, index⟩ :=
      (lastDeclared?_eq_some_iff h).mpr ⟨rfl, hlast⟩
    exact ⟨(parameter, ⟨parameter.name, kind, index⟩),
      shown?_eq_some_iff.mpr ⟨rfl, hfound, (isShown_iff kind).mpr hkind⟩⟩

theorem filter_shown? (h : declared 0 declarations = .ok ds)
    (documented : List DocumentedParameter) :
    (documented.filter fun parameter => (shown? ds parameter).isNone) =
      documented.filter fun parameter => ¬Kept declarations parameter := by
  refine List.filter_congr fun parameter _ => ?_
  rw [Bool.eq_iff_iff, Option.isNone_iff_eq_none, shown?_eq_none_iff h, decide_eq_true_iff]

theorem map_fst_shown? (h : declared 0 declarations = .ok ds)
    (documented : List DocumentedParameter) :
    (documented.filterMap (shown? ds)).map Prod.fst =
      documented.filter fun parameter => Kept declarations parameter := by
  rw [List.map_filterMap, ← List.filterMap_eq_filter]
  refine List.filterMap_congr fun parameter _ => ?_
  by_cases hkept : Kept declarations parameter
  · obtain ⟨pair, hpair⟩ := Option.ne_none_iff_exists'.mp fun hnone =>
      (shown?_eq_none_iff h).mp hnone hkept
    rw [hpair, Option.map_some, (shown?_eq_some_iff.mp hpair).1]
    simp [Option.guard, hkept]
  · rw [(shown?_eq_none_iff h).mpr hkept]
    simp [Option.guard, hkept]

theorem skippedRecord_of_declared (h : declared 0 declarations = .ok ds)
    (parameter : DocumentedParameter) :
    SkippedRecord declarations parameter (skippedRecord ds parameter.name) := by
  rw [skippedRecord]
  cases hfound : lastDeclared? ds parameter.name with
  | none =>
    refine .undeclared fun declaration hdeclaration => ?_
    rw [(declared_eq_ok_iff.mp h).1] at hdeclaration
    obtain ⟨d, hd, rfl⟩ := List.mem_map.mp hdeclaration
    rw [lastDeclared?, List.findRev?_eq_find?_reverse, List.find?_eq_none] at hfound
    simpa [Declared.declaration] using hfound d (List.mem_reverse.mpr hd)
  | some d =>
    obtain ⟨-, hlast⟩ := (lastDeclared?_eq_some_iff h).mp hfound
    exact .declared hlast

/-! ## The type of a parameter -/

section

variable [Template.Members]

/-- The failure of a parameter's annotations, unless they are malformed. -/
def failureOf? (builder : Builder) (parameter : DocumentedParameter) : Option ExpressionFailure :=
  (errorOf? (builder.dialect.expression parameter.annotations)).filter fun
    | .unreadable (.malformed _) => false
    | _ => true

theorem failureOf?_eq_some_iff {failure : ExpressionFailure} :
    builder.failureOf? parameter = some failure ↔
      builder.dialect.expression parameter.annotations = .error failure ∧
        ∀ error, failure ≠ .unreadable (.malformed error) := by
  rw [failureOf?, Option.filter_eq_some_iff, errorOf?_eq_some_iff]
  refine and_congr_right fun _ => ?_
  rcases failure with (error | _ | _ | _) | _ | _ <;> simp

/-- The records of a parameter that has a type.  A type that is empty is recorded like any
other before the fallback takes its place.  Of annotations that are malformed it is the first
that the journal warns of. -/
inductive RecordsOf (builder : Builder) (parameter : DocumentedParameter) : List Record → Prop
  | written {type : String} :
    builder.dialect.expression parameter.annotations = .ok type → type ≠ "" →
    RecordsOf builder parameter [Dialect.writtenRecord parameter.annotations type]
  | undocumented :
    builder.dialect.expression parameter.annotations = .ok "" →
    RecordsOf builder parameter
      [Dialect.writtenRecord parameter.annotations "",
        ⟨.debug, .stubs, "No type documented for parameter '" ++ parameter.name ++
          "', using " ++ builder.fallback⟩]
  | unreadable {front back : List String} {text : String} {error : Malformed} :
    parameter.annotations = front ++ text :: back →
    (∀ other ∈ front, ∃ nodes, parse other = .ok nodes) →
    parse text = .error (.malformed error) →
    RecordsOf builder parameter
      [⟨.warning, .stubs, "Unparseable type annotation " ++ Text.quote text ++
        " for parameter '" ++ parameter.name ++ "' (" ++ error.message ++ "), using " ++
        builder.fallback⟩]

theorem run_parameterType_of_ok {type : String}
    (h : builder.dialect.expression parameter.annotations = .ok type) (hne : type ≠ "") :
    (builder.parameterType parameter).run =
      ⟨.ok type, [Dialect.writtenRecord parameter.annotations type]⟩ := by
  have hlift : (liftM (builder.dialect.recordExpression parameter.annotations).run :
      Journaled Failure _).run.value = .ok (.ok type) := by
    rw [Dialect.run_recordExpression_of_ok h]
    rfl
  rw [parameterType, Journaled.run_bind_of_ok hlift]
  simp only [if_neg hne, Dialect.run_recordExpression_of_ok h]
  rfl

theorem run_parameterType_of_empty
    (h : builder.dialect.expression parameter.annotations = .ok "") :
    (builder.parameterType parameter).run =
      ⟨.ok builder.fallback, [Dialect.writtenRecord parameter.annotations "",
        builder.undocumentedRecord parameter.name]⟩ := by
  rw [parameterType, Dialect.run_recordExpression_of_ok h]
  rfl

theorem run_parameterType_of_malformed {error : Malformed}
    (h : builder.dialect.expression parameter.annotations =
      .error (.unreadable (.malformed error))) :
    (builder.parameterType parameter).run =
      ⟨.ok builder.fallback, [builder.unreadableRecord parameter.name error]⟩ := by
  rw [parameterType, Dialect.run_recordExpression_of_error h]
  rfl

theorem run_parameterType_of_failure {failure : ExpressionFailure}
    (h : builder.dialect.expression parameter.annotations = .error failure)
    (hother : ∀ error, failure ≠ .unreadable (.malformed error)) :
    (builder.parameterType parameter).run = ⟨.error (.expression failure), []⟩ := by
  rw [parameterType, Dialect.run_recordExpression_of_error h]
  rcases failure with (error | _ | _ | _) | _ | _
  · exact absurd rfl (hother error)
  all_goals rfl

/-- A parameter fails without a record, or it has a type and leaves the records of it. -/
theorem parameterType_cases (builder : Builder) (parameter : DocumentedParameter) :
    (∃ failure, builder.failureOf? parameter = some failure ∧
        (builder.parameterType parameter).run = ⟨.error (.expression failure), []⟩) ∨
      ∃ type records, builder.failureOf? parameter = none ∧
        (builder.parameterType parameter).run = ⟨.ok type, records⟩ ∧
        builder.RecordsOf parameter records := by
  cases hexpression : builder.dialect.expression parameter.annotations with
  | ok type =>
    have hnone : builder.failureOf? parameter = none := by
      rw [failureOf?, hexpression]
      rfl
    by_cases hempty : type = ""
    · subst hempty
      exact .inr ⟨_, _, hnone, run_parameterType_of_empty hexpression, .undocumented hexpression⟩
    · exact .inr ⟨_, _, hnone, run_parameterType_of_ok hexpression hempty,
        .written hexpression hempty⟩
  | error failure =>
    by_cases hmalformed : ∃ error, failure = .unreadable (.malformed error)
    · obtain ⟨error, rfl⟩ := hmalformed
      obtain ⟨front, text, back, hannotations, hfront, hparse⟩ :=
        Dialect.exists_unread_of_expression hexpression
      have htext : error.text = text := by
        obtain ⟨_, _, _, _, _, _, -, -, -, -, hfailure⟩ := Reader.exists_stopsAt hparse
        injection hfailure with hfailure
        rw [hfailure]
      have hrecords : builder.RecordsOf parameter
          [builder.unreadableRecord parameter.name error] := by
        rw [unreadableRecord, htext]
        exact .unreadable hannotations hfront hparse
      refine .inr ⟨_, _, ?_, run_parameterType_of_malformed hexpression, hrecords⟩
      rw [failureOf?, hexpression]
      rfl
    · have hother : ∀ error, failure ≠ .unreadable (.malformed error) :=
        fun error heq => hmalformed ⟨error, heq⟩
      exact .inl ⟨failure, failureOf?_eq_some_iff.mpr ⟨hexpression, hother⟩,
        run_parameterType_of_failure hexpression hother⟩

/-! ## The parameters of a stub -/

theorem errorOf?_typed (builder : Builder) (pair : DocumentedParameter × Declared) :
    errorOf? (builder.typed pair).run.value =
      (builder.failureOf? pair.1).map .expression := by
  rw [run_typed, errorOf?_map]
  rcases builder.parameterType_cases pair.1 with
    ⟨failure, hfailure, hrun⟩ | ⟨type, records, hnone, hrun, -⟩
  · rw [hfailure, hrun]
    rfl
  · rw [hnone, hrun]
    rfl

theorem records_typed_of_error {pair : DocumentedParameter × Declared} {failure : Failure}
    (h : (builder.typed pair).run.value = .error failure) :
    (builder.typed pair).run.records = [] := by
  rw [run_typed] at h ⊢
  rcases builder.parameterType_cases pair.1 with
    ⟨failure, -, hrun⟩ | ⟨type, records, -, hrun, -⟩
  · rw [hrun]
  · rw [hrun] at h
    cases h

/-- Parameters are typed one after another until one of them fails. -/
theorem mapM_typed (builder : Builder) (pairs : List (DocumentedParameter × Declared)) :
    errorOf? (pairs.mapM builder.typed).run.value =
        ((pairs.map Prod.fst).findSome? builder.failureOf?).map .expression ∧
      ∃ conversions,
        List.Forall₂ builder.RecordsOf
          ((pairs.map Prod.fst).takeWhile fun parameter => (builder.failureOf? parameter).isNone)
          conversions ∧
        (pairs.mapM builder.typed).run.records = conversions.flatten := by
  constructor
  · rw [Journaled.value_run_mapM, errorOf?_mapM, List.findSome?_map, List.map_findSome?]
    simp only [errorOf?_typed]
    rfl
  · refine ⟨_, ?_, Journaled.records_run_mapM (fun _ _ => records_typed_of_error) pairs⟩
    simp only [errorOf?_typed, Option.isNone_map]
    rw [List.takeWhile_map, List.forall₂_map_left_iff, List.forall₂_map_right_iff]
    refine List.forall₂_same.mpr fun pair hpair => ?_
    have hnone := List.mem_takeWhile_imp hpair
    rw [run_typed]
    rcases builder.parameterType_cases pair.1 with
      ⟨failure, hfailure, -⟩ | ⟨type, records, -, hrun, hrecords⟩
    · simp [hfailure] at hnone
    · rw [hrun]
      exact hrecords

theorem run_parameters_of_error {failure : Failure} (h : declared 0 declarations = .error failure)
    (builder : Builder) (documented : List DocumentedParameter) :
    (builder.parameters documented declarations).run = ⟨.error failure, []⟩ := by
  rw [parameters, h]
  rfl

theorem run_parameters_of_ok (h : declared 0 declarations = .ok ds) (builder : Builder)
    (documented : List DocumentedParameter) :
    (builder.parameters documented declarations).run =
      ⟨((documented.filterMap (shown? ds)).mapM builder.typed).run.value.map fun placed =>
          (placed.mergeSort fun a b => a.2 ≤ b.2).map (·.1),
        (documented.filter fun parameter => (shown? ds parameter).isNone).map
            (fun parameter => skippedRecord ds parameter.name) ++
          ((documented.filterMap (shown? ds)).mapM builder.typed).run.records⟩ := by
  rw [parameters, h, Journaled.run_bind_of_ok rfl, Journaled.run_bind_of_ok rfl,
    Journaled.run_bind_pure]
  rfl

end

end Builder

/-- Building the parameters of a stub fails for the first kind that is not known, before
anything is recorded, and otherwise for the first parameter that is kept and whose
annotations fail, if they are not just malformed.

If all kinds are known, the parameters that are left out are recorded first and then the
types of those that are kept, up to the one that fails.  Both come in the order of the
documentation. -/
theorem journal_of_parameters [Template.Members] (builder : Builder)
    (documented : List DocumentedParameter) (declarations : List Declaration) :
    (∀ failure, (builder.parameters documented declarations).run.value = .error failure ↔
        (∃ label, firstUnknown? declarations = some label ∧ failure = .unknownKind label) ∨
          firstUnknown? declarations = none ∧
            ∃ cause, (documented.filter fun parameter => Kept declarations parameter).findSome?
                builder.failureOf? = some cause ∧ failure = .expression cause) ∧
      (∀ label, firstUnknown? declarations = some label →
        (builder.parameters documented declarations).run.records = []) ∧
      (firstUnknown? declarations = none → ∃ skips conversions,
        List.Forall₂ (SkippedRecord declarations)
            (documented.filter fun parameter => ¬Kept declarations parameter) skips ∧
          List.Forall₂ builder.RecordsOf
            ((documented.filter fun parameter => Kept declarations parameter).takeWhile
              fun parameter => (builder.failureOf? parameter).isNone) conversions ∧
          (builder.parameters documented declarations).run.records =
            skips ++ conversions.flatten) := by
  have hdeclared := errorOf?_declared 0 declarations
  cases hunknown : firstUnknown? declarations with
  | some label =>
    rw [hunknown] at hdeclared
    have hrun := Builder.run_parameters_of_error (errorOf?_eq_some_iff.mp hdeclared) builder
      documented
    rw [hrun]
    refine ⟨fun failure => ?_, fun _ _ => rfl, nofun⟩
    simp [eq_comm]
  | none =>
    rw [hunknown] at hdeclared
    obtain ⟨ds, hds⟩ := errorOf?_eq_none_iff.mp hdeclared
    obtain ⟨hfailure, conversions, hconversions, hrecords⟩ :=
      builder.mapM_typed (documented.filterMap (Builder.shown? ds))
    rw [Builder.map_fst_shown? hds] at hfailure hconversions
    rw [Builder.run_parameters_of_ok hds, Builder.filter_shown? hds, hrecords]
    refine ⟨fun failure => ?_, nofun, fun _ => ⟨_, conversions, ?_, hconversions, rfl⟩⟩
    · rw [← errorOf?_eq_some_iff, errorOf?_map, hfailure, Option.map_eq_some_iff]
      simp [eq_comm]
    · rw [List.forall₂_map_right_iff, List.forall₂_same]
      exact fun parameter _ => Builder.skippedRecord_of_declared hds parameter

/-- What is left out is recorded before anything is typed, and what is typed stays in the
order of the documentation. -/
example :
    (Builder.parameters ⟨.standard, untyped⟩ [⟨"b", ["A", "B C"]⟩, ⟨"x", ["A"]⟩, ⟨"a", []⟩]
      [⟨"key", "a"⟩, ⟨"key", "b"⟩]).run.records.map (·.message) =
      ["Skipping parameter 'x' (kind: None)",
        "Unparseable type annotation 'B C' for parameter 'b' (expecting END, got name 'C'), " ++
          "using T.untyped",
        "converted [] to ''",
        "No type documented for parameter 'a', using T.untyped"] := by
  cbv

end Stub
end TypeStub
