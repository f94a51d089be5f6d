import TypeStub.Proofs.Dialect.Failure
import TypeStub.Proofs.Stub.Arrangement

/-!
# What a bad annotation costs

With the standard dialect a stub can be built from any annotations whatever.  An annotation
that is read can also be written, and one that is not read is malformed, which costs its
parameter the type and nothing else (`GivenType`).

Two documentations of the same names make stubs that differ in types only, and a type
differs only where the annotations of that very parameter do
(`method_isolates_annotations`).
-/

namespace TypeStub

open TypeStub.Annotation

/-! ## The type of a parameter -/

namespace Stub

section

variable [Template.Members]

/-- The type that annotations give a parameter: the one they are written as in the standard
dialect, or the fallback if there are none or one of them is not read. -/
inductive GivenType (fallback : String) (annotations : List String) : String → Prop
  | fallback :
    annotations = [] ∨ (∃ text ∈ annotations, ∃ failure, parse text = .error failure) →
      GivenType fallback annotations fallback
  | written {type : String} :
    annotations ≠ [] → (∀ text ∈ annotations, ∃ nodes, parse text = .ok nodes) →
      Dialect.standard.expression annotations = .ok type → type ≠ "" →
      GivenType fallback annotations type

namespace Builder

variable {fallback : String}

theorem exists_givenType (fallback : String) (parameter : DocumentedParameter) :
    ∃ type, (Builder.parameterType ⟨.standard, fallback⟩ parameter).run.value = .ok type ∧
      GivenType fallback parameter.annotations type := by
  rw [value_parameterType]
  rcases Dialect.forall_read_or_exists_error parameter.annotations with hread | hbad
  · obtain ⟨type, htype, hne⟩ := Dialect.exists_expression_ne_empty hread
    simp only [htype]
    by_cases hnone : parameter.annotations = []
    · have hempty : type = "" := by
        rw [hnone] at htype
        exact (Except.ok.inj htype).symm
      refine ⟨fallback, ?_, .fallback (.inl hnone)⟩
      rw [if_pos hempty]
    · refine ⟨type, ?_, .written hnone hread htype (hne hnone)⟩
      rw [if_neg (hne hnone)]
  · obtain ⟨error, herror⟩ := Dialect.exists_malformed_of_mem hbad
    refine ⟨fallback, ?_, .fallback (.inr hbad)⟩
    simp only [herror]

theorem givenType_of_value {parameter : DocumentedParameter} {type : String}
    (h : (Builder.parameterType ⟨.standard, fallback⟩ parameter).run.value = .ok type) :
    GivenType fallback parameter.annotations type := by
  obtain ⟨type', htype', hgiven⟩ := exists_givenType fallback parameter
  rw [h] at htype'
  rw [Except.ok.inj htype']
  exact hgiven

end Builder

/-! ## Two documentations -/

/-- The parameter stands for the documented one at the place: it has its name, the kind of
its last declaration and the type that its own annotations give. -/
def StandsFor (fallback : String) (declarations : List Declaration)
    (documented : List DocumentedParameter) (place : Nat) (parameter : TypedParameter) : Prop :=
  ∃ entry index, documented[place]? = some entry ∧ parameter.name = entry.name ∧
    LastDeclaration declarations entry.name parameter.kind index ∧
    GivenType fallback entry.annotations parameter.type

theorem GivenType.unique {fallback : String} {annotations : List String} {type type' : String}
    (h : GivenType fallback annotations type) (h' : GivenType fallback annotations type') :
    type = type' := by
  have hapart : annotations ≠ [] → (∀ text ∈ annotations, ∃ nodes, parse text = .ok nodes) →
      ¬(annotations = [] ∨ ∃ text ∈ annotations, ∃ failure, parse text = .error failure) := by
    rintro hne hread (hnone | ⟨text, htext, failure, hfailure⟩)
    · exact hne hnone
    · obtain ⟨nodes, hnodes⟩ := hread text htext
      rw [hnodes] at hfailure
      cases hfailure
  cases h with
  | fallback hbad =>
    cases h' with
    | fallback => rfl
    | written hne hread => exact absurd hbad (hapart hne hread)
  | written hne hread htype =>
    cases h' with
    | fallback hbad => exact absurd hbad (hapart hne hread)
    | written _ _ htype' => exact Except.ok.inj (htype.symm.trans htype')

/-- Parameters that stand for documented ones of the same name are declared alike. -/
theorem StandsFor.same {fallback : String} {declarations : List Declaration}
    {documented documented' : List DocumentedParameter} {place : Nat}
    {parameter parameter' : TypedParameter}
    (hnames : documented.map (·.name) = documented'.map (·.name))
    (h : StandsFor fallback declarations documented place parameter)
    (h' : StandsFor fallback declarations documented' place parameter') :
    parameter.name = parameter'.name ∧ parameter.kind = parameter'.kind := by
  obtain ⟨entry, index, hentry, hname, hlast, -⟩ := h
  obtain ⟨entry', index', hentry', hname', hlast', -⟩ := h'
  have hsame : entry.name = entry'.name := by
    have hplace := congrArg (·[place]?) hnames
    simp only [List.getElem?_map, hentry, hentry'] at hplace
    exact Option.some.inj hplace
  rw [← hsame] at hlast'
  exact ⟨hname.trans (hsame.trans hname'.symm), (hlast.unique hlast').1⟩

theorem StandsFor.annotations_ne {fallback : String} {declarations : List Declaration}
    {documented documented' : List DocumentedParameter} {place : Nat}
    {parameter parameter' : TypedParameter}
    (h : StandsFor fallback declarations documented place parameter)
    (h' : StandsFor fallback declarations documented' place parameter')
    (htype : parameter.type ≠ parameter'.type) :
    documented[place]?.map (·.annotations) ≠ documented'[place]?.map (·.annotations) := by
  obtain ⟨entry, index, hentry, -, -, hgiven⟩ := h
  obtain ⟨entry', index', hentry', -, -, hgiven'⟩ := h'
  intro hsame
  rw [hentry, hentry'] at hsame
  have hannotations : entry.annotations = entry'.annotations := Option.some.inj hsame
  rw [hannotations] at hgiven
  exact htype (hgiven.unique hgiven')

/-- In the standard dialect the parameters of a stub can be built from any documentation. -/
theorem exists_standsFor (fallback : String) {declarations : List Declaration}
    (hknown : ∀ declaration ∈ declarations,
      (ParameterKind.ofLabel? declaration.kindLabel).isSome)
    (documented : List DocumentedParameter) :
    ∃ places parameters,
      (Builder.parameters ⟨.standard, fallback⟩ documented declarations).run.value =
          .ok parameters ∧
        Arrangement declarations (documented.map (·.name)) places ∧
        List.Forall₂ (StandsFor fallback declarations documented) places parameters := by
  obtain ⟨ds, hdeclared⟩ := Builder.exists_declared_iff.mpr hknown
  have htypes : ∀ shown ∈ Builder.shown ds documented,
      ∃ type, (Builder.parameterType ⟨.standard, fallback⟩ shown.parameter).run.value =
        .ok type := by
    intro shown _
    obtain ⟨type, htype, -⟩ := Builder.exists_givenType fallback shown.parameter
    exact ⟨type, htype⟩
  obtain ⟨parameters, hparameters⟩ := Builder.exists_parameters hdeclared htypes
  obtain ⟨-, places, harrangement, htyped⟩ := Builder.exists_typedAt hparameters
  refine ⟨places, parameters, hparameters, harrangement, htyped.imp ?_⟩
  rintro place parameter ⟨entry, index, hentry, hname, hlast, htype⟩
  exact ⟨entry, index, hentry, hname, hlast, Builder.givenType_of_value htype⟩

/-- Whatever the annotations, the method of a documentation is built, and the methods of two
documentations of the same names have the same parameters but for their types.  The type of
a parameter is given by its own annotations, so it differs only where these do. -/
theorem method_isolates_annotations (fallback name returnType : String)
    {documented documented' : List DocumentedParameter} {declarations : List Declaration}
    (hknown : ∀ declaration ∈ declarations,
      (ParameterKind.ofLabel? declaration.kindLabel).isSome)
    (hnames : documented.map (·.name) = documented'.map (·.name)) :
    ∃ places parameters parameters',
      (Builder.method ⟨.standard, fallback⟩ name documented declarations returnType).run.value =
          .ok ⟨name, parameters, returnType⟩ ∧
        (Builder.method ⟨.standard, fallback⟩ name documented' declarations
          returnType).run.value = .ok ⟨name, parameters', returnType⟩ ∧
        Arrangement declarations (documented.map (·.name)) places ∧
        List.Forall₂ (StandsFor fallback declarations documented) places parameters ∧
        List.Forall₂ (StandsFor fallback declarations documented') places parameters' ∧
        List.Forall₂ (fun (parameter parameter' : TypedParameter) =>
          parameter.name = parameter'.name ∧ parameter.kind = parameter'.kind)
          parameters parameters' ∧
        ∀ (i place : Nat) (parameter parameter' : TypedParameter), places[i]? = some place →
          parameters[i]? = some parameter → parameters'[i]? = some parameter' →
          parameter.type ≠ parameter'.type →
          documented[place]?.map (·.annotations) ≠ documented'[place]?.map (·.annotations) := by
  obtain ⟨places, parameters, hparameters, harrangement, hstand⟩ :=
    exists_standsFor fallback hknown documented
  obtain ⟨places', parameters', hparameters', harrangement', hstand'⟩ :=
    exists_standsFor fallback hknown documented'
  -- The names leave no choice of the places, so both stubs have the same.
  obtain rfl : places = places' := by
    rw [← hnames] at harrangement'
    exact harrangement.unique harrangement'
  refine ⟨places, parameters, parameters', ?_, ?_, harrangement, hstand, hstand', ?_, ?_⟩
  · rw [Builder.value_method, hparameters]
    rfl
  · rw [Builder.value_method, hparameters']
    rfl
  · have hlength : parameters.length = parameters'.length :=
      hstand.length_eq.symm.trans hstand'.length_eq
    refine List.forall₂_iff_get.mpr ⟨hlength, fun i hi hj => ?_⟩
    have hplace : i < places.length := by
      rw [hstand.length_eq]
      exact hi
    exact (hstand.get hplace hi).same hnames (hstand'.get hplace hj)
  · intro i place parameter parameter' hplace hparameter hparameter' htype
    exact (forall₂_getElem? hstand hplace hparameter).annotations_ne
      (forall₂_getElem? hstand' hplace hparameter') htype

end

/-- The annotation of the first parameter is not read in one of the documentations: the
methods are `b: T.nilable(String), a: T.untyped` and `b: T.nilable(String), a: Integer`. -/
theorem method_isolates_unclosed_array :
    (∀ declaration ∈ ([⟨"req", "self"⟩, ⟨"key", "b"⟩, ⟨"keyreq", "a"⟩] : List Declaration),
        (ParameterKind.ofLabel? declaration.kindLabel).isSome) ∧
      ∃ places parameters parameters',
        (Builder.method ⟨.standard, untyped⟩ "m"
            [⟨"a", ["Array<"]⟩, ⟨"b", ["String", "nil"]⟩]
            [⟨"req", "self"⟩, ⟨"key", "b"⟩, ⟨"keyreq", "a"⟩] "void").run.value =
            .ok ⟨"m", parameters, "void"⟩ ∧
          (Builder.method ⟨.standard, untyped⟩ "m"
            [⟨"a", ["Integer"]⟩, ⟨"b", ["String", "nil"]⟩]
            [⟨"req", "self"⟩, ⟨"key", "b"⟩, ⟨"keyreq", "a"⟩] "void").run.value =
            .ok ⟨"m", parameters', "void"⟩ ∧
          List.Forall₂ (StandsFor untyped [⟨"req", "self"⟩, ⟨"key", "b"⟩, ⟨"keyreq", "a"⟩]
            [⟨"a", ["Array<"]⟩, ⟨"b", ["String", "nil"]⟩]) places parameters ∧
          List.Forall₂ (fun (parameter parameter' : TypedParameter) =>
            parameter.name = parameter'.name ∧ parameter.kind = parameter'.kind)
            parameters parameters' := by
  have hknown : ∀ declaration ∈
      ([⟨"req", "self"⟩, ⟨"key", "b"⟩, ⟨"keyreq", "a"⟩] : List Declaration),
      (ParameterKind.ofLabel? declaration.kindLabel).isSome := by decide
  have hnames : ([⟨"a", ["Array<"]⟩, ⟨"b", ["String", "nil"]⟩] :
      List DocumentedParameter).map (·.name) =
      ([⟨"a", ["Integer"]⟩, ⟨"b", ["String", "nil"]⟩] : List DocumentedParameter).map (·.name) :=
    rfl
  obtain ⟨places, parameters, parameters', hmethod, hmethod', -, hstand, -, hsame, -⟩ :=
    method_isolates_annotations untyped "m" "void" hknown hnames
  exact ⟨hknown, places, parameters, parameters', hmethod, hmethod', hstand, hsame⟩

end Stub
end TypeStub
