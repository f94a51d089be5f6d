import TypeStub.Proofs.Dialect.Wrapping
import TypeStub.Stub.Signature

/-!
# Reading a stub back

The types in a stub hold commas and parentheses themselves, and stand between others.  All the
same a type can be told from the comma or the parenthesis behind it, whatever follows
(`IsParameterType.decodes`), and so can the declaration of a parameter, by the characters
that no name has (`TypedParameter.Readable.decodes_declaration`).

So each line of a stub says what it is made of, and both together say the whole signature
(`MethodSignature.Readable.render_eq_iff`).
-/

namespace TypeStub

open TypeStub.Annotation TypeStub.Text

/-! ## Types in front of other text -/

/-- A type that a parameter has: one that annotations come to, or the type of anything. -/
inductive IsParameterType : String → Prop
  | untyped : IsParameterType "T.untyped"
  | term {term : Term} {text : String} : term.WrittenAs text → IsParameterType text
  | wrapped {wrapper : String} {members : List Term} {texts : List String} :
    wrapper = "T.any(" ∨ wrapper = "T.nilable(" → members ≠ [] →
      List.Forall₂ Term.WrittenAs members texts →
      IsParameterType (wrapper ++ listTypes texts ++ ")")

theorem isParameterType_of_expression [Template.Members] {annotations : List String}
    {type : String} (h : Dialect.standard.expression annotations = .ok type) (hne : type ≠ "") :
    IsParameterType type := by
  obtain ⟨types, htypes, -⟩ := bind_eq_ok_iff.mp h
  obtain ⟨lists, hlists⟩ := Dialect.exists_readInto_of_writeAnnotations htypes
  obtain ⟨text, htext, hform⟩ := Dialect.exists_expression hlists
  rw [h] at htext
  obtain rfl := Except.ok.inj htext
  generalize normalForm lists.flatten = form at hform
  cases hform with
  | nothing => exact absurd rfl hne
  | single hterm => exact .term hterm
  | union hlength hmembers =>
    refine .wrapped (.inl rfl) ?_ hmembers
    rintro rfl
    exact absurd hlength (by decide)
  | nilable hmembers_ne hmembers => exact .wrapped (.inr rfl) hmembers_ne hmembers

theorem wrapper_unique {wrapper wrapper' types types' : String} {rest rest' : List Char}
    (h : wrapper = "T.any(" ∨ wrapper = "T.nilable(")
    (h' : wrapper' = "T.any(" ∨ wrapper' = "T.nilable(")
    (heq : (wrapper ++ types ++ ")").toList ++ rest = (wrapper' ++ types' ++ ")").toList ++ rest') :
    wrapper = wrapper' ∧ types.toList ++ ')' :: rest = types'.toList ++ ')' :: rest' := by
  rcases h with rfl | rfl
  · rcases h' with rfl | rfl
    · simpa using heq
    · simp at heq
  · rcases h' with rfl | rfl
    · simp at heq
    · simpa using heq

theorem exists_dotted_of_wrapper {wrapper : String} (h : wrapper = "T.any(" ∨ wrapper = "T.nilable(")
    (types : String) (rest : List Char) :
    ∃ cs, (wrapper ++ types ++ ")").toList ++ rest = 'T' :: '.' :: cs := by
  rw [String.toList_append, String.toList_append, List.append_assoc, List.append_assoc]
  rcases h with rfl | rfl
  · exact ⟨_, rfl⟩
  · exact ⟨_, rfl⟩

/-- A type is told from the text behind it, and from every other type. -/
theorem IsParameterType.decodes {type type' : String} {rest rest' : List Char}
    (h : IsParameterType type) (h' : IsParameterType type') (hrest : EndsMember rest)
    (hrest' : EndsMember rest') (heq : type.toList ++ rest = type'.toList ++ rest') :
    type = type' ∧ rest = rest' := by
  -- Only the terms have no dot behind the first letter.
  cases h with
  | untyped =>
    cases h' with
    | untyped => exact ⟨rfl, List.append_cancel_left heq⟩
    | term hterm => exact absurd heq.symm (hterm.ne_dotted hrest' _)
    | wrapped hwrapper => rcases hwrapper with rfl | rfl <;> simp at heq
  | term hterm =>
    cases h' with
    | untyped => exact absurd heq (hterm.ne_dotted hrest _)
    | term hterm' =>
      obtain ⟨rfl, hbehind⟩ := Term.decodes _ _ _ _ _ _ hterm hterm' hrest hrest' heq
      exact ⟨hterm.text_unique hterm', hbehind⟩
    | wrapped hwrapper =>
      obtain ⟨cs, hdotted⟩ := exists_dotted_of_wrapper hwrapper _ rest'
      exact absurd (heq.trans hdotted) (hterm.ne_dotted hrest cs)
  | @wrapped _ members texts hwrapper hne hmembers =>
    cases h' with
    | untyped => rcases hwrapper with rfl | rfl <;> simp at heq
    | term hterm =>
      obtain ⟨cs, hdotted⟩ := exists_dotted_of_wrapper hwrapper _ rest
      exact absurd (heq.symm.trans hdotted) (hterm.ne_dotted hrest' cs)
    | @wrapped _ members' texts' hwrapper' hne' hmembers' =>
      obtain ⟨rfl, hbehind⟩ := wrapper_unique hwrapper hwrapper' heq
      obtain ⟨rfl, hrests⟩ := members_unique (fun member _ => member.decodes) hne hne' hmembers
        hmembers' (.paren _) (.paren _) hbehind
      have htexts : texts = texts' :=
        Term.texts_unique (fun _ _ _ _ h h' => h.text_unique h') hmembers hmembers'
      exact ⟨by rw [htexts], (List.cons.inj hrests).2⟩

namespace Stub

/-! ## Parameters -/

namespace ParameterKind

/-- What stands in front of the name in a declaration. -/
def sigil : ParameterKind → String
  | .rest => "*"
  | .keyrest => "**"
  | .block => "&"
  | _ => ""

/-- What leads from the name to what stands for a default value. -/
def sign : ParameterKind → String
  | .opt => " = "
  | .keyreq => ":"
  | .key => ": "
  | _ => ""

def defaultValue : ParameterKind → String
  | .opt => "T.unsafe(nil)"
  | .key => "T.unsafe(nil)"
  | _ => ""

/-- The kind that marks around a name say. -/
def ofMarks : String → String → ParameterKind
  | "*", _ => .rest
  | "**", _ => .keyrest
  | "&", _ => .block
  | _, " = " => .opt
  | _, ":" => .keyreq
  | _, ": " => .key
  | _, _ => .req

theorem ofMarks_marks {kind : ParameterKind} (h : kind ≠ .nokey) :
    ofMarks kind.sigil kind.sign = kind := by
  cases kind with
  | nokey => exact absurd rfl h
  | _ => rfl

def isSignChar (c : Char) : Bool := c = ' ' || c = '=' || c = ':'

theorem not_isWord_of_mem_sigil (kind : ParameterKind) :
    ∀ c ∈ kind.sigil.toList, (!isWord c) = true := by
  have hall : kind.sigil.toList.all (!isWord ·) = true := by
    cases kind <;> decide +kernel
  exact List.all_eq_true.mp hall

theorem isSignChar_of_mem_sign (kind : ParameterKind) :
    ∀ c ∈ kind.sign.toList, isSignChar c = true := by
  have hall : kind.sign.toList.all isSignChar = true := by
    cases kind <;> decide +kernel
  exact List.all_eq_true.mp hall

variable {rest : List Char}

theorem not_isWord_behind_name (kind : ParameterKind) (hrest : EndsMember rest) :
    ∀ c ∈ (kind.sign.toList ++ (kind.defaultValue.toList ++ rest)).head?, isWord c = false := by
  have hword : ∀ c ∈ rest.head?, isWord c = false := by
    intro c hc
    by_contra hword
    rw [Bool.not_eq_false] at hword
    have hend := hrest.isNameChar c hc
    rw [isNameChar_of_isWord hword] at hend
    cases hend
  have hblank : isWord ' ' = false := by decide +kernel
  cases kind with
  | opt => exact class_head?_cons hblank _
  | keyreq => exact class_head?_cons isWord_colon _
  | key => exact class_head?_cons isWord_colon _
  | _ => exact hword

theorem not_isSignChar_behind_sign (kind : ParameterKind) (hrest : EndsMember rest) :
    ∀ c ∈ (kind.defaultValue.toList ++ rest).head?, isSignChar c = false := by
  have hend : ∀ c ∈ rest.head?, isSignChar c = false := by
    intro c hc
    rcases hrest c hc with rfl | rfl | rfl
    all_goals decide
  have hvalue : isSignChar 'T' = false := by decide
  cases kind with
  | opt => exact class_head?_cons hvalue _
  | key => exact class_head?_cons hvalue _
  | _ => exact hend

end ParameterKind

namespace TypedParameter

/-- A parameter that a stub shows as it is. -/
structure Readable [Template.Members] (parameter : TypedParameter) : Prop where
  name : IsRun parameter.name.toList
  kind : parameter.kind ≠ .nokey
  type : parameter.type = "T.untyped" ∨ parameter.type ≠ "" ∧
    ∃ annotations, Dialect.standard.expression annotations = .ok parameter.type

/-- What the line with the types shows of a parameter. -/
def nameAndType (parameter : TypedParameter) : String × String := (parameter.name, parameter.type)

/-- What the line of the definition shows of it. -/
def nameAndKind (parameter : TypedParameter) : String × ParameterKind :=
  (parameter.name, parameter.kind)

variable {parameter other : TypedParameter} {rest rest' : List Char}

theorem Readable.isParameterType [Template.Members] (h : parameter.Readable) :
    IsParameterType parameter.type := by
  rcases h.type with huntyped | ⟨hne, annotations, hwritten⟩
  · rw [huntyped]
    exact .untyped
  · exact isParameterType_of_expression hwritten hne

theorem renderDeclaration_eq (h : parameter.kind ≠ .nokey) :
    parameter.renderDeclaration = parameter.kind.sigil ++ (parameter.name ++
      (parameter.kind.sign ++ parameter.kind.defaultValue)) := by
  obtain ⟨name, kind, type⟩ := parameter
  cases kind with
  | nokey => exact absurd rfl h
  | _ => simp [renderDeclaration, ParameterKind.sigil, ParameterKind.sign, ParameterKind.defaultValue]

theorem Readable.decodes_type [Template.Members] (h : parameter.Readable) (h' : other.Readable)
    (hrest : EndsMember rest) (hrest' : EndsMember rest')
    (heq : parameter.renderType.toList ++ rest = other.renderType.toList ++ rest') :
    parameter.nameAndType = other.nameAndType ∧ rest = rest' := by
  have hcolon : ∀ cs : List Char, ∀ c ∈ (": ".toList ++ cs).head?, isWord c = false :=
    fun cs => class_head?_cons isWord_colon (' ' :: cs)
  simp only [renderType, String.toList_append, List.append_assoc] at heq
  obtain ⟨hname, hbehind⟩ := append_inj_of_class h.name.2 h'.name.2 (hcolon _) (hcolon _) heq
  obtain ⟨htype, hrests⟩ := h.isParameterType.decodes h'.isParameterType hrest hrest'
    (List.append_cancel_left hbehind)
  rw [nameAndType, nameAndType, String.toList_inj.mp hname, htype]
  exact ⟨rfl, hrests⟩

theorem Readable.decodes_declaration [Template.Members] (h : parameter.Readable)
    (h' : other.Readable)
    (hrest : EndsMember rest) (hrest' : EndsMember rest')
    (heq : parameter.renderDeclaration.toList ++ rest = other.renderDeclaration.toList ++ rest') :
    parameter.nameAndKind = other.nameAndKind ∧ rest = rest' := by
  rw [renderDeclaration_eq h.kind, renderDeclaration_eq h'.kind] at heq
  simp only [String.toList_append, List.append_assoc] at heq
  have hfirst : ∀ {word cs : List Char}, IsRun word →
      ∀ c ∈ (word ++ cs).head?, (!isWord c) = false := by
    intro word cs hword
    obtain ⟨d, ds, rfl⟩ := List.exists_cons_of_ne_nil hword.1
    refine class_head?_cons (p := (!isWord ·)) ?_ _
    rw [hword.2 d List.mem_cons_self]
    rfl
  -- Each mark ends where a character begins that it never holds.
  obtain ⟨hsigil, hnamed⟩ := append_inj_of_class (p := (!isWord ·))
    parameter.kind.not_isWord_of_mem_sigil other.kind.not_isWord_of_mem_sigil (hfirst h.name)
    (hfirst h'.name) heq
  obtain ⟨hname, hsigned⟩ := append_inj_of_class h.name.2 h'.name.2
    (parameter.kind.not_isWord_behind_name hrest) (other.kind.not_isWord_behind_name hrest') hnamed
  obtain ⟨hsign, hbehind⟩ := append_inj_of_class parameter.kind.isSignChar_of_mem_sign
    other.kind.isSignChar_of_mem_sign (parameter.kind.not_isSignChar_behind_sign hrest)
    (other.kind.not_isSignChar_behind_sign hrest') hsigned
  have hkind : parameter.kind = other.kind := by
    rw [← ParameterKind.ofMarks_marks h.kind, String.toList_inj.mp hsigil,
      String.toList_inj.mp hsign, ParameterKind.ofMarks_marks h'.kind]
  rw [hkind] at hbehind
  rw [nameAndKind, nameAndKind, String.toList_inj.mp hname, hkind]
  exact ⟨rfl, List.append_cancel_left hbehind⟩

end TypedParameter

/-- A list of parameters can be told from what stands behind it if each of them can. -/
theorem TypedParameter.entries_unique [Template.Members] {κ : Type} {key : TypedParameter → κ}
    {entry : TypedParameter → String} {parameters others : List TypedParameter}
    {rest rest' : List Char}
    (hentry : ∀ {parameter other : TypedParameter} {rest rest' : List Char},
      parameter.Readable → other.Readable → EndsMember rest → EndsMember rest' →
        (entry parameter).toList ++ rest = (entry other).toList ++ rest' →
        key parameter = key other ∧ rest = rest')
    (h : ∀ parameter ∈ parameters, parameter.Readable) (h' : ∀ other ∈ others, other.Readable)
    (hne : parameters ≠ []) (hne' : others ≠ []) (hrest : EndsMembers rest)
    (hrest' : EndsMembers rest')
    (heq : (listTypes (parameters.map entry)).toList ++ rest =
      (listTypes (others.map entry)).toList ++ rest') :
    parameters.map key = others.map key ∧ rest = rest' := by
  have hwritten : ∀ {list : List TypedParameter}, (∀ parameter ∈ list, parameter.Readable) →
      List.Forall₂ (fun found text => ∃ parameter : TypedParameter, parameter.Readable ∧
        found = key parameter ∧ text = entry parameter) (list.map key) (list.map entry) := by
    intro list hlist
    rw [List.forall₂_map_left_iff, List.forall₂_map_right_iff, List.forall₂_same]
    exact fun parameter hparameter => ⟨parameter, hlist parameter hparameter, rfl, rfl⟩
  refine members_unique ?_ (by simpa using hne) (by simpa using hne') (hwritten h) (hwritten h')
    hrest hrest' heq
  rintro - - - - - rest rest' ⟨parameter, hparameter, rfl, rfl⟩ ⟨other, hother, rfl, rfl⟩
  exact hentry hparameter hother

/-! ## The two lines -/

namespace MethodSignature

/-- A signature that a stub shows as it is. -/
structure Readable [Template.Members] (signature : MethodSignature) : Prop where
  name : '(' ∉ signature.name.toList ∧ ';' ∉ signature.name.toList ∧ '\n' ∉ signature.name.toList
  returnType : '\n' ∉ signature.returnType.toList
  parameters : ∀ parameter ∈ signature.parameters, parameter.Readable

variable {signature other : MethodSignature} {rest rest' : List Char}

theorem returnType_eq_of_renderReturn (h : signature.renderReturn = other.renderReturn) :
    signature.returnType = other.returnType := by
  rw [renderReturn, renderReturn, ← String.toList_inj] at h
  by_cases hvoid : signature.returnType = void
  · by_cases hvoid' : other.returnType = void
    · rw [hvoid, hvoid']
    · rw [if_pos hvoid, if_neg hvoid'] at h
      simp [void] at h
  · by_cases hvoid' : other.returnType = void
    · rw [if_neg hvoid, if_pos hvoid'] at h
      simp [void] at h
    · rw [if_neg hvoid, if_neg hvoid'] at h
      simpa [String.toList_inj] using h

theorem Readable.newline_not_mem [Template.Members] (h : signature.Readable) :
    ∀ c ∈ signature.renderReturn.toList ++ " \x7d".toList, (c != '\n') = true := by
  have hreturn : '\n' ∉ signature.renderReturn.toList ++ " \x7d".toList := by
    have hvoid : '\n' ∉ void.toList := by decide
    rw [renderReturn]
    split
    · simpa using hvoid
    · simpa using h.returnType
  intro c hc
  rw [bne_iff_ne]
  rintro rfl
  exact hreturn hc

/-- The end of the line is told by the line break. -/
theorem Readable.return_unique [Template.Members] (h : signature.Readable) (h' : other.Readable)
    (heq : signature.renderReturn.toList ++ (" \x7d".toList ++ '\n' :: rest) =
      other.renderReturn.toList ++ (" \x7d".toList ++ '\n' :: rest')) :
    signature.returnType = other.returnType ∧ rest = rest' := by
  have hbreak : ∀ cs : List Char, ∀ c ∈ ('\n' :: cs).head?, (c != '\n') = false :=
    class_head?_cons (p := (· != '\n')) rfl
  rw [← List.append_assoc, ← List.append_assoc] at heq
  obtain ⟨hline, hrests⟩ := append_inj_of_class (p := (· != '\n')) h.newline_not_mem
    h'.newline_not_mem (hbreak _) (hbreak _) heq
  have hreturn := String.toList_inj.mp (List.append_cancel_right hline)
  exact ⟨returnType_eq_of_renderReturn hreturn, (List.cons.inj hrests).2⟩

theorem renderReturn_ne_params (signature : MethodSignature) (cs ds : List Char) :
    signature.renderReturn.toList ++ cs ≠ "params(".toList ++ ds := by
  intro heq
  rw [renderReturn] at heq
  split at heq
  · simp [void] at heq
  · simp at heq

theorem toList_renderTypes_of_nil (h : signature.parameters = []) :
    signature.renderTypes.toList =
      "sig \x7b ".toList ++ (signature.renderReturn.toList ++ " \x7d".toList) := by
  simp [renderTypes, h]

theorem toList_renderTypes_of_ne_nil (h : signature.parameters ≠ []) :
    signature.renderTypes.toList = "sig \x7b ".toList ++ ("params(".toList ++
      ((listTypes (signature.parameters.map (·.renderType))).toList ++
        ')' :: '.' :: (signature.renderReturn.toList ++ " \x7d".toList))) := by
  simp [renderTypes, h, listTypes]

theorem Readable.renderTypes_unique [Template.Members] (h : signature.Readable) (h' : other.Readable)
    (heq : signature.renderTypes.toList ++ '\n' :: rest =
      other.renderTypes.toList ++ '\n' :: rest') :
    signature.returnType = other.returnType ∧
      signature.parameters.map (·.nameAndType) =
        other.parameters.map (·.nameAndType) ∧
      rest = rest' := by
  by_cases hnil : signature.parameters = []
  · rw [toList_renderTypes_of_nil hnil] at heq
    by_cases hnil' : other.parameters = []
    · rw [toList_renderTypes_of_nil hnil'] at heq
      simp only [List.append_assoc, List.append_cancel_left_eq] at heq
      obtain ⟨hreturn, hrests⟩ := h.return_unique h' heq
      rw [hnil, hnil']
      exact ⟨hreturn, rfl, hrests⟩
    · rw [toList_renderTypes_of_ne_nil hnil'] at heq
      simp only [List.append_assoc, List.append_cancel_left_eq] at heq
      exact absurd heq (signature.renderReturn_ne_params _ _)
  · rw [toList_renderTypes_of_ne_nil hnil] at heq
    by_cases hnil' : other.parameters = []
    · rw [toList_renderTypes_of_nil hnil'] at heq
      simp only [List.append_assoc, List.append_cancel_left_eq] at heq
      exact absurd heq.symm (other.renderReturn_ne_params _ _)
    · rw [toList_renderTypes_of_ne_nil hnil'] at heq
      simp only [List.append_assoc, List.append_cancel_left_eq, List.cons_append] at heq
      obtain ⟨htypes, hbehind⟩ := TypedParameter.entries_unique
        TypedParameter.Readable.decodes_type h.parameters h'.parameters hnil hnil' (.paren _)
        (.paren _) heq
      obtain ⟨hreturn, hrests⟩ := h.return_unique h' (List.cons.inj (List.cons.inj hbehind).2).2
      exact ⟨hreturn, htypes, hrests⟩

/-- What stands behind the name in the definition. -/
def definitionEnd (signature : MethodSignature) : List Char :=
  if signature.parameters = [] then "; end".toList
  else '(' :: ((listTypes (signature.parameters.map (·.renderDeclaration))).toList ++
    ')' :: "; end".toList)

theorem toList_renderDefinition (signature : MethodSignature) :
    signature.renderDefinition.toList =
      "def ".toList ++ (signature.name.toList ++ signature.definitionEnd) := by
  by_cases hnil : signature.parameters = []
  · simp [renderDefinition, definitionEnd, hnil]
  · simp [renderDefinition, definitionEnd, hnil, listTypes]

/-- A character that no method name has. -/
def endsName (c : Char) : Bool := c = '(' || c = ';'

theorem Readable.endsName_of_mem [Template.Members] (h : signature.Readable) :
    ∀ c ∈ signature.name.toList, (!endsName c) = true := by
  intro c hc
  rw [Bool.not_eq_true', endsName, Bool.or_eq_false_iff]
  refine ⟨decide_eq_false ?_, decide_eq_false ?_⟩
  · rintro rfl
    exact h.name.1 hc
  · rintro rfl
    exact h.name.2.1 hc

theorem endsName_of_definitionEnd (signature : MethodSignature) :
    ∀ c ∈ signature.definitionEnd.head?, (!endsName c) = false := by
  rw [definitionEnd]
  split
  · exact class_head?_cons (p := (!endsName ·)) rfl _
  · exact class_head?_cons (p := (!endsName ·)) rfl _

theorem Readable.renderDefinition_unique [Template.Members] (h : signature.Readable)
    (h' : other.Readable)
    (heq : signature.renderDefinition = other.renderDefinition) :
    signature.name = other.name ∧
      signature.parameters.map (·.nameAndKind) =
        other.parameters.map (·.nameAndKind) := by
  rw [← String.toList_inj, toList_renderDefinition, toList_renderDefinition,
    List.append_cancel_left_eq] at heq
  obtain ⟨hname, hbehind⟩ := append_inj_of_class (p := (!endsName ·)) h.endsName_of_mem
    h'.endsName_of_mem signature.endsName_of_definitionEnd other.endsName_of_definitionEnd heq
  refine ⟨String.toList_inj.mp hname, ?_⟩
  rw [definitionEnd, definitionEnd] at hbehind
  by_cases hnil : signature.parameters = []
  · by_cases hnil' : other.parameters = []
    · rw [hnil, hnil']
    · rw [if_pos hnil, if_neg hnil'] at hbehind
      simp at hbehind
  · by_cases hnil' : other.parameters = []
    · rw [if_neg hnil, if_pos hnil'] at hbehind
      simp at hbehind
    · rw [if_neg hnil, if_neg hnil'] at hbehind
      exact (TypedParameter.entries_unique TypedParameter.Readable.decodes_declaration
        h.parameters h'.parameters hnil hnil' (.paren _) (.paren _)
        (List.cons.inj hbehind).2).1

/-! ## Signatures -/

theorem renderTypes_congr (hreturn : signature.returnType = other.returnType)
    (htypes : signature.parameters.map (·.nameAndType) = other.parameters.map (·.nameAndType)) :
    signature.renderTypes = other.renderTypes := by
  have hentries : signature.parameters.map (·.renderType) = other.parameters.map (·.renderType) := by
    have hmap := congrArg (List.map fun entry => entry.1 ++ ": " ++ entry.2) htypes
    rwa [List.map_map, List.map_map] at hmap
  have hempty : signature.parameters.isEmpty = other.parameters.isEmpty := by
    have hmap := congrArg List.isEmpty htypes
    rwa [List.isEmpty_map, List.isEmpty_map] at hmap
  rw [renderTypes, renderTypes, renderReturn, renderReturn, hentries, hempty, hreturn]

theorem renderDefinition_congr (hname : signature.name = other.name)
    (hkinds : signature.parameters.map (·.nameAndKind) = other.parameters.map (·.nameAndKind)) :
    signature.renderDefinition = other.renderDefinition := by
  have hentries : signature.parameters.map (·.renderDeclaration) =
      other.parameters.map (·.renderDeclaration) := by
    have hmap := congrArg
      (List.map fun entry => (TypedParameter.mk entry.1 entry.2 "").renderDeclaration) hkinds
    rwa [List.map_map, List.map_map] at hmap
  have hempty : signature.parameters.isEmpty = other.parameters.isEmpty := by
    have hmap := congrArg List.isEmpty hkinds
    rwa [List.isEmpty_map, List.isEmpty_map] at hmap
  rw [renderDefinition, renderDefinition, hentries, hempty, hname]

/-- Names and types of parameters from one line and names and kinds from the other are all of
the parameters. -/
theorem parameters_eq {parameters others : List TypedParameter}
    (htypes : parameters.map (·.nameAndType) = others.map (·.nameAndType))
    (hkinds : parameters.map (·.nameAndKind) = others.map (·.nameAndKind)) :
    parameters = others := by
  induction parameters generalizing others with
  | nil => exact (List.map_eq_nil_iff.mp htypes.symm).symm
  | cons parameter parameters ih =>
    cases others with
    | nil => cases htypes
    | cons other others =>
      obtain ⟨htype, hmoreTypes⟩ := List.cons.inj htypes
      obtain ⟨hkind, hmoreKinds⟩ := List.cons.inj hkinds
      obtain rfl := ih hmoreTypes hmoreKinds
      obtain ⟨name, kind, type⟩ := parameter
      obtain ⟨name', kind', type'⟩ := other
      obtain ⟨rfl, rfl⟩ := Prod.mk.inj htype
      obtain ⟨-, rfl⟩ := Prod.mk.inj hkind
      rfl

/-- Either line of a stub says what it is made of, and the two together say the signature. -/
theorem Readable.render_eq_iff [Template.Members] (h : signature.Readable) (h' : other.Readable) :
    (signature.renderTypes = other.renderTypes ↔
        signature.returnType = other.returnType ∧
          signature.parameters.map (·.nameAndType) =
            other.parameters.map (·.nameAndType)) ∧
      (signature.renderDefinition = other.renderDefinition ↔
        signature.name = other.name ∧
          signature.parameters.map (·.nameAndKind) =
            other.parameters.map (·.nameAndKind)) ∧
      (signature.render = other.render ↔ signature = other) := by
  refine ⟨⟨fun heq => ?_, fun ⟨hreturn, htypes⟩ => renderTypes_congr hreturn htypes⟩,
    ⟨fun heq => h.renderDefinition_unique h' heq,
      fun ⟨hname, hkinds⟩ => renderDefinition_congr hname hkinds⟩, fun heq => ?_, ?_⟩
  · have hline : signature.renderTypes.toList ++ '\n' :: [] =
        other.renderTypes.toList ++ '\n' :: [] := by rw [heq]
    obtain ⟨hreturn, htypes, -⟩ := h.renderTypes_unique h' hline
    exact ⟨hreturn, htypes⟩
  · rw [render, render, ← String.toList_inj] at heq
    simp only [String.toList_append, List.append_assoc] at heq
    obtain ⟨hreturn, htypes, hdefinition⟩ := h.renderTypes_unique h' heq
    obtain ⟨hname, hkinds⟩ := h.renderDefinition_unique h' (String.toList_inj.mp hdefinition)
    have hparameters := parameters_eq htypes hkinds
    obtain ⟨name, parameters, returnType⟩ := signature
    obtain ⟨name', parameters', returnType'⟩ := other
    obtain rfl : name = name' := hname
    obtain rfl : parameters = parameters' := hparameters
    obtain rfl : returnType = returnType' := hreturn
    rfl
  · rintro rfl
    rfl

/-- A method with a union among its types and one parameter of a kind that is left open. -/
def select (kind : ParameterKind) : MethodSignature :=
  ⟨"select", [⟨"rows", kind, "T.any(A, B)"⟩, ⟨"key", .key, "T.untyped"⟩], "void"⟩

theorem readable_select [Template.Members] {kind : ParameterKind} (h : kind ≠ .nokey) :
    (select kind).Readable where
  name := by simp [select]
  returnType := by simp [select]
  parameters := by
    have hread : Dialect.ReadInto ["A", "B"] [[.simple "A"], [.simple "B"]] :=
      .cons (by cbv) (.cons (by cbv) .nil)
    have hunion : Dialect.standard.expression ["A", "B"] = .ok "T.any(A, B)" := by
      rw [Dialect.expression, Dialect.writeAnnotations_of_readInto _ hread]
      exact Dialect.wrap_union ["A", "B"]
    have hrows : IsRun "rows".toList :=
      ⟨by decide, fun c hc => isWord_of_isAlphanum (List.all_eq_true.mp (by decide) c hc)⟩
    have hkey : IsRun "key".toList :=
      ⟨by decide, fun c hc => isWord_of_isAlphanum (List.all_eq_true.mp (by decide) c hc)⟩
    refine List.forall_mem_cons.mpr ⟨⟨hrows, h, .inr ⟨?_, _, hunion⟩⟩, ?_⟩
    · exact of_decide_eq_true rfl
    · exact List.forall_mem_singleton.mpr ⟨hkey, by decide, .inl rfl⟩

/-- Two kinds with like marks make stubs that differ. -/
theorem render_eq_iff_of_select :
    (select .rest).Readable ∧ (select .keyrest).Readable ∧
      (select .rest).render ≠ (select .keyrest).render := by
  have hrest : (select .rest).Readable := readable_select (by decide)
  have hkeyrest : (select .keyrest).Readable := readable_select (by decide)
  refine ⟨hrest, hkeyrest, fun heq => ?_⟩
  have hsame := (hrest.render_eq_iff hkeyrest).2.2.mp heq
  exact absurd hsame (by decide)

end MethodSignature

end Stub
end TypeStub
