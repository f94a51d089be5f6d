import TypeStub.Proofs.Annotation.Proper
import TypeStub.Proofs.Dialect.Decoding
import TypeStub.Proofs.Template.Filling

/-!
# Writing in the standard dialect

The standard dialect writes every type that is read, and writes it as its term.  So what
it makes of annotations is the written form of their normal form, which can be read off
the text: `expression_uniquely_written`.
-/

namespace TypeStub

open TypeStub.Annotation

namespace Dialect

/-! ## The templates -/

section

variable [Template.Members]

theorem fillTemplate_collection (name types : String) :
    fillTemplate standard.collectionTemplate ⟨[], [("name", name), ("types", types)]⟩ =
      .ok (name ++ "[" ++ types ++ "]") := by
  have hpieces : Template.pieces standard.collectionTemplate.toList =
      .field "name".toList none [] :: ("[".toList.map .char ++ .field "types".toList none [] ::
        "]".toList.map .char) := by
    decide +kernel
  rw [fillTemplate, Template.render_collection hpieces]
  rfl

theorem wrap_nilable (types : List String) :
    wrap standard.nilableTemplate types = .ok ("T.nilable(" ++ listTypes types ++ ")") := by
  have hpieces : Template.pieces standard.nilableTemplate.toList =
      "T.nilable(".toList.map .char ++ .field [] none [] :: ")".toList.map .char := by
    decide +kernel
  rw [wrap, fillTemplate, Template.render_place hpieces]
  rfl

theorem wrap_union (types : List String) :
    wrap standard.unionTemplate types = .ok ("T.any(" ++ listTypes types ++ ")") := by
  have hpieces : Template.pieces standard.unionTemplate.toList =
      "T.any(".toList.map .char ++ .field [] none [] :: ")".toList.map .char := by
    decide +kernel
  rw [wrap, fillTemplate, Template.render_place hpieces]
  rfl

end

/-! ## Types -/

theorem isWrittenName_spell {name : String} (h : IsName name.toList) :
    IsWrittenName (standard.spell name) := ⟨name, h, rfl⟩

section

variable [Template.Members]

/-- A collection is written as its name and the members that are not nil. -/
theorem exists_writeCollection {name : String} {terms : List Term} {texts : List String}
    (hname : IsName name.toList) (h : List.Forall₂ Term.WrittenAs terms texts) :
    ∃ text, standard.writeCollection name texts = .ok text ∧
      (Term.node (standard.spell name) (terms.filter (!·.isNil))).WrittenAs text := by
  have hkept : List.Forall₂ Term.WrittenAs (terms.filter (!·.isNil))
      (texts.filter (· ≠ standard.nilType)) := by
    refine List.rel_filter (fun term text hterm => ?_) h
    have hnil : text = standard.nilType ↔ term.isNil = true := hterm.eq_nilClass_iff
    simp [hnil]
  have hnil : ∀ text ∈ texts.filter (· ≠ standard.nilType), text ≠ "NilClass" :=
    fun text htext => of_decide_eq_true (List.mem_filter.mp htext).2
  have hwritten := isWrittenName_spell hname
  rw [writeCollection]
  generalize terms.filter (!·.isNil) = keptTerms at hkept ⊢
  generalize texts.filter (· ≠ standard.nilType) = keptTexts at hkept hnil ⊢
  cases hkept with
  | nil => exact ⟨_, rfl, .bare hwritten⟩
  | cons hterm hterms =>
    exact ⟨_, fillTemplate_collection _ _,
      .generic hwritten (List.cons_ne_nil _ _) (.cons hterm hterms) hnil⟩

theorem exists_writeNodes {nodes : List TypeNode}
    (h : ∀ node ∈ nodes, ∃ text, standard.writeNode node = .ok text ∧ node.term.WrittenAs text) :
    ∃ texts, standard.writeNodes nodes = .ok texts ∧
      List.Forall₂ Term.WrittenAs (TypeNode.termsOf nodes) texts := by
  induction nodes with
  | nil => exact ⟨[], rfl, .nil⟩
  | cons node nodes ih =>
    obtain ⟨text, htext, hwritten⟩ := h node List.mem_cons_self
    obtain ⟨texts, htexts, hrest⟩ := ih fun other hother => h other (List.mem_cons_of_mem _ hother)
    refine ⟨text :: texts, ?_, .cons hwritten hrest⟩
    rw [writeNodes, htext, htexts]
    rfl

theorem exists_writeNode {node : TypeNode} (h : node.Proper) :
    ∃ text, standard.writeNode node = .ok text ∧ node.term.WrittenAs text := by
  induction h with
  | simple hname => exact ⟨_, rfl, .bare (isWrittenName_spell hname)⟩
  | mapping hname => exact ⟨_, rfl, .bare (isWrittenName_spell hname)⟩
  | collection hname _ _ ih =>
    obtain ⟨texts, htexts, hwritten⟩ := exists_writeNodes ih
    rw [writeNode, htexts]
    exact exists_writeCollection hname hwritten
  | fixed hname _ _ ih =>
    obtain ⟨texts, htexts, hwritten⟩ := exists_writeNodes ih
    rw [writeNode, htexts]
    exact exists_writeCollection hname hwritten

end

/-! ## Annotations -/

/-- The lists of types that annotations are read into. -/
def ReadInto (annotations : List String) (lists : List (List TypeNode)) : Prop :=
  List.Forall₂ (fun text nodes => parse text = .ok nodes) annotations lists

theorem exists_readInto {annotations : List String}
    (h : ∀ text ∈ annotations, ∃ nodes, parse text = .ok nodes) :
    ∃ lists, ReadInto annotations lists := by
  induction annotations with
  | nil => exact ⟨[], .nil⟩
  | cons text annotations ih =>
    obtain ⟨⟨nodes, hnodes⟩, hrest⟩ := List.forall_mem_cons.mp h
    obtain ⟨lists, hlists⟩ := ih hrest
    exact ⟨nodes :: lists, .cons hnodes hlists⟩

theorem ReadInto.proper {annotations : List String} {lists : List (List TypeNode)}
    (h : ReadInto annotations lists) : ∀ node ∈ lists.flatten, node.Proper := by
  induction h with
  | nil => exact fun _ hmem => absurd hmem List.not_mem_nil
  | cons hparse _ ih =>
    rw [List.flatten_cons]
    exact List.forall_mem_append.mpr ⟨proper_of_parse hparse, ih⟩

/-- Annotations have no types only if there are none of them. -/
theorem ReadInto.flatten_ne_nil {annotations : List String} {lists : List (List TypeNode)}
    (h : ReadInto annotations lists) (hne : annotations ≠ []) : lists.flatten ≠ [] := by
  cases h with
  | nil => exact absurd rfl hne
  | cons hparse _ => exact List.append_ne_nil_of_left_ne_nil (nodes_ne_nil_of_parse hparse) _

theorem nilClass_mem_iff {terms : List Term} {texts : List String}
    (h : List.Forall₂ Term.WrittenAs terms texts) :
    "NilClass" ∈ texts ↔ terms.any Term.isNil = true := by
  induction h with
  | nil => simp
  | cons hterm _ ih =>
    rw [List.mem_cons, List.any_cons, Bool.or_eq_true, eq_comm, hterm.eq_nilClass_iff, ih]

theorem erase_nilClass {terms : List Term} {texts : List String}
    (h : List.Forall₂ Term.WrittenAs terms texts) :
    List.Forall₂ Term.WrittenAs (terms.eraseP Term.isNil) (texts.erase "NilClass") := by
  induction h with
  | nil => exact .nil
  | @cons term text terms texts hterm hterms ih =>
    by_cases hnil : term.isNil = true
    · obtain rfl := hterm.eq_nilClass_iff.mpr hnil
      rw [List.eraseP_cons_of_pos hnil, List.erase_cons_head]
      exact hterms
    · have hne : text ≠ "NilClass" := fun htext => hnil (hterm.eq_nilClass_iff.mp htext)
      rw [List.eraseP_cons_of_neg hnil, List.erase_cons_tail (by simpa using hne)]
      exact .cons hterm ih

section

variable [Template.Members]

theorem writeNodes_eq_mapM (dialect : Dialect) (nodes : List TypeNode) :
    dialect.writeNodes nodes = nodes.mapM dialect.writeNode := by
  induction nodes with
  | nil => rfl
  | cons node nodes ih => rw [writeNodes, List.mapM_cons, ih]

theorem writeNodes_append (dialect : Dialect) (nodes others : List TypeNode) :
    dialect.writeNodes (nodes ++ others) =
      return (← dialect.writeNodes nodes) ++ (← dialect.writeNodes others) := by
  simp only [writeNodes_eq_mapM, List.mapM_append]

/-- Annotations that are read are written as all their types, one after another. -/
theorem writeAnnotations_of_readInto (dialect : Dialect) {annotations : List String}
    {lists : List (List TypeNode)} (h : ReadInto annotations lists) :
    dialect.writeAnnotations annotations = dialect.writeNodes lists.flatten := by
  induction h with
  | nil => rfl
  | cons hparse _ ih =>
    rw [writeAnnotations, hparse, ih, List.flatten_cons, writeNodes_append]
    rfl

theorem exists_writeAnnotations {annotations : List String} {lists : List (List TypeNode)}
    (h : ReadInto annotations lists) :
    ∃ texts, standard.writeAnnotations annotations = .ok texts ∧
      List.Forall₂ Term.WrittenAs (TypeNode.termsOf lists.flatten) texts := by
  rw [writeAnnotations_of_readInto standard h]
  exact exists_writeNodes fun node hnode => exists_writeNode (h.proper node hnode)

theorem exists_combine {terms : List Term} {texts : List String}
    (h : List.Forall₂ Term.WrittenAs terms texts) :
    ∃ text, standard.combine texts = .ok text ∧ (Form.of terms).WrittenAs text := by
  have hmem := nilClass_mem_iff h
  have herase := erase_nilClass h
  cases h with
  | nil => exact ⟨_, rfl, .nothing⟩
  | @cons term text terms texts hterm hterms =>
    cases hterms with
    | nil => exact ⟨_, rfl, .single hterm⟩
    | @cons next text' terms texts hnext hterms =>
      rw [combine, if_neg (by simp), Form.of_cons_cons]
      by_cases hnil : "NilClass" ∈ text :: text' :: texts
      · have hne : (term :: next :: terms).eraseP Term.isNil ≠ [] := by
          have hlength := List.le_length_eraseP (p := Term.isNil) (l := term :: next :: terms)
          intro hempty
          rw [hempty] at hlength
          simp at hlength
        refine ⟨_, (if_pos hnil).trans (wrap_nilable _), ?_⟩
        rw [if_pos (hmem.mp hnil)]
        exact .nilable hne herase
      · refine ⟨_, (if_neg hnil).trans (wrap_union _), ?_⟩
        rw [if_neg fun hany => hnil (hmem.mpr hany)]
        refine .union (by simp) (.cons hterm (.cons hnext hterms)) fun other hother => ?_
        intro heq
        subst heq
        exact hnil hother

theorem exists_expression {annotations : List String} {lists : List (List TypeNode)}
    (h : ReadInto annotations lists) :
    ∃ text, standard.expression annotations = .ok text ∧
      (normalForm lists.flatten).WrittenAs text := by
  obtain ⟨texts, htexts, hwritten⟩ := exists_writeAnnotations h
  rw [expression, htexts]
  exact exists_combine hwritten

/-- What the standard dialect makes of annotations that can all be read is the written
form of their normal form and of no other form, and annotations with another normal
form are written otherwise. -/
theorem expression_uniquely_written {annotations : List String} {lists : List (List TypeNode)}
    (h : ReadInto annotations lists) :
    ∃ text, standard.expression annotations = .ok text ∧
      (∀ form : Form, form.WrittenAs text ↔ form = normalForm lists.flatten) ∧
      ∀ (others : List String) (lists' : List (List TypeNode)), ReadInto others lists' →
        (standard.expression others = .ok text ↔
          normalForm lists'.flatten = normalForm lists.flatten) := by
  obtain ⟨text, htext, hwritten⟩ := exists_expression h
  refine ⟨text, htext, fun form => ⟨fun hform => hform.unique hwritten, ?_⟩,
    fun others lists' h' => ?_⟩
  · intro heq
    subst heq
    exact hwritten
  · obtain ⟨text', htext', hwritten'⟩ := exists_expression h'
    rw [htext']
    constructor
    · intro heq
      obtain rfl := Except.ok.inj heq
      exact hwritten'.unique hwritten
    · intro hform
      rw [hform] at hwritten'
      rw [hwritten'.text_unique hwritten]

end

theorem expression_uniquely_written_of_nilable_array :
    ReadInto ["Array<String, nil>", "nil"]
        [[.collection "Array" [.simple "String", .simple "nil"]], [.simple "nil"]] ∧
      ∃ text, standard.expression ["Array<String, nil>", "nil"] = .ok text ∧
        ∀ form : Form, form.WrittenAs text ↔
          form = .nilable [.node "T::Array" [.node "String" []]] := by
  have h : ReadInto ["Array<String, nil>", "nil"]
      [[.collection "Array" [.simple "String", .simple "nil"]], [.simple "nil"]] :=
    .cons (by cbv) (.cons (by cbv) .nil)
  obtain ⟨text, htext, hform, -⟩ := expression_uniquely_written h
  exact ⟨h, text, htext, hform⟩

end Dialect
end TypeStub
