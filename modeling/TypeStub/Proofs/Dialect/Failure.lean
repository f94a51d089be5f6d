import TypeStub.Proofs.Annotation.Named
import TypeStub.Proofs.Dialect.Writing
import TypeStub.Proofs.Outcome

/-!
# How writing can fail

Types with names are written in any dialect unless a template of it is at fault, and the
templates of the standard dialect never are.  So an annotation that is read can also be
written in the standard dialect, and one that is not read is malformed.  No other failure
can be met from a text, whatever the text is: `fails_only_as_malformed`.
-/

namespace TypeStub

open TypeStub.Annotation

namespace Dialect

/-! ## Faults of templates -/

variable [Template.Members] {dialect : Dialect} {failure : ExpressionFailure}

theorem exists_template_of_writeCollection {name : String} {members : List String}
    (h : dialect.writeCollection name members = .error failure) :
    ∃ fault, failure = .template fault := by
  rw [writeCollection] at h
  split at h
  · cases h
  · exact exists_of_mapError_eq_error h

theorem exists_template_of_mem_writeNodes {nodes : List TypeNode}
    (h : dialect.writeNodes nodes = .error failure)
    (hnodes : ∀ node ∈ nodes, ∀ failure, dialect.writeNode node = .error failure →
      ∃ fault, failure = .template fault) :
    ∃ fault, failure = .template fault := by
  rw [writeNodes_eq_mapM] at h
  obtain ⟨node, hnode, herror⟩ := exists_mem_of_mapM_eq_error h
  exact hnodes node hnode failure herror

/-- A composite type fails where one of its members does or its own template. -/
theorem exists_template_of_composite {name : String} {nodes : List TypeNode}
    (h : (dialect.writeNodes nodes >>= dialect.writeCollection name) = .error failure)
    (hnodes : ∀ node ∈ nodes, ∀ failure, dialect.writeNode node = .error failure →
      ∃ fault, failure = .template fault) :
    ∃ fault, failure = .template fault := by
  rcases bind_eq_error_iff.mp h with hmembers | ⟨members, -, hown⟩
  · exact exists_template_of_mem_writeNodes hmembers hnodes
  · exact exists_template_of_writeCollection hown

/-- A named type fails to be written only where a template fails. -/
theorem exists_template_of_writeNode {node : TypeNode} (hnode : node.Named)
    (h : dialect.writeNode node = .error failure) : ∃ fault, failure = .template fault := by
  induction hnode generalizing failure with
  | simple => cases h
  | mapping => cases h
  | collection _ _ ih =>
    rw [writeNode] at h
    exact exists_template_of_composite h fun node hnode _ => ih node hnode
  | fixed _ _ ih =>
    rw [writeNode] at h
    exact exists_template_of_composite h fun node hnode _ => ih node hnode

theorem exists_template_of_combine {types : List String}
    (h : dialect.combine types = .error failure) : ∃ fault, failure = .template fault := by
  rw [combine] at h
  split at h
  · cases h
  split at h
  · exact exists_of_mapError_eq_error h
  · exact exists_of_mapError_eq_error h

/-- If annotations fail as unreadable, those in front of the first that is not read are
read. -/
theorem exists_unread_of_writeAnnotations {annotations : List String} {failure : ReadFailure}
    (h : dialect.writeAnnotations annotations = .error (.unreadable failure)) :
    ∃ front text back, annotations = front ++ text :: back ∧
      (∀ other ∈ front, ∃ nodes, parse other = .ok nodes) ∧ parse text = .error failure := by
  induction annotations with
  | nil => cases h
  | cons text annotations ih =>
    rw [writeAnnotations] at h
    rcases bind_eq_error_iff.mp h with hread | ⟨nodes, hnodes, h⟩
    · obtain ⟨cause, hparse, hcause⟩ := mapError_eq_error_iff.mp hread
      cases hcause
      exact ⟨[], text, annotations, rfl, by simp, hparse⟩
    have hparse := mapError_eq_ok_iff.mp hnodes
    rcases bind_eq_error_iff.mp h with hwrite | ⟨written, -, h⟩
    · obtain ⟨fault, hfault⟩ := exists_template_of_mem_writeNodes hwrite fun node hnode _ =>
        exists_template_of_writeNode (proper_of_parse hparse node hnode).named
      cases hfault
    rcases bind_eq_error_iff.mp h with hrest | ⟨rest, -, h⟩
    · obtain ⟨front, bad, back, rfl, hfront, hbad⟩ := ih hrest
      exact ⟨text :: front, bad, back, rfl,
        List.forall_mem_cons.mpr ⟨⟨nodes, hparse⟩, hfront⟩, hbad⟩
    · cases h

theorem exists_unread_of_expression {annotations : List String} {failure : ReadFailure}
    (h : dialect.expression annotations = .error (.unreadable failure)) :
    ∃ front text back, annotations = front ++ text :: back ∧
      (∀ other ∈ front, ∃ nodes, parse other = .ok nodes) ∧ parse text = .error failure := by
  rcases bind_eq_error_iff.mp h with hwrite | ⟨types, -, hcombine⟩
  · exact exists_unread_of_writeAnnotations hwrite
  · obtain ⟨fault, hfault⟩ := exists_template_of_combine hcombine
    cases hfault

end Dialect

/-! ## Annotations in the standard dialect -/

theorem Form.of_ne_nothing {terms : List Term} (h : terms ≠ []) : Form.of terms ≠ .nothing := by
  rcases terms with - | ⟨term, - | ⟨next, terms⟩⟩
  · exact absurd rfl h
  · exact nofun
  · rw [Form.of_cons_cons]
    split <;> exact nofun

theorem Form.WrittenAs.ne_empty {form : Form} {text : String} (h : form.WrittenAs text)
    (hne : form ≠ .nothing) : text ≠ "" := by
  cases h with
  | nothing => exact absurd rfl hne
  | single hterm => exact hterm.ne_empty
  | union => simp
  | nilable => simp

namespace Dialect

theorem ReadInto.normalForm_ne_nothing {annotations : List String}
    {lists : List (List TypeNode)} (h : ReadInto annotations lists) (hne : annotations ≠ []) :
    normalForm lists.flatten ≠ .nothing := by
  obtain ⟨node, nodes, hnodes⟩ := List.exists_cons_of_ne_nil (h.flatten_ne_nil hne)
  rw [hnodes]
  exact Form.of_ne_nothing (List.cons_ne_nil _ _)

theorem forall_read_or_exists_error (annotations : List String) :
    (∀ text ∈ annotations, ∃ nodes, parse text = .ok nodes) ∨
      ∃ text ∈ annotations, ∃ failure, parse text = .error failure := by
  by_cases hbad : ∃ text ∈ annotations, ∃ failure, parse text = .error failure
  · exact .inr hbad
  · refine .inl fun text htext => ?_
    cases hparse : parse text with
    | ok nodes => exact ⟨nodes, rfl⟩
    | error failure => exact absurd ⟨text, htext, failure, hparse⟩ hbad

variable [Template.Members]

/-- Annotations that are all read have a type, which is empty only if there are none. -/
theorem exists_expression_ne_empty {annotations : List String}
    (h : ∀ text ∈ annotations, ∃ nodes, parse text = .ok nodes) :
    ∃ type, standard.expression annotations = .ok type ∧ (annotations ≠ [] → type ≠ "") := by
  obtain ⟨lists, hlists⟩ := exists_readInto h
  obtain ⟨type, htype, hwritten⟩ := exists_expression hlists
  exact ⟨type, htype, fun hne => hwritten.ne_empty (hlists.normalForm_ne_nothing hne)⟩

/-- Of annotations one of which is not read, the first such is malformed, and those in
front of it can be written. -/
theorem exists_malformed_of_mem {annotations : List String}
    (h : ∃ text ∈ annotations, ∃ failure, parse text = .error failure) :
    ∃ error, standard.expression annotations = .error (.unreadable (.malformed error)) := by
  have hwrite : ∃ error,
      standard.writeAnnotations annotations = .error (.unreadable (.malformed error)) := by
    induction annotations with
    | nil =>
      obtain ⟨text, htext, -⟩ := h
      exact absurd htext List.not_mem_nil
    | cons text annotations ih =>
      cases hparse : parse text with
      | error failure =>
        obtain ⟨error, rfl⟩ := Reader.exists_malformed hparse
        refine ⟨error, ?_⟩
        rw [writeAnnotations, hparse]
        rfl
      | ok nodes =>
        obtain ⟨bad, hbad, failure, hfailure⟩ := h
        rcases List.mem_cons.mp hbad with rfl | hbad
        · rw [hparse] at hfailure
          cases hfailure
        obtain ⟨error, herror⟩ := ih ⟨bad, hbad, failure, hfailure⟩
        obtain ⟨texts, htexts, -⟩ :=
          exists_writeNodes fun node hnode => exists_writeNode (proper_of_parse hparse node hnode)
        refine ⟨error, ?_⟩
        rw [writeAnnotations, hparse]
        simp only [Except.mapError, bind, Except.bind, htexts, herror]
  obtain ⟨error, herror⟩ := hwrite
  refine ⟨error, ?_⟩
  rw [expression, herror]
  rfl

/-- Whatever a text is, it is read or malformed, and whatever annotations are, the standard
dialect writes them or one of them is malformed. -/
theorem fails_only_as_malformed :
    (∀ text, ReadsSafely text) ∧
      ∀ annotations, (∃ type, standard.expression annotations = .ok type) ∨
        ∃ error, standard.expression annotations = .error (.unreadable (.malformed error)) := by
  refine ⟨readsSafely, fun annotations => ?_⟩
  rcases forall_read_or_exists_error annotations with hread | hbad
  · obtain ⟨type, htype, -⟩ := exists_expression_ne_empty hread
    exact .inl ⟨type, htype⟩
  · exact .inr (exists_malformed_of_mem hbad)

end Dialect
end TypeStub
