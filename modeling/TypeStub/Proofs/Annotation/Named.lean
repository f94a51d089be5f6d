import TypeStub.Proofs.Annotation.FirstFault
import TypeStub.Proofs.Annotation.Proper

/-!
# Types with names

A tree is named if no name in it is empty and no text stands in the place of a type.  A
reader never holds any other tree.  Every name that it puts into a tree is the lexeme of
a name, which is not empty, or is implied by a bracket, and a step keeps this of
everything the reader holds: the finished types of all levels and the entry.

The reading of a text takes its tokens one at a time.  So the number of tokens bounds its
steps, and the tokens already read bound the number of brackets that are open
(`readsSafely`).
-/

namespace TypeStub
namespace Annotation

namespace TypeNode

/-- A tree of types, each of which has a name. -/
inductive Named : TypeNode → Prop
  | simple {name : String} : name ≠ "" → Named (.simple name)
  | collection {name : String} {types : List TypeNode} :
    name ≠ "" → (∀ node ∈ types, Named node) → Named (.collection name types)
  | fixed {name : String} {types : List TypeNode} :
    name ≠ "" → (∀ node ∈ types, Named node) → Named (.fixed name types)
  | mapping {name : String} {keys values : List TypeNode} :
    name ≠ "" → (∀ node ∈ keys, Named node) → (∀ node ∈ values, Named node) →
      Named (.mapping name keys values)

theorem nameless_eq_none {name : String} (h : name ≠ "") (shape : Shape) :
    nameless name shape = none := if_neg h

theorem firstNamelessOf?_eq_none {nodes : List TypeNode}
    (h : ∀ node ∈ nodes, node.firstNameless? = none) : firstNamelessOf? nodes = none := by
  induction nodes with
  | nil => rfl
  | cons node nodes ih =>
    obtain ⟨hnode, hnodes⟩ := List.forall_mem_cons.mp h
    rw [firstNamelessOf?, hnode, ih hnodes, Option.or_none]

theorem Named.firstNameless?_eq_none {node : TypeNode} (h : node.Named) :
    node.firstNameless? = none := by
  induction h with
  | simple hname => rw [firstNameless?, nameless_eq_none hname]
  | collection hname _ ih =>
    rw [firstNameless?, firstNamelessOf?_eq_none ih, nameless_eq_none hname, Option.or_none]
  | fixed hname _ ih =>
    rw [firstNameless?, firstNamelessOf?_eq_none ih, nameless_eq_none hname, Option.or_none]
  | mapping hname _ _ hkeys hvalues =>
    rw [firstNameless?, firstNamelessOf?_eq_none hkeys, firstNamelessOf?_eq_none hvalues,
      nameless_eq_none hname, Option.or_none, Option.or_none]

theorem Named.validate_eq_ok {node : TypeNode} (h : node.Named) : node.validate = .ok node := by
  rw [validate, h.firstNameless?_eq_none]

theorem Proper.named {node : TypeNode} (h : node.Proper) : node.Named := by
  have hne : ∀ {name : String}, IsName name.toList → name ≠ "" := by
    intro name hname hempty
    exact hname.ne_nil (String.toList_eq_nil_iff.mpr hempty)
  induction h with
  | simple hname => exact .simple (hne hname)
  | collection hname _ _ ih => exact .collection (hne hname) ih
  | fixed hname _ _ ih => exact .fixed (hne hname) ih
  | mapping hname _ _ _ _ hkeys hvalues => exact .mapping (hne hname) hkeys hvalues

end TypeNode

/-! ## What a reader holds -/

/-- The types of a mapping that are read before its values. -/
def Opening.types : Opening → List TypeNode
  | .values read => read
  | _ => []

def Level.nodes (level : Level) : List TypeNode := level.done ++ level.opening.types

theorem Entry.name_ne_empty {entry : Entry} (h : ∀ node ∈ entry.node?, node.Named) {name : String}
    (hname : entry.name? = some name) : name ≠ "" := by
  cases entry with
  | empty => cases hname
  | named written =>
    obtain rfl := Option.some.inj hname
    cases h _ rfl with
    | simple hne => exact hne
  | grouped written group =>
    obtain rfl := Option.some.inj hname
    have hnode := h _ rfl
    cases group <;> cases hnode <;> assumption

theorem Bracket.defaultName_ne_empty (bracket : Bracket) : bracket.defaultName ≠ "" := by
  cases bracket <;> decide

namespace Reader

/-- All types that the reader holds, at every level. -/
def nodes (reader : Reader) : List TypeNode :=
  reader.outer.flatMap Level.nodes ++ reader.done ++ reader.entry.node?.toList

/-- The reader holds named trees only, and names for the brackets that are open. -/
structure Named (reader : Reader) : Prop where
  levels : ∀ level ∈ reader.outer, level.name ≠ "" ∧ ∀ node ∈ level.nodes, node.Named
  done : ∀ node ∈ reader.done, node.Named
  entry : ∀ node ∈ reader.entry.node?, node.Named

variable {goal : TokenKind} {token : Token} {reader next : Reader}

theorem Named.of_mem_nodes (h : reader.Named) : ∀ node ∈ reader.nodes, node.Named := by
  intro node hnode
  rw [nodes, List.mem_append, List.mem_append, Option.mem_toList, List.mem_flatMap] at hnode
  rcases hnode with (⟨level, hlevel, hnode⟩ | hdone) | hentry
  · exact (h.levels level hlevel).2 node hnode
  · exact h.done node hdone
  · exact h.entry node hentry

theorem named_start : start.Named :=
  ⟨fun _ hmem => absurd hmem List.not_mem_nil, fun _ hmem => absurd hmem List.not_mem_nil, nofun⟩

theorem Named.done_append (h : reader.Named) {node : TypeNode}
    (hnode : reader.entry.node? = some node) : ∀ other ∈ reader.done ++ [node], other.Named := by
  intro other hother
  rcases List.mem_append.mp hother with hother | hother
  · exact h.done other hother
  · obtain rfl := List.mem_singleton.mp hother
    exact h.entry other hnode

/-- A closed list is named if its members are, since a name waits for it. -/
theorem Named.close (h : reader.Named) {types : List TypeNode}
    (htypes : ∀ node ∈ types, node.Named) (hclose : reader.close types = .reading next) :
    next.Named := by
  obtain ⟨outer, done, entry⟩ := reader
  rcases outer with - | ⟨⟨begun, name, opening⟩, outer⟩
  · cases hclose
  obtain ⟨⟨hname, hnodes⟩, houter⟩ := List.forall_mem_cons.mp h.levels
  have hbegun : ∀ node ∈ begun, node.Named :=
    fun node hnode => hnodes node (List.mem_append_left _ hnode)
  have hgroup : ∀ {node : TypeNode}, node.Named → ∀ other ∈ some node, other.Named := by
    intro node hnode other hother
    obtain rfl := Option.some.inj hother
    exact hnode
  cases opening with
  | angle =>
    obtain rfl := Outcome.reading.inj hclose
    exact ⟨houter, hbegun, hgroup (.collection hname htypes)⟩
  | paren =>
    obtain rfl := Outcome.reading.inj hclose
    exact ⟨houter, hbegun, hgroup (.fixed hname htypes)⟩
  | keys =>
    obtain rfl := Outcome.reading.inj hclose
    refine ⟨List.forall_mem_cons.mpr ⟨⟨hname, ?_⟩, houter⟩,
      fun _ hmem => absurd hmem List.not_mem_nil, nofun⟩
    exact List.forall_mem_append.mpr ⟨hbegun, htypes⟩
  | values keys =>
    obtain rfl := Outcome.reading.inj hclose
    have hkeys : ∀ node ∈ keys, node.Named :=
      fun node hnode => hnodes node (List.mem_append_right _ hnode)
    exact ⟨houter, hbegun, hgroup (.mapping hname hkeys htypes)⟩

theorem Named.step (h : reader.Named) (htoken : token.kind = .name → token.lexeme ≠ "")
    (hstep : reader.step goal token = .reading next) : next.Named := by
  cases stepOf_of_eq hstep with
  | name hkind =>
    refine ⟨h.levels, h.done, fun node hnode => ?_⟩
    obtain rfl := Option.some.inj hnode
    exact .simple (htoken hkind)
  | separator _ hnode => exact ⟨h.levels, h.done_append hnode, nofun⟩
  | @opening bracket =>
    refine ⟨List.forall_mem_cons.mpr ⟨⟨?_, ?_⟩, h.levels⟩,
      fun _ hmem => absurd hmem List.not_mem_nil, nofun⟩
    · cases hname : reader.entry.name? with
      | none => exact bracket.defaultName_ne_empty
      | some name => exact Entry.name_ne_empty h.entry hname
    · cases bracket <;> simpa [Level.nodes, Opening.types, Opening.ofBracket] using h.done
  | close _ _ hnode hclose => exact h.close (h.done_append hnode) hclose
  | blank => exact h

theorem Named.advance {w : List Token} (h : reader.Named)
    (hw : ∀ token ∈ w, token.kind = .name → token.lexeme ≠ "")
    (hadvance : reader.advance goal w = some next) : next.Named := by
  induction w generalizing reader with
  | nil =>
    obtain rfl := Option.some.inj hadvance
    exact h
  | cons token tokens ih =>
    obtain ⟨middle, hstep, hrest⟩ := exists_step_of_advance hadvance
    obtain ⟨htoken, htokens⟩ := List.forall_mem_cons.mp hw
    exact ih (h.step htoken hstep) htokens hrest

theorem length_outer_close {types : List TypeNode} (h : reader.close types = .reading next) :
    next.outer.length ≤ reader.outer.length := by
  obtain ⟨outer, done, entry⟩ := reader
  rcases outer with - | ⟨⟨begun, name, opening⟩, outer⟩
  · cases h
  cases opening
  all_goals
    obtain rfl := Outcome.reading.inj h
    simp

/-- A token opens at most one bracket. -/
theorem length_outer_step (h : reader.step goal token = .reading next) :
    next.outer.length ≤ reader.outer.length + 1 := by
  cases stepOf_of_eq h with
  | name => exact Nat.le_succ _
  | separator => exact Nat.le_succ _
  | opening => exact Nat.le_refl _
  | close _ _ _ hclose => exact (length_outer_close hclose).trans (Nat.le_succ _)
  | blank => exact Nat.le_succ _

theorem length_outer_advance {w : List Token} (h : reader.advance goal w = some next) :
    next.outer.length ≤ reader.outer.length + w.length := by
  induction w generalizing reader with
  | nil =>
    obtain rfl := Option.some.inj h
    exact Nat.le_refl _
  | cons token tokens ih =>
    obtain ⟨middle, hstep, hrest⟩ := exists_step_of_advance h
    have hone := length_outer_step hstep
    have hmore := ih hrest
    rw [List.length_cons]
    omega

/-- Some terminator is always due, since brackets are closed by terminators. -/
theorem exists_due (terminator : Terminator) (reader : Reader) :
    ∃ expected, reader.due (.closing terminator) = .closing expected := by
  rw [due]
  cases reader.outer with
  | nil => exact ⟨terminator, rfl⟩
  | cons level outer => exact ⟨level.opening.closer, rfl⟩

end Reader

/-! ## Readings of a text -/

theorem length_tokens_scan (position : Nat) (cs : List Char) :
    (TokenStream.scan TokenKind.all position cs).tokens.length ≤ cs.length + 1 := by
  induction cs using scan_induction generalizing position with
  | nil =>
    rw [TokenStream.scan_nil]
    exact Nat.le_refl _
  | blank c cs hc ih =>
    rw [TokenStream.scan_blank hc]
    exact (ih (position + 1)).trans (Nat.le_succ _)
  | lexeme kind c cs rest hlexeme _ hblank hfinish ih =>
    have hrest := ih (position + (c :: cs).length)
    have hpos : 0 < (c :: cs).length := List.length_pos_of_mem List.mem_cons_self
    rw [TokenStream.scan_lexeme hlexeme hblank hfinish, TokenStream.tokens_cons, List.length_cons,
      List.length_append]
    omega
  | invalid c cs hnone =>
    rw [TokenStream.scan_invalid hnone]
    exact Nat.zero_le _

theorem lexeme_ne_empty_of_name {text : String} :
    ∀ token ∈ (tokenize text).tokens, token.kind = .name → token.lexeme ≠ "" := by
  intro token htoken hkind hempty
  have hname := properNames_scan 0 text.toList token htoken hkind
  exact hname.ne_nil (String.toList_eq_nil_iff.mpr hempty)

/-- A text is read into named trees or found malformed.  On the way, which has no more steps
than the text has characters and an end, the reader waits for a terminator at every step and
holds nothing but named trees, under no more open brackets than it has read tokens. -/
structure ReadsSafely (text : String) : Prop where
  outcome : (∃ nodes, parse text = .ok nodes ∧ ∀ node ∈ nodes, node.validate = .ok node) ∨
    ∃ error, parse text = .error (.malformed error)
  length : (tokenize text).tokens.length ≤ text.length + 1
  kinds : ∀ token ∈ (tokenize text).tokens, token.kind ≠ .blank
  held : ∀ w reader, w <+: (tokenize text).tokens →
    Reader.start.advance (.closing .finish) w = some reader →
      reader.outer.length ≤ w.length ∧
        (∃ terminator, reader.due (.closing .finish) = .closing terminator) ∧
        ∀ node ∈ reader.nodes, node.validate = .ok node

theorem readsSafely (text : String) : ReadsSafely text where
  outcome := by
    cases hparse : parse text with
    | ok nodes =>
      refine .inl ⟨nodes, rfl, fun node hnode => ?_⟩
      exact (proper_of_parse hparse node hnode).named.validate_eq_ok
    | error failure =>
      obtain ⟨error, rfl⟩ := Reader.exists_malformed hparse
      exact .inr ⟨error, rfl⟩
  length := by
    rw [← String.length_toList]
    exact length_tokens_scan 0 text.toList
  kinds := kind_ne_blank text.toList 0
  held := by
    intro w reader hw hadvance
    have hdepth := Reader.length_outer_advance hadvance
    have hnamed := Reader.named_start.advance
      (fun token htoken => lexeme_ne_empty_of_name token (hw.subset htoken)) hadvance
    refine ⟨by simpa [Reader.start] using hdepth, Reader.exists_due .finish reader, ?_⟩
    exact fun node hnode => (hnamed.of_mem_nodes node hnode).validate_eq_ok

end Annotation
end TypeStub
