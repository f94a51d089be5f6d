import TypeStub.Proofs.Dialect.Failure

/-!
# Collection templates at fault

A collection template that cannot be filled does not make a dialect useless.  The template is
filled for collections with a member left, and a collection without one is written by its
name.  Which members are left depends in turn on the collections among them, and so on inwards.

None of this recursion is left in the answer.  A member that is written at all is written by
its name, since the template never helps, so a collection fails just if the name of one of
its members is not that of nil (`Dialect.KeepsMember`).  A tree fails just if it has such a
collection somewhere that no mapping hides (`Dialect.NeedsTemplate`), and always with a fault
of the template: `writeNode_of_template_fault`.
-/

namespace TypeStub

namespace Annotation
namespace TypeNode

def name? : TypeNode → Option String
  | .simple name => some name
  | .collection name _ => some name
  | .fixed name _ => some name
  | .mapping name _ _ => some name
  | .foreign _ => none

/-- The members of a collection.  What a mapping maps is no member of anything. -/
def members : TypeNode → List TypeNode
  | .collection _ types => types
  | .fixed _ types => types
  | _ => []

/-- The second tree is the first one, a member of it, a member of a member and so on. -/
inductive HasPart : TypeNode → TypeNode → Prop
  | self {node : TypeNode} : HasPart node node
  | member {node member part : TypeNode} :
    member ∈ node.members → HasPart member part → HasPart node part

theorem Named.exists_name? {node : TypeNode} (h : node.Named) : ∃ name, node.name? = some name := by
  cases h <;> exact ⟨_, rfl⟩

theorem Named.members {node : TypeNode} (h : node.Named) :
    ∀ member ∈ node.members, member.Named := by
  cases h with
  | collection _ htypes => exact htypes
  | fixed _ htypes => exact htypes
  | _ => exact fun _ hmem => absurd hmem List.not_mem_nil

/-- Induction over members alone. -/
@[elab_as_elim]
theorem Named.induction_members {motive : TypeNode → Prop}
    (step : ∀ node, node.Named → (∀ member ∈ node.members, motive member) → motive node)
    {node : TypeNode} (h : node.Named) : motive node := by
  induction h with
  | simple hname => exact step _ (.simple hname) fun _ hmem => absurd hmem List.not_mem_nil
  | collection hname htypes ih => exact step _ (.collection hname htypes) ih
  | fixed hname htypes ih => exact step _ (.fixed hname htypes) ih
  | mapping hname hkeys hvalues =>
    exact step _ (.mapping hname hkeys hvalues) fun _ hmem => absurd hmem List.not_mem_nil

end TypeNode
end Annotation

open TypeStub.Annotation

namespace Dialect

variable {dialect : Dialect} {node : TypeNode} {name : String}

/-- A collection with a member whose name is not written as nil. -/
def KeepsMember (dialect : Dialect) (node : TypeNode) : Prop :=
  ∃ member ∈ node.members, ∃ name, member.name? = some name ∧ dialect.spell name ≠ dialect.nilType

/-- Somewhere in the tree, but not inside a mapping, is a collection with a member whose name
is not written as nil. -/
def NeedsTemplate (dialect : Dialect) (node : TypeNode) : Prop :=
  ∃ part, node.HasPart part ∧ dialect.KeepsMember part

theorem needsTemplate_iff :
    dialect.NeedsTemplate node ↔
      (∃ member ∈ node.members, dialect.NeedsTemplate member) ∨ dialect.KeepsMember node := by
  constructor
  · rintro ⟨part, hpart, hkeeps⟩
    cases hpart with
    | self => exact .inr hkeeps
    | member hmember hinner => exact .inl ⟨_, hmember, part, hinner, hkeeps⟩
  · rintro (⟨member, hmember, part, hinner, hkeeps⟩ | hkeeps)
    · exact ⟨part, .member hmember hinner, hkeeps⟩
    · exact ⟨node, .self, hkeeps⟩

/-- The written form of a type that is written by its name. -/
def writtenName (dialect : Dialect) (node : TypeNode) : String :=
  dialect.spell (node.name?.getD "")

theorem keepsMember_iff (hnamed : ∀ member ∈ node.members, member.Named) :
    dialect.KeepsMember node ↔
      ∃ text ∈ node.members.map dialect.writtenName, text ≠ dialect.nilType := by
  constructor
  · rintro ⟨member, hmember, name, hname, hne⟩
    refine ⟨_, List.mem_map_of_mem hmember, ?_⟩
    rwa [writtenName, hname]
  · rintro ⟨text, htext, hne⟩
    obtain ⟨member, hmember, rfl⟩ := List.mem_map.mp htext
    obtain ⟨name, hname⟩ := (hnamed member hmember).exists_name?
    rw [writtenName, hname] at hne
    exact ⟨member, hmember, name, hname, hne⟩

section

variable [Template.Members]

/-- Every type is written by its name and its members, of which a name alone has none. -/
theorem writeNode_of_name? (dialect : Dialect) (h : node.name? = some name) :
    dialect.writeNode node =
      dialect.writeNodes node.members >>= dialect.writeCollection name := by
  cases node with
  | foreign text => cases h
  | _ =>
    obtain rfl := Option.some.inj h
    rfl

/-- The failure is the fault of the collection template for some name and types. -/
def OwnFailure (dialect : Dialect) (failure : ExpressionFailure) : Prop :=
  ∃ name types fault, failure = .template fault ∧
    Template.render dialect.collectionTemplate ⟨[], [("name", name), ("types", types)]⟩ =
      .error fault

/-- The template cannot be filled, whatever the name and the types are. -/
def NeverFills (dialect : Dialect) : Prop :=
  ∀ name types, ∃ fault,
    Template.render dialect.collectionTemplate ⟨[], [("name", name), ("types", types)]⟩ =
      .error fault

theorem NeverFills.writeCollection (h : dialect.NeverFills) {texts : List String}
    (hkept : ∃ text ∈ texts, text ≠ dialect.nilType) :
    ∃ failure, dialect.OwnFailure failure ∧
      dialect.writeCollection name texts = .error failure := by
  rw [Dialect.writeCollection]
  cases hfilter : texts.filter (· ≠ dialect.nilType) with
  | nil =>
    obtain ⟨text, htext, hne⟩ := hkept
    exact absurd (decide_eq_true hne) (List.filter_eq_nil_iff.mp hfilter text htext)
  | cons text texts =>
    obtain ⟨fault, hfault⟩ := h (dialect.spell name) (listTypes (text :: texts))
    refine ⟨.template fault, ⟨_, _, fault, rfl, hfault⟩, ?_⟩
    simp only [fillTemplate, hfault]
    rfl

theorem writeCollection_of_nils {texts : List String}
    (h : ∀ text ∈ texts, text = dialect.nilType) :
    dialect.writeCollection name texts = .ok (dialect.spell name) := by
  have hfilter : texts.filter (· ≠ dialect.nilType) = [] :=
    List.filter_eq_nil_iff.mpr fun text htext => by simpa using h text htext
  rw [writeCollection, hfilter]

/-- A tree fails or is written by its name.  The two have to be decided together, since a
member that is written by the name of nil makes no collection fail. -/
theorem NeverFills.writeNode (h : dialect.NeverFills) (hnode : node.Named) :
    (dialect.NeedsTemplate node ∧
        ∃ failure, dialect.OwnFailure failure ∧ dialect.writeNode node = .error failure) ∨
      (¬dialect.NeedsTemplate node ∧ dialect.writeNode node = .ok (dialect.writtenName node)) := by
  refine TypeNode.Named.induction_members (fun node hnamed ih => ?_) hnode
  obtain ⟨name, hname⟩ := hnamed.exists_name?
  rw [writeNode_of_name? dialect hname, needsTemplate_iff, writeNodes_eq_mapM]
  by_cases hinside : ∃ member ∈ node.members, dialect.NeedsTemplate member
  · obtain ⟨member, hmember, hneeds⟩ := hinside
    obtain ⟨-, failure, -, hfailure⟩ := (ih member hmember).resolve_right fun hwritten =>
      hwritten.1 hneeds
    obtain ⟨other, hother, cause, hcause, hall⟩ := exists_mapM_eq_error hmember hfailure
    -- The members fail as the first of them that does, which need not be the one at hand.
    rcases ih other hother with ⟨-, failure', hown, hfailure'⟩ | ⟨-, hok⟩
    · obtain rfl := Except.error.inj (hcause.symm.trans hfailure')
      rw [hall]
      exact .inl ⟨.inl ⟨member, hmember, hneeds⟩, cause, hown, rfl⟩
    · cases hcause.symm.trans hok
  · have hwritten : ∀ member ∈ node.members,
        dialect.writeNode member = .ok (dialect.writtenName member) := fun member hmember =>
      ((ih member hmember).resolve_left fun hfails => hinside ⟨member, hmember, hfails.1⟩).2
    rw [mapM_eq_ok_map hwritten]
    by_cases hkeeps : dialect.KeepsMember node
    · exact .inl ⟨.inr hkeeps, h.writeCollection ((keepsMember_iff hnamed.members).mp hkeeps)⟩
    · have hnils : ∀ text ∈ node.members.map dialect.writtenName, text = dialect.nilType := by
        intro text htext
        by_contra hne
        exact hkeeps ((keepsMember_iff hnamed.members).mpr ⟨text, htext, hne⟩)
      refine .inr ⟨not_or.mpr ⟨hinside, hkeeps⟩, ?_⟩
      rw [writtenName, hname]
      exact writeCollection_of_nils hnils

/-- If the collection template can never be filled, a tree of types fails just if it has,
outside of mappings, a collection with a member whose name is not written as nil.  Any other
tree is written by its name.  The failure is a fault of the template, and the one fault that
it has if it always has the same. -/
theorem writeNode_of_template_fault
    (htemplate : ∀ name types, ∃ fault,
      Template.render dialect.collectionTemplate ⟨[], [("name", name), ("types", types)]⟩ =
        .error fault)
    (hnode : node.Named) :
    ((∃ failure, dialect.writeNode node = .error failure) ↔ dialect.NeedsTemplate node) ∧
      (∀ failure, dialect.writeNode node = .error failure → dialect.OwnFailure failure) ∧
      (∀ fault, (∀ name types, Template.render dialect.collectionTemplate
          ⟨[], [("name", name), ("types", types)]⟩ = .error fault) →
        ∀ failure, dialect.writeNode node = .error failure → failure = .template fault) ∧
      (¬dialect.NeedsTemplate node →
        ∃ own, node.name? = some own ∧ dialect.writeNode node = .ok (dialect.spell own)) := by
  have hnever : dialect.NeverFills := htemplate
  obtain ⟨own, hown⟩ := hnode.exists_name?
  rcases hnever.writeNode hnode with ⟨hneeds, failure, hfailure, herror⟩ | ⟨hneeds, hok⟩
  · have hsame : ∀ other, dialect.writeNode node = .error other → dialect.OwnFailure other := by
      intro other hother
      rwa [Except.error.inj (hother.symm.trans herror)]
    refine ⟨iff_of_true ⟨_, herror⟩ hneeds, hsame, ?_, fun h => absurd hneeds h⟩
    intro fault hfault other hother
    obtain ⟨name, types, cause, rfl, hcause⟩ := hsame other hother
    rw [Except.error.inj (hcause.symm.trans (hfault name types))]
  · rw [writtenName, hown] at hok
    have hwritten : ∀ other, dialect.writeNode node ≠ .error other := by
      intro other hother
      cases hother.symm.trans hok
    exact ⟨iff_of_false (fun ⟨other, h⟩ => hwritten other h) hneeds,
      fun other h => absurd h (hwritten other), fun _ _ other h => absurd h (hwritten other),
      fun _ => ⟨own, hown, hok⟩⟩

end

/-- A dialect with a collection template that asks for an argument that there is not. -/
def asksForMembers : Dialect :=
  {standard with collectionTemplate := "\x7bname\x7d[\x7bmembers\x7d]"}

theorem render_asksForMembers [Template.Members] (name types : String) :
    Template.render asksForMembers.collectionTemplate ⟨[], [("name", name), ("types", types)]⟩ =
      .error (.unknownKey "members") := by
  have hpieces : Template.pieces asksForMembers.collectionTemplate.toList =
      .field "name".toList none [] :: .char '[' :: .field "members".toList none [] ::
        "]".toList.map .char := by
    decide +kernel
  have hname : Template.fillField (Template.expandFormat ⟨[], [("name", name), ("types", types)]⟩)
      ⟨[], [("name", name), ("types", types)]⟩ .undecided "name".toList none [] =
      .ok (name.toList, .undecided) := Template.fillField_plain rfl rfl rfl
  rw [Template.render, hpieces, Template.fill, hname]
  rfl

/-- Members that come to nil, one as a collection and one as a mapping, leave nothing to fill
the template for.  What the mapping maps would need it. -/
theorem writeNode_of_template_fault_of_nils :
    ofLayers [⟨none, none, none, none, some "\x7bname\x7d[\x7bmembers\x7d]"⟩] =
        .ok asksForMembers ∧
      (∀ name types, ∃ fault, Template.render asksForMembers.collectionTemplate
        ⟨[], [("name", name), ("types", types)]⟩ = .error fault) ∧
      TypeNode.Named (.fixed "Array" [.collection "nil" [.simple "nil"],
        .mapping "nil" [.collection "Array" [.simple "String"]] []]) ∧
      asksForMembers.writeNode (.fixed "Array" [.collection "nil" [.simple "nil"],
        .mapping "nil" [.collection "Array" [.simple "String"]] []]) = .ok "T::Array" ∧
      ¬asksForMembers.NeedsTemplate (.fixed "Array" [.collection "nil" [.simple "nil"],
        .mapping "nil" [.collection "Array" [.simple "String"]] []]) := by
  have htemplate : ∀ name types, ∃ fault, Template.render asksForMembers.collectionTemplate
      ⟨[], [("name", name), ("types", types)]⟩ = .error fault :=
    fun name types => ⟨_, render_asksForMembers name types⟩
  have hnil : TypeNode.Named (.collection "nil" [.simple "nil"]) :=
    .collection (by decide) (List.forall_mem_singleton.mpr (.simple (by decide)))
  have hkey : TypeNode.Named (.collection "Array" [.simple "String"]) :=
    .collection (by decide) (List.forall_mem_singleton.mpr (.simple (by decide)))
  have hmapping : TypeNode.Named (.mapping "nil" [.collection "Array" [.simple "String"]] []) :=
    .mapping (by decide) (List.forall_mem_singleton.mpr hkey)
      fun _ hmem => absurd hmem List.not_mem_nil
  have hnode : TypeNode.Named (.fixed "Array" [.collection "nil" [.simple "nil"],
      .mapping "nil" [.collection "Array" [.simple "String"]] []]) :=
    .fixed (by decide) (List.forall_mem_cons.mpr ⟨hnil, List.forall_mem_singleton.mpr hmapping⟩)
  have hwritten : asksForMembers.writeNode (.fixed "Array" [.collection "nil" [.simple "nil"],
      .mapping "nil" [.collection "Array" [.simple "String"]] []]) = .ok "T::Array" := by
    decide +kernel
  refine ⟨rfl, htemplate, hnode, hwritten, fun hneeds => ?_⟩
  obtain ⟨failure, hfailure⟩ := (writeNode_of_template_fault htemplate hnode).1.mpr hneeds
  cases hfailure.symm.trans hwritten

end Dialect
end TypeStub
