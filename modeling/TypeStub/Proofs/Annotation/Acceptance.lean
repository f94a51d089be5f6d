import TypeStub.Proofs.Annotation.Reading
import TypeStub.Proofs.Annotation.Segment

/-!
# What the reader accepts

`ReaderOf w reader` says that the reader is what the tokens `w` make it: each open
bracket has in front of it the types and the entry its level remembers, and the
current list has behind it what its entry holds.  Every token that reads on keeps
this, so when the reader finishes, the tokens derive the nodes it gives
(`types_of_run`).  The runs over derived tokens give the converse.

The main statement is `parse_eq_ok_iff`: reading a text gives just the nodes that the
grammar gives to its tokens.
-/

namespace TypeStub
namespace Annotation

/-! ## Growing a derivation at its end

The grammar grows lists at the front, the reader at the end. -/

theorem SingleGroup.length_pos {w : List Token} {bracket : Bracket} {group : Group}
    (h : SingleGroup w bracket group) : 0 < w.length := by
  cases h <;> simp

theorem Groups.concat {w ws : List Token} {bracket next : Bracket} {group last : Group}
    (h : Groups w bracket group) (hlast : SingleGroup ws next last) :
    Groups (w ++ ws) bracket last := by
  induction hlength : w.length using Nat.strong_induction_on generalizing w bracket group with
  | _ length ih =>
    cases h with
    | single hgroup => exact .cons hgroup (.single hlast)
    | @cons v vs _ _ _ _ hgroup hgroups =>
      have hpos := hgroup.length_pos
      rw [List.length_append] at hlength
      rw [List.append_assoc]
      exact .cons hgroup (ih vs.length (by omega) hgroups rfl)

/-- Lists of types with a separator between them are one list. -/
theorem Types.append {w ws : List Token} {separator : Token} {nodes others : List TypeNode}
    (h : Types w nodes) (hseparator : separator.kind = .separator) (hothers : Types ws others) :
    Types (w ++ separator :: ws) (nodes ++ others) := by
  cases h with
  | single hfirst => exact .cons hfirst hseparator hothers
  | cons hfirst hcomma htypes =>
    rw [List.append_assoc, List.cons_append]
    exact .cons hfirst hcomma (htypes.append hseparator hothers)
termination_by w.length

/-! ## What the reader has read -/

/-- The entry is what the tokens since its beginning make it.  A group takes over the
name the entry has. -/
inductive EntryOf : List Token → Entry → Prop
  | empty : EntryOf [] .empty
  | named {name : Token} : name.kind = .name → EntryOf [name] (.named name.lexeme)
  | grouped {w ws : List Token} {entry : Entry} {bracket : Bracket} {group : Group} :
    EntryOf w entry → SingleGroup ws bracket group →
      EntryOf (w ++ ws) (.grouped (entry.name?.getD bracket.defaultName) group)

inductive ListOf : List Token → List TypeNode → Entry → Prop
  | first {w : List Token} {entry : Entry} : EntryOf w entry → ListOf w [] entry
  | next {ws w : List Token} {separator : Token} {done : List TypeNode} {entry : Entry} :
    Types ws done → separator.kind = .separator → EntryOf w entry →
      ListOf (ws ++ separator :: w) done entry

/-- The level is what the tokens up to its bracket make it, or for the values of a
mapping the tokens up to the arrow. -/
inductive LevelOf : List Token → Level → Prop
  | opened {w : List Token} {done : List TypeNode} {entry : Entry} {bracket : Bracket}
    {first : Token} :
    ListOf w done entry → first.kind = .opening bracket →
      LevelOf (w ++ [first])
        ⟨done, entry.name?.getD bracket.defaultName, .ofBracket bracket⟩
  | arrow {w ks : List Token} {done keys : List TypeNode} {entry : Entry} {first arrow : Token} :
    ListOf w done entry → first.kind = .opening .brace → Types ks keys →
      arrow.kind = .closing .arrow →
      LevelOf (w ++ first :: ks ++ [arrow])
        ⟨done, entry.name?.getD Bracket.brace.defaultName, .values keys⟩

inductive StackOf : List Token → List Level → Prop
  | nil : StackOf [] []
  | cons {w ws : List Token} {outer : List Level} {level : Level} :
    StackOf w outer → LevelOf ws level → StackOf (w ++ ws) (level :: outer)

/-- The reader is what the tokens make it. -/
def ReaderOf (w : List Token) (reader : Reader) : Prop :=
  ∃ ws vs, w = ws ++ vs ∧ StackOf ws reader.outer ∧ ListOf vs reader.done reader.entry

/-- The tokens of an entry with groups are groups behind its name, or groups alone
the first of which implies the name. -/
theorem EntryOf.groups {w : List Token} {entry : Entry} (h : EntryOf w entry) {name : String}
    {group : Group} (hentry : entry = .grouped name group) :
    ∃ bracket, (∃ first ws, w = first :: ws ∧ first.kind = .name ∧ first.lexeme = name ∧
        Groups ws bracket group) ∨
      (bracket.defaultName = name ∧ Groups w bracket group) := by
  induction h generalizing name group with
  | empty => cases hentry
  | named => cases hentry
  | @grouped w ws entry bracket last hfront hlast ih =>
    obtain ⟨rfl, rfl⟩ := Entry.grouped.inj hentry
    cases hfront with
    | empty => exact ⟨bracket, .inr ⟨rfl, .single hlast⟩⟩
    | @named first hname => exact ⟨bracket, .inl ⟨first, ws, rfl, hname, rfl, .single hlast⟩⟩
    | grouped hfront hgroup =>
      obtain ⟨begin, ⟨first, vs, hw, hname, hlexeme, hgroups⟩ | ⟨hdefault, hgroups⟩⟩ := ih rfl
      · exact ⟨begin, .inl ⟨first, vs ++ ws, by rw [hw]; rfl, hname, hlexeme,
          hgroups.concat hlast⟩⟩
      · exact ⟨begin, .inr ⟨hdefault, hgroups.concat hlast⟩⟩

theorem EntryOf.singleType {w : List Token} {entry : Entry} {node : TypeNode}
    (h : EntryOf w entry) (hnode : entry.node? = some node) : SingleType w node := by
  cases hentry : entry with
  | empty =>
    rw [hentry] at hnode
    cases hnode
  | named name =>
    rw [hentry] at hnode h
    obtain rfl := Option.some.inj hnode
    cases h with
    | named hname => exact .name hname
  | grouped name group =>
    obtain ⟨bracket, ⟨first, ws, rfl, hname, rfl, hgroups⟩ | ⟨rfl, hgroups⟩⟩ := h.groups hentry
    · rw [hentry] at hnode
      obtain rfl := Option.some.inj hnode
      exact .named hname hgroups
    · rw [hentry] at hnode
      obtain rfl := Option.some.inj hnode
      exact .unnamed hgroups

theorem ListOf.types {w : List Token} {done : List TypeNode} {entry : Entry} {node : TypeNode}
    (h : ListOf w done entry) (hnode : entry.node? = some node) : Types w (done ++ [node]) := by
  cases h with
  | first hentry => exact .single (hentry.singleType hnode)
  | next htypes hseparator hentry => exact htypes.append hseparator (.single (hentry.singleType hnode))

theorem ListOf.grouped {w ws : List Token} {done : List TypeNode} {entry : Entry}
    {bracket : Bracket} {group : Group} (h : ListOf w done entry)
    (hgroup : SingleGroup ws bracket group) :
    ListOf (w ++ ws) done (.grouped (entry.name?.getD bracket.defaultName) group) := by
  cases h with
  | first hentry => exact .first (hentry.grouped hgroup)
  | next htypes hseparator hentry =>
    rw [List.append_assoc, List.cons_append]
    exact .next htypes hseparator (hentry.grouped hgroup)

/-- A closed list becomes what its bracket makes of it. -/
theorem ReaderOf.close {w vs : List Token} {level : Level} {outer : List Level}
    {done types : List TypeNode} {entry : Entry} {last : Token} {next : Reader}
    (hstack : StackOf w (level :: outer)) (htypes : Types vs types)
    (hlast : last.kind = .closing level.opening.closer)
    (hclose : Reader.close ⟨level :: outer, done, entry⟩ types = .reading next) :
    ReaderOf (w ++ vs ++ [last]) next := by
  cases hstack with
  | @cons w ws outer level hstack hlevel =>
    cases hlevel with
    | @opened w' done' entry' bracket first hlist hfirst =>
      cases bracket with
      | angle =>
        obtain rfl := Outcome.reading.inj hclose
        refine ⟨w, w' ++ (first :: vs ++ [last]), by simp, hstack, ?_⟩
        exact hlist.grouped (.angle hfirst htypes hlast)
      | paren =>
        obtain rfl := Outcome.reading.inj hclose
        refine ⟨w, w' ++ (first :: vs ++ [last]), by simp, hstack, ?_⟩
        exact hlist.grouped (.paren hfirst htypes hlast)
      | brace =>
        obtain rfl := Outcome.reading.inj hclose
        refine ⟨w ++ (w' ++ first :: vs ++ [last]), [], by simp, ?_, .first .empty⟩
        exact .cons hstack (.arrow hlist hfirst htypes hlast)
    | @arrow w' ks done' keys entry' first arrow hlist hfirst hkeys harrow =>
      obtain rfl := Outcome.reading.inj hclose
      refine ⟨w, w' ++ (first :: ks ++ arrow :: vs ++ [last]), by simp, hstack, ?_⟩
      exact hlist.grouped (.brace hfirst hkeys harrow htypes hlast)

theorem ReaderOf.step {w : List Token} {goal : TokenKind} {reader next : Reader} {token : Token}
    (h : ReaderOf w reader) (hstep : reader.step goal token = .reading next)
    (hblank : token.kind ≠ .blank) : ReaderOf (w ++ [token]) next := by
  obtain ⟨ws, vs, rfl, hstack, hlist⟩ := h
  obtain ⟨outer, done, entry⟩ := reader
  cases Reader.stepOf_of_eq hstep with
  | name hname hempty =>
    refine ⟨ws, vs ++ [token], List.append_assoc _ _ _, hstack, ?_⟩
    obtain rfl : entry = .empty := hempty
    cases hlist with
    | first hentry =>
      cases hentry
      exact .first (.named hname)
    | next htypes hseparator hentry =>
      cases hentry
      rw [List.append_assoc]
      exact .next htypes hseparator (.named hname)
  | separator hseparator hnode =>
    exact ⟨ws, vs ++ [token], List.append_assoc _ _ _, hstack,
      .next (hlist.types hnode) hseparator .empty⟩
  | opening hopening =>
    refine ⟨ws ++ (vs ++ [token]), [], by simp, ?_, .first .empty⟩
    exact .cons hstack (.opened hlist hopening)
  | @close level behind _ _ hclosing houter hnode hclose =>
    obtain rfl : outer = level :: behind := houter
    exact ReaderOf.close hstack (hlist.types hnode) hclosing hclose
  | blank hkind => exact absurd hkind hblank

theorem ReaderOf.advance {v w : List Token} {goal : TokenKind} {reader next : Reader}
    (h : ReaderOf v reader) (hadvance : reader.advance goal w = some next)
    (hblank : ∀ token ∈ w, token.kind ≠ .blank) : ReaderOf (v ++ w) next := by
  induction w generalizing v reader with
  | nil =>
    obtain rfl := Option.some.inj hadvance
    rwa [List.append_nil]
  | cons token tokens ih =>
    obtain ⟨middle, hstep, hrest⟩ := Reader.exists_step_of_advance hadvance
    have hmiddle := h.step hstep (hblank token List.mem_cons_self)
    have hall := ih hmiddle hrest fun other hother =>
      hblank other (List.mem_cons_of_mem _ hother)
    rwa [List.append_assoc] at hall

theorem readerOf_start : ReaderOf [] .start := ⟨[], [], rfl, .nil, .first .empty⟩

/-! ## Runs and derivations -/

/-- The tokens of a run that finishes derive its nodes, up to the terminator that it waits
for. -/
theorem types_of_run {goal : TokenKind} {text : String} {ending : StreamEnd}
    {tokens : List Token} {nodes : List TypeNode} {rest : TokenStream}
    (h : Cursor.run goal text ending .start tokens = (.ok nodes, rest))
    (hblank : ∀ token ∈ tokens, token.kind ≠ .blank) :
    ∃ w last behind, tokens = w ++ last :: behind ∧ last.kind = goal ∧
      (∃ terminator, last.kind = .closing terminator) ∧ rest = ⟨behind, ending⟩ ∧
      (∀ token ∈ w, token.kind ≠ .closing .finish) ∧ Types w nodes := by
  obtain ⟨w, reader, hadvance, ⟨-, hend⟩ |
    ⟨last, behind, rfl, ⟨nodes', hstep, hrun⟩ | ⟨reason, -, hrun⟩⟩⟩ :=
    Cursor.exists_advance goal text ending .start tokens
  · rw [hend] at h
    cases h
  · rw [hrun] at h
    obtain ⟨hnodes, hrest⟩ := Prod.mk.inj h
    obtain rfl := Except.ok.inj hnodes
    obtain ⟨ws, vs, hw, hstack, hlist⟩ := readerOf_start.advance hadvance fun token htoken =>
      hblank token (List.mem_append_left _ htoken)
    cases Reader.stepOf_of_eq hstep with
    | finish hkind houter hnode =>
      rw [houter] at hstack
      cases hstack
      have hvs : w = vs := hw
      exact ⟨w, last, behind, rfl, hkind, Reader.closing_of_finished hstep, hrest.symm,
        Reader.kind_ne_finish_of_advance hadvance, hvs ▸ hlist.types hnode⟩
  · rw [hrun] at h
    cases h

theorem run_of_types {terminator : Terminator} {text : String} {ending : StreamEnd}
    {w behind : List Token} {last : Token} {nodes : List TypeNode} (h : Types w nodes)
    (hlast : last.kind = .closing terminator) :
    Cursor.run (.closing terminator) text ending .start (w ++ last :: behind) =
      (.ok nodes, ⟨behind, ending⟩) := by
  obtain ⟨init, node, entry, rfl, hnode, hadvance⟩ :=
    Reader.readsTypes h (.closing terminator) [] []
  rw [List.nil_append] at hadvance
  have hstep : Reader.step (.closing terminator) ⟨[], init, entry⟩ last =
      .finished (init ++ [node]) := by
    rw [Reader.step_closing hlast rfl hnode]
    rfl
  have hstart : Reader.start.advance (.closing terminator) w = some ⟨[], init, entry⟩ := hadvance
  rw [Cursor.run_append hstart, Cursor.run, hstep]

/-- The tokens of a text that is read derive its nodes, in front of the token of the
end. -/
theorem types_of_parse {text : String} {nodes : List TypeNode} (h : parse text = .ok nodes) :
    ∃ w, tokenize text = ⟨w ++ [⟨.closing .finish, "", text.length⟩], .exhausted⟩ ∧
      Types w nodes := by
  rcases htokens : tokenize text with ⟨tokens, ending⟩
  have hrun : Cursor.run (.closing .finish) text ending .start tokens =
      (.ok nodes, (Cursor.run (.closing .finish) text ending .start tokens).2) := by
    rw [← h, parse, Cursor.read, Cursor.ofText, htokens]
  have hblank : ∀ token ∈ tokens, token.kind ≠ .blank := by
    have hscan := kind_ne_blank text.toList 0
    rwa [← tokenize, htokens] at hscan
  obtain ⟨w, last, behind, rfl, hlast, -, -, hfinish, htypes⟩ := types_of_run hrun hblank
  obtain ⟨-, rfl, rfl, rfl⟩ := cuts_of_finish htokens hfinish hlast
  refine ⟨w, ?_, htypes⟩
  rw [Nat.zero_add, String.length_toList]

theorem nodes_ne_nil_of_parse {text : String} {nodes : List TypeNode}
    (h : parse text = .ok nodes) : nodes ≠ [] := by
  obtain ⟨w, -, htypes⟩ := types_of_parse h
  exact htypes.nodes_ne_nil

end Annotation
end TypeStub
