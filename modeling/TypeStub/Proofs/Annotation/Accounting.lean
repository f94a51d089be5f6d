import Mathlib.Data.List.Chain
import TypeStub.Proofs.Annotation.Acceptance
import TypeStub.Proofs.Annotation.Tree

/-!
# What becomes of the tokens

A tree accounts for the tokens it is read from if every opening bracket is the
bracket of one of its types and its names are the names of the text, with a default
name for every bracket that has no name in front of it.

A type with several groups in a row is written by the last of them alone, and the
groups before it are in no tree.  `accounted_iff_singleGroups` says that this is the
one way in which a text that is read can lose something.
-/

namespace TypeStub
namespace Annotation

open TypeNode

def Token.opening? (token : Token) : Option Bracket :=
  match token.kind with
  | .opening bracket => some bracket
  | _ => none

def Token.EndsGroup (token : Token) : Prop :=
  token.kind = .closing .angle ∨ token.kind = .closing .paren ∨ token.kind = .closing .brace

def openings (w : List Token) : List Bracket := w.filterMap Token.opening?

/-- The names among tokens, with the default name of every bracket that has no name
in front of it.  Whether a name stands in front of the first token is given. -/
def namesAmong : Bool → List Token → List String
  | _, [] => []
  | named, token :: tokens =>
    match token.kind with
    | .name => token.lexeme :: namesAmong true tokens
    | .opening bracket =>
      if named then namesAmong false tokens else bracket.defaultName :: namesAmong false tokens
    | _ => namesAmong false tokens

/-- No bracket opens right behind the end of a group. -/
def SingleGroups (w : List Token) : Prop :=
  w.IsChain fun token next => token.EndsGroup → next.opening? = none

/-- Nothing of the tokens is lost in the nodes: each opening bracket has its composite
type and each name, written or implied, its place. -/
structure Accounted (w : List Token) (nodes : List TypeNode) : Prop where
  brackets (bracket : Bracket) : (bracketsOf nodes).count bracket = (openings w).count bracket
  names : namesOf nodes = namesAmong false w

/-! ## Tokens that stand between types -/

/-- A token that only separates what stands on its two sides. -/
def Token.Separates (token : Token) : Prop :=
  token.kind = .separator ∨ token.kind = .closing .arrow

theorem Token.Separates.opening? {token : Token} (h : token.Separates) : token.opening? = none := by
  rcases h with h | h <;> simp only [Token.opening?, h]

theorem Token.EndsGroup.opening? {token : Token} (h : token.EndsGroup) : token.opening? = none := by
  rcases h with h | h | h <;> simp only [Token.opening?, h]

theorem Token.Separates.not_endsGroup {token : Token} (h : token.Separates) :
    ¬token.EndsGroup := by
  rcases h with h | h <;> simp [Token.EndsGroup, h]

theorem Token.opening?_eq_some {token : Token} {bracket : Bracket}
    (h : token.kind = .opening bracket) : token.opening? = some bracket := by
  simp only [Token.opening?, h]

theorem Token.not_endsGroup_of_opening {token : Token} {bracket : Bracket}
    (h : token.kind = .opening bracket) : ¬token.EndsGroup := by
  simp [Token.EndsGroup, h]

theorem openings_append (w ws : List Token) : openings (w ++ ws) = openings w ++ openings ws :=
  List.filterMap_append

theorem openings_separates {token : Token} (h : token.Separates) (w ws : List Token) :
    openings (w ++ token :: ws) = openings w ++ openings ws := by
  rw [openings_append]
  simp only [openings, List.filterMap_cons, h.opening?]

/-- A separating token makes the names behind it independent of those in front. -/
theorem namesAmong_separates {token : Token} (h : token.Separates) (named : Bool)
    (w ws : List Token) :
    namesAmong named (w ++ token :: ws) = namesAmong named w ++ namesAmong false ws := by
  induction w generalizing named with
  | nil => rcases h with h | h <;> simp [namesAmong, h]
  | cons first w ih =>
    rw [List.cons_append, namesAmong, namesAmong]
    split
    · rw [ih, List.cons_append]
    · split
      · rw [ih]
      · rw [ih, List.cons_append]
    · rw [ih]

theorem namesAmong_endsGroup {token : Token} (h : token.EndsGroup) (named : Bool)
    (w : List Token) : namesAmong named (w ++ [token]) = namesAmong named w := by
  induction w generalizing named with
  | nil => rcases h with h | h | h <;> simp [namesAmong, h]
  | cons first w ih =>
    rw [List.cons_append, namesAmong, namesAmong]
    split <;> simp only [ih]

theorem singleGroups_separates {token : Token} (h : token.Separates) (w ws : List Token) :
    SingleGroups (w ++ token :: ws) ↔ SingleGroups w ∧ SingleGroups ws := by
  rw [SingleGroups, List.isChain_append, List.isChain_cons]
  constructor
  · intro h
    exact ⟨h.1, h.2.1.2⟩
  · intro ⟨hw, hws⟩
    refine ⟨hw, ⟨fun _ _ hends => absurd hends h.not_endsGroup, hws⟩, fun _ _ next hnext _ => ?_⟩
    obtain rfl : token = next := by simpa using hnext
    exact h.opening?

/-! ## Accounts

Either no group is followed by another and everything is accounted for, or there
are more brackets than composite types. -/

/-- The tokens either hold just these brackets and names, with a single group for
each type, or they hold repeated groups and more brackets. -/
def Accounts (w : List Token) (brackets : List Bracket) (names : List String) : Prop :=
  (SingleGroups w ∧ brackets = openings w ∧ names = namesAmong false w) ∨
    (¬SingleGroups w ∧ brackets.length < (openings w).length)

theorem Accounts.length_le {w : List Token} {brackets : List Bracket} {names : List String}
    (h : Accounts w brackets names) : brackets.length ≤ (openings w).length := by
  rcases h with ⟨-, rfl, -⟩ | ⟨-, hlt⟩
  · exact Nat.le_refl _
  · exact Nat.le_of_lt hlt

theorem Accounts.append {w ws : List Token} {token : Token} {as bs : List Bracket}
    {ns ms : List String} (h : Accounts w as ns) (htoken : token.Separates)
    (hws : Accounts ws bs ms) : Accounts (w ++ token :: ws) (as ++ bs) (ns ++ ms) := by
  have hle := h.length_le
  have hle' := hws.length_le
  rw [Accounts, singleGroups_separates htoken, openings_separates htoken,
    namesAmong_separates htoken, List.length_append, List.length_append]
  rcases h with ⟨hsingle, rfl, rfl⟩ | ⟨hrepeat, hlt⟩
  · rcases hws with ⟨hsingle', rfl, rfl⟩ | ⟨hrepeat, hlt⟩
    · exact .inl ⟨⟨hsingle, hsingle'⟩, rfl, rfl⟩
    · exact .inr ⟨fun hboth => hrepeat hboth.2, by omega⟩
  · exact .inr ⟨fun hboth => hrepeat hboth.1, by omega⟩

theorem Accounts.enclose {w : List Token} {first last : Token} {bracket : Bracket}
    {as : List Bracket} {ns : List String} (h : Accounts w as ns)
    (hfirst : first.kind = .opening bracket) (hlast : last.EndsGroup) :
    Accounts (first :: w ++ [last]) (bracket :: as) (bracket.defaultName :: ns) := by
  have hsingle : SingleGroups (first :: w ++ [last]) ↔ SingleGroups w := by
    rw [SingleGroups, List.cons_append, List.isChain_cons, List.isChain_append]
    constructor
    · exact fun h => h.2.1
    · refine fun hw => ⟨fun _ _ hends => absurd hends (Token.not_endsGroup_of_opening hfirst),
        hw, .singleton _, fun _ _ next hnext _ => ?_⟩
      obtain rfl : last = next := by simpa using hnext
      exact hlast.opening?
  have hopenings : openings (first :: w ++ [last]) = bracket :: openings w := by
    rw [openings_append]
    simp [openings, hlast.opening?, Token.opening?_eq_some hfirst]
  have hnames : namesAmong false (first :: w ++ [last]) =
      bracket.defaultName :: namesAmong false w := by
    rw [List.cons_append, namesAmong, hfirst]
    simp [namesAmong_endsGroup hlast]
  rw [Accounts, hsingle, hopenings, hnames]
  rcases h with ⟨hw, rfl, rfl⟩ | ⟨hw, hlt⟩
  · exact .inl ⟨hw, rfl, rfl⟩
  · exact .inr ⟨hw, Nat.succ_lt_succ hlt⟩

/-- A name takes the place of the one that the bracket behind it implies. -/
theorem Accounts.rename {w : List Token} {name : Token} {bracket : Bracket} {as : List Bracket}
    {ns : List String} (h : Accounts w as (bracket.defaultName :: ns))
    (hname : name.kind = .name) (hhead : ∃ first ws, w = first :: ws ∧
      first.kind = .opening bracket) : Accounts (name :: w) as (name.lexeme :: ns) := by
  obtain ⟨first, ws, rfl, hfirst⟩ := hhead
  have hsingle : SingleGroups (name :: first :: ws) ↔ SingleGroups (first :: ws) := by
    rw [SingleGroups, List.isChain_cons_cons]
    exact and_iff_right fun hends => by simp [Token.EndsGroup, hname] at hends
  have hopenings : openings (name :: first :: ws) = openings (first :: ws) := by
    simp [openings, Token.opening?, hname]
  rw [Accounts, hsingle, hopenings]
  rcases h with ⟨hw, rfl, hns⟩ | ⟨hw, hlt⟩
  · refine .inl ⟨hw, rfl, ?_⟩
    rw [namesAmong, hfirst] at hns
    obtain ⟨-, rfl⟩ := List.cons.inj hns
    simp [namesAmong, hname, hfirst]
  · exact .inr ⟨hw, hlt⟩

theorem Accounts.repeated {w ws : List Token} {bracket : Bracket} {bs : List Bracket}
    {ns ms : List String} (hfirst : ∃ first v, w = first :: v ∧ first.kind = .opening bracket)
    (hlast : ∃ v last, w = v ++ [last] ∧ last.EndsGroup)
    (hnext : ∃ next v, ws = next :: v ∧ next.opening?.isSome) (hws : Accounts ws bs ns) :
    Accounts (w ++ ws) bs ms := by
  refine .inr ⟨fun hsingle => ?_, ?_⟩
  · obtain ⟨v, last, rfl, hends⟩ := hlast
    obtain ⟨next, v', rfl, hopens⟩ := hnext
    have hpair := (List.isChain_append.mp hsingle).2.2 last (by simp) next (by simp) hends
    rw [hpair] at hopens
    cases hopens
  · obtain ⟨first, v, rfl, hopening⟩ := hfirst
    have hle := hws.length_le
    rw [openings_append, List.length_append]
    have hpos : 0 < (openings (first :: v)).length := by
      simp [openings, Token.opening?_eq_some hopening]
    omega

/-- The groups of a type account for the last of them, under the name that the first
one implies. -/
def GroupsAccount (w : List Token) (bracket : Bracket) (group : Group) : Prop :=
  (∃ first ws, w = first :: ws ∧ first.kind = .opening bracket) ∧
    Accounts w group.brackets (bracket.defaultName :: group.names)

def GroupAccounts (w : List Token) (bracket : Bracket) (group : Group) : Prop :=
  (∃ ws last, w = ws ++ [last] ∧ last.EndsGroup) ∧ GroupsAccount w bracket group

theorem preserved_accounts :
    Preserved (fun w nodes => Accounts w (bracketsOf nodes) (namesOf nodes))
      (fun w node => Accounts w node.brackets node.names) GroupsAccount GroupAccounts where
  single {w node} hnode := by
    simpa only [bracketsOf, namesOf, List.append_nil] using hnode
  cons hnode hseparator hnodes := hnode.append (.inl hseparator) hnodes
  name {name} hname := by
    refine .inl ⟨.singleton _, ?_, ?_⟩
    · simp [brackets, openings, Token.opening?, hname]
    · simp [names, namesAmong, hname]
  named hname hgroups := by
    rw [Group.brackets_node, Group.names_node]
    exact hgroups.2.rename hname hgroups.1
  unnamed hgroups := by
    rw [Group.brackets_node, Group.names_node]
    exact hgroups.2
  group hgroup := hgroup.2
  groups {w ws bracket next group last} hgroup hgroups := by
    obtain ⟨hlast, hfirst, -⟩ := hgroup
    obtain ⟨⟨second, vs, rfl, hsecond⟩, haccounts⟩ := hgroups
    refine ⟨?_, haccounts.repeated hfirst hlast ⟨second, vs, rfl, ?_⟩⟩
    · obtain ⟨first, v, rfl, hopening⟩ := hfirst
      exact ⟨first, _, rfl, hopening⟩
    · rw [Token.opening?_eq_some hsecond]
      rfl
  angle {first last w types} hfirst htypes hlast :=
    ⟨⟨first :: w, last, rfl, .inl hlast⟩, ⟨first, w ++ [last], rfl, hfirst⟩,
      htypes.enclose hfirst (.inl hlast)⟩
  paren {first last w types} hfirst htypes hlast :=
    ⟨⟨first :: w, last, rfl, .inr (.inl hlast)⟩, ⟨first, w ++ [last], rfl, hfirst⟩,
      htypes.enclose hfirst (.inr (.inl hlast))⟩
  brace {first arrow last ks vs keys values} hfirst hkeys harrow hvalues hlast := by
    have hsplit : first :: ks ++ arrow :: vs ++ [last] = first :: (ks ++ arrow :: vs) ++ [last] :=
      rfl
    rw [hsplit]
    exact ⟨⟨_, last, rfl, .inr (.inr hlast)⟩, ⟨first, _, rfl, hfirst⟩,
      (hkeys.append (.inr harrow) hvalues).enclose hfirst (.inr (.inr hlast))⟩

/-- A text that is read is accounted for just if no type in it has a second group. -/
theorem accounted_iff_singleGroups {text : String} {nodes : List TypeNode}
    (h : parse text = .ok nodes) :
    ∃ w, tokenize text = ⟨w ++ [⟨.closing .finish, "", text.length⟩], .exhausted⟩ ∧
      (Accounted w nodes ↔ SingleGroups w) := by
  obtain ⟨w, htokens, htypes⟩ := types_of_parse h
  refine ⟨w, htokens, ?_⟩
  have haccounts := preserved_accounts.types htypes
  constructor
  · intro haccounted
    rcases haccounts with ⟨hsingle, -⟩ | ⟨-, hlt⟩
    · exact hsingle
    · have hperm := List.perm_iff_count.mpr haccounted.brackets
      have := hperm.length_eq
      omega
  · intro hsingle
    rcases haccounts with ⟨-, hbrackets, hnames⟩ | ⟨hrepeat, -⟩
    · exact ⟨fun bracket => by rw [hbrackets], hnames⟩
    · exact absurd hsingle hrepeat

theorem accounted_iff_of_nested_mapping :
    parse "Hash{A => B<C>}, (D)" =
        .ok [.mapping "Hash" [.simple "A"] [.collection "B" [.simple "C"]],
          .fixed "Array" [.simple "D"]] ∧
      ∃ w, tokenize "Hash{A => B<C>}, (D)" =
          ⟨w ++ [⟨.closing .finish, "", "Hash{A => B<C>}, (D)".length⟩], .exhausted⟩ ∧
        (Accounted w [.mapping "Hash" [.simple "A"] [.collection "B" [.simple "C"]],
          .fixed "Array" [.simple "D"]] ↔ SingleGroups w) := by
  have hparse : parse "Hash{A => B<C>}, (D)" =
      .ok [.mapping "Hash" [.simple "A"] [.collection "B" [.simple "C"]],
        .fixed "Array" [.simple "D"]] := by
    cbv
  exact ⟨hparse, accounted_iff_singleGroups hparse⟩

/-- Of two groups in a row the first one is lost, with its bracket and its name. -/
theorem not_accounted_of_two_groups :
    ∃ w nodes, parse "<A><B>" = .ok nodes ∧
      tokenize "<A><B>" = ⟨w ++ [⟨.closing .finish, "", 6⟩], .exhausted⟩ ∧
      ¬Accounted w nodes := by
  refine ⟨[⟨.opening .angle, "<", 0⟩, ⟨.name, "A", 1⟩, ⟨.closing .angle, ">", 2⟩,
    ⟨.opening .angle, "<", 3⟩, ⟨.name, "B", 4⟩, ⟨.closing .angle, ">", 5⟩],
    [.collection "Array" [.simple "B"]], by cbv, by decide +kernel, fun haccounted => ?_⟩
  exact absurd haccounted.names (by decide)

end Annotation
end TypeStub
