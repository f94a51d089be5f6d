import TypeStub.Proofs.Annotation.Acceptance

/-!
# Proper types

A type is proper if all its names are in the language of names, none of its brackets
is empty, and no text stands in the place of a type.  Every type that is read is
proper: a name is either the lexeme of a token or implied by a bracket.
-/

namespace TypeStub
namespace Annotation

/-- A type, with the types inside it, that can be written as an annotation. -/
inductive TypeNode.Proper : TypeNode → Prop
  | simple {name : String} : IsName name.toList → Proper (.simple name)
  | collection {name : String} {types : List TypeNode} :
    IsName name.toList → types ≠ [] → (∀ node ∈ types, Proper node) →
      Proper (.collection name types)
  | fixed {name : String} {types : List TypeNode} :
    IsName name.toList → types ≠ [] → (∀ node ∈ types, Proper node) → Proper (.fixed name types)
  | mapping {name : String} {keys values : List TypeNode} :
    IsName name.toList → keys ≠ [] → values ≠ [] → (∀ node ∈ keys, Proper node) →
      (∀ node ∈ values, Proper node) → Proper (.mapping name keys values)

/-- A group that makes a proper type of every name. -/
def Group.Proper (group : Group) : Prop :=
  ∀ name : String, IsName name.toList → (group.node name).Proper

def ProperNames (w : List Token) : Prop :=
  ∀ token ∈ w, token.kind = .name → IsName token.lexeme.toList

theorem ProperNames.subset {v w : List Token} (h : ProperNames w) (hsubset : v ⊆ w) :
    ProperNames v :=
  fun token htoken => h token (hsubset htoken)

theorem properNames_scan (position : Nat) (cs : List Char) :
    ProperNames (TokenStream.scan TokenKind.all position cs).tokens := by
  induction cs using scan_induction generalizing position with
  | nil =>
    rw [TokenStream.scan_nil]
    intro token htoken hname
    obtain rfl := List.mem_singleton.mp htoken
    cases hname
  | blank c cs hc ih =>
    rw [TokenStream.scan_blank hc]
    exact ih (position + 1)
  | lexeme kind c cs rest hlexeme _ hblank hfinish ih =>
    rw [TokenStream.scan_lexeme hlexeme hblank hfinish]
    intro token htoken hname
    rcases List.mem_cons.mp htoken with rfl | htoken
    · obtain rfl : kind = .name := hname
      obtain ⟨hscan, hne⟩ := eq_of_nonempty?_eq_some hlexeme
      rw [← hscan] at hne
      rw [String.toList_ofList, ← hscan]
      exact Name.isName_scan hne
    · exact ih _ token htoken hname
  | invalid c cs hnone =>
    rw [TokenStream.scan_invalid hnone]
    exact fun _ htoken => absurd htoken List.not_mem_nil

theorem Bracket.isName_defaultName (bracket : Bracket) : IsName bracket.defaultName.toList := by
  cases bracket
  all_goals exact isName_of_isAlphanum (List.cons_ne_nil _ _) (by decide)

theorem preserved_proper :
    Preserved (fun w nodes => nodes ≠ [] ∧ (ProperNames w → ∀ node ∈ nodes, node.Proper))
      (fun w node => ProperNames w → node.Proper) (fun w _ group => ProperNames w → group.Proper)
      (fun w _ group => ProperNames w → group.Proper) where
  single hnode := by
    refine ⟨List.cons_ne_nil _ _, fun hnames node hmem => ?_⟩
    obtain rfl := List.mem_singleton.mp hmem
    exact hnode hnames
  cons hnode _ hnodes := by
    refine ⟨List.cons_ne_nil _ _, fun hnames node hmem => ?_⟩
    rcases List.mem_cons.mp hmem with rfl | hmem
    · exact hnode (hnames.subset (List.subset_append_left _ _))
    · refine hnodes.2 (hnames.subset ?_) node hmem
      exact List.subset_append_of_subset_right _ (List.subset_cons_self _ _)
  name hname hnames := .simple (hnames _ List.mem_cons_self hname)
  named hname hgroups hnames :=
    hgroups (hnames.subset (List.subset_cons_self _ _)) _ (hnames _ List.mem_cons_self hname)
  unnamed {_ bracket _} hgroups hnames := hgroups hnames _ bracket.isName_defaultName
  group hgroup := hgroup
  groups _ hgroups hnames := hgroups (hnames.subset (List.subset_append_right _ _))
  angle _ htypes _ hnames name hname := by
    refine .collection hname htypes.1 (htypes.2 (hnames.subset ?_))
    simp
  paren _ htypes _ hnames name hname := by
    refine .fixed hname htypes.1 (htypes.2 (hnames.subset ?_))
    simp
  brace _ hkeys _ hvalues _ hnames name hname := by
    refine .mapping hname hkeys.1 hvalues.1 (hkeys.2 (hnames.subset ?_))
      (hvalues.2 (hnames.subset ?_))
    · simp
    · intro token htoken
      simp [htoken]

theorem proper_of_parse {text : String} {nodes : List TypeNode} (h : parse text = .ok nodes) :
    ∀ node ∈ nodes, node.Proper := by
  obtain ⟨w, htokens, htypes⟩ := types_of_parse h
  have hnames := properNames_scan 0 text.toList
  rw [← tokenize, htokens] at hnames
  exact (preserved_proper.types htypes).2 (hnames.subset (List.subset_append_left _ _))

end Annotation
end TypeStub
