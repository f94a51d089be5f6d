import TypeStub.Proofs.Annotation.Acceptance

/-!
# Annotations joined into one

Where a separator stands between two annotations that are read, the whole is read into the
types of both (`parse_joined`).  Blanks around the separator belong to no token, and no name
goes on into a separator or a blank.  So each part is cut into the tokens that it has on its
own, at other places, and the grammar does not look at the places of tokens.
-/

namespace TypeStub
namespace Annotation

open TypeStub.Text TokenStream

/-- A comma or a semicolon, with blanks in front of it and behind it or without. -/
def IsSeparator (text : String) : Prop :=
  ∃ front c back, text.toList = front ++ c :: back ∧ (c = ',' ∨ c = ';') ∧
    (∀ d ∈ front, isBlank d = true) ∧ ∀ d ∈ back, isBlank d = true

/-- The token behind as many more characters. -/
def Token.shift (offset : Nat) (token : Token) : Token :=
  { token with position := token.position + offset }

/-- The grammar sees kinds and lexemes only. -/
theorem preserved_map {f : Token → Token} (hkind : ∀ token, (f token).kind = token.kind)
    (hlexeme : ∀ token, (f token).lexeme = token.lexeme) :
    Preserved (fun w nodes => Types (w.map f) nodes) (fun w node => SingleType (w.map f) node)
      (fun w bracket group => Groups (w.map f) bracket group)
      (fun w bracket group => SingleGroup (w.map f) bracket group) where
  single hnode := .single hnode
  cons {w ws separator node nodes} hnode hseparator hnodes := by
    rw [List.map_append, List.map_cons]
    exact .cons hnode ((hkind separator).trans hseparator) hnodes
  name {name} hname := by
    rw [← hlexeme]
    exact .name ((hkind name).trans hname)
  named {name w bracket group} hname hgroups := by
    rw [← hlexeme]
    exact .named ((hkind name).trans hname) hgroups
  unnamed hgroups := .unnamed hgroups
  group hgroup := .single hgroup
  groups hgroup hgroups := by
    rw [List.map_append]
    exact .cons hgroup hgroups
  angle {first last w types} hfirst htypes hlast := by
    rw [List.map_append, List.map_cons]
    exact .angle ((hkind first).trans hfirst) htypes ((hkind last).trans hlast)
  paren {first last w types} hfirst htypes hlast := by
    rw [List.map_append, List.map_cons]
    exact .paren ((hkind first).trans hfirst) htypes ((hkind last).trans hlast)
  brace {first arrow last ks vs keys values} hfirst hkeys harrow hvalues hlast := by
    rw [List.map_append, List.map_append, List.map_cons, List.map_cons]
    exact .brace ((hkind first).trans hfirst) hkeys ((hkind arrow).trans harrow) hvalues
      ((hkind last).trans hlast)

theorem Types.shift {w : List Token} {nodes : List TypeNode} (h : Types w nodes) (offset : Nat) :
    Types (w.map (Token.shift offset)) nodes := by
  have hrules := @preserved_map (Token.shift offset) (fun _ => rfl) (fun _ => rfl)
  exact hrules.types h

theorem Cuts.shift {rest cs : List Char} {position : Nat} {tokens : List Token}
    (h : Cuts rest position cs tokens) (offset : Nat) :
    Cuts rest (position + offset) cs (tokens.map (Token.shift offset)) := by
  induction h with
  | nil => exact .nil
  | blank hc _ ih =>
    rw [Nat.add_right_comm] at ih
    exact .blank hc ih
  | lexeme hlexeme hblank hfinish _ ih =>
    rw [Nat.add_right_comm] at ih
    exact .lexeme hlexeme hblank hfinish ih

/-- A whole text keeps its tokens in front of a text at which no name goes on. -/
theorem Cuts.placed {cs rest : List Char} {tokens : List Token} (h : Cuts [] 0 cs tokens)
    (hrest : Name.scanPath rest = []) (position : Nat) :
    Cuts rest position cs (tokens.map (Token.shift position)) := by
  have hcuts := (h.congr rest fun name _ => Name.continuation_eq_nil hrest name).shift position
  rwa [Nat.zero_add] at hcuts

theorem Cuts.blanks {rest front cs : List Char} {position : Nat} {tokens : List Token}
    (hfront : ∀ c ∈ front, isBlank c = true) (h : Cuts rest (position + front.length) cs tokens) :
    Cuts rest position (front ++ cs) tokens := by
  induction front generalizing position with
  | nil => exact h
  | cons c front ih =>
    obtain ⟨hc, hfront⟩ := List.forall_mem_cons.mp hfront
    refine .blank hc (ih hfront ?_)
    rwa [List.length_cons, Nat.add_comm front.length, ← Nat.add_assoc] at h

/-! ## Separators -/

theorem separator_lexeme? {c : Char} (hc : c = ',' ∨ c = ';') (rest : List Char) :
    TokenKind.separator.lexeme? ([c] ++ rest) = some [c] := by
  rcases hc with rfl | rfl <;> rfl

/-- A separator is cut into one token. -/
theorem IsSeparator.exists_cuts {separator : String} (h : IsSeparator separator)
    (rest : List Char) (position : Nat) :
    ∃ token, token.kind = .separator ∧ Cuts rest position separator.toList [token] := by
  obtain ⟨front, c, back, htext, hc, hfront, hback⟩ := h
  have hbehind : Cuts rest (position + front.length + [c].length) back [] := by
    have hnil : Cuts rest (position + front.length + [c].length + back.length) [] [] := .nil
    simpa using hnil.blanks hback
  refine ⟨⟨.separator, String.ofList [c], position + front.length⟩, rfl, ?_⟩
  rw [htext]
  exact .blanks hfront (.lexeme (separator_lexeme? hc _) nofun nofun hbehind)

/-- No name goes on into a separator. -/
theorem IsSeparator.continuation_eq_nil {separator : String} (h : IsSeparator separator)
    (name rest : List Char) : Name.continuation name (separator.toList ++ rest) = [] := by
  obtain ⟨front, c, back, htext, hc, hfront, -⟩ := h
  refine Name.continuation_eq_nil ?_ name
  rw [htext]
  rcases front with - | ⟨d, front⟩
  · rcases hc with rfl | rfl <;> exact Name.scanPath_eq_nil (by decide +kernel) (by decide) _
  · exact Name.scanPath_blank (hfront d List.mem_cons_self) _

/-! ## Joined texts -/

/-- The characters are cut into tokens that derive the nodes. -/
def Spells (cs : List Char) (nodes : List TypeNode) : Prop :=
  ∃ w, Cuts [] 0 cs w ∧ Types w nodes

theorem Spells.append {cs ds : List Char} {nodes others : List TypeNode} {separator : String}
    (h : Spells cs nodes) (hseparator : IsSeparator separator) (hothers : Spells ds others) :
    Spells (cs ++ separator.toList ++ ds) (nodes ++ others) := by
  obtain ⟨w, hcuts, htypes⟩ := h
  obtain ⟨ws, hcuts', htypes'⟩ := hothers
  obtain ⟨token, htoken, hmiddle⟩ :=
    hseparator.exists_cuts (ds ++ []) (0 + cs.length)
  have hfirst := hcuts.congr (separator.toList ++ (ds ++ [])) fun name _ =>
    hseparator.continuation_eq_nil name _
  have hlast := hcuts'.shift (cs ++ separator.toList).length
  refine ⟨(w ++ [token]) ++ ws.map (Token.shift (cs ++ separator.toList).length), ?_, ?_⟩
  · exact (hfirst.append hmiddle).append hlast
  · rw [List.append_assoc]
    exact htypes.append htoken (htypes'.shift _)

end Annotation
end TypeStub
