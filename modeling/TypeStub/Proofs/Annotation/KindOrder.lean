import TypeStub.Proofs.Annotation.Lossless

/-!
# The order of the kinds

A scan tries the kinds of its table in order, and the first one with a lexeme decides.  The
order would matter if the patterns of two kinds could match at one place.  They cannot,
because the first character of a text decides which of them may match (`Matches.unique`).
Nor does any of them match without a character, so the end of the text, which alone has an
empty lexeme, takes no place away from them.

A table with the same kinds therefore scans every text in the same way, up to the same
character of no token, wherever each kind stands in it: `scan_of_perm`.
-/

namespace TypeStub
namespace Annotation

open TypeStub.Text

namespace TokenKind

/-- The pattern of a kind matches at the front of a text.  The end of a text has no pattern. -/
def Matches (kind : TokenKind) (cs : List Char) : Prop :=
  ∃ lexeme, kind.IsLexeme lexeme ∧ lexeme <+: cs

variable {kind other : TokenKind} {cs lexeme : List Char}

/-- A scan finds a lexeme of a kind just where the pattern of the kind matches. -/
theorem matches_iff : kind.Matches cs ↔ kind ≠ .closing .finish ∧ kind.lexeme? cs ≠ none := by
  constructor
  · rintro ⟨lexeme, hlexeme, rest, rfl⟩
    refine ⟨fun hfinish => ?_, lexeme?_ne_none_of_isLexeme hlexeme rest⟩
    rw [hfinish] at hlexeme
    exact hlexeme
  · rintro ⟨hfinish, hne⟩
    obtain ⟨lexeme, hlexeme⟩ := Option.ne_none_iff_exists'.mp hne
    exact ⟨lexeme, isLexeme_of_lexeme? hlexeme hfinish, isPrefix_of_lexeme? hlexeme⟩

theorem Matches.unique (h : kind.Matches cs) (h' : other.Matches cs) : kind = other := by
  obtain ⟨lexeme, hlexeme⟩ := Option.ne_none_iff_exists'.mp (matches_iff.mp h).2
  obtain ⟨lexeme', hlexeme'⟩ := Option.ne_none_iff_exists'.mp (matches_iff.mp h').2
  exact (lexeme?_unique hlexeme hlexeme').1

theorem IsLexeme.ne_nil (h : kind.IsLexeme lexeme) : lexeme ≠ [] := by
  fun_cases IsLexeme kind lexeme
  case case5 => exact IsName.ne_nil h
  case case6 => rcases h with rfl | rfl <;> exact List.cons_ne_nil _ _
  case case7 => exact h.1
  case case11 => exact absurd h id
  all_goals
    obtain rfl := h
    exact List.cons_ne_nil _ _

theorem not_matches_nil (kind : TokenKind) : ¬kind.Matches [] := by
  rintro ⟨lexeme, hlexeme, hprefix⟩
  exact hlexeme.ne_nil (List.prefix_nil.mp hprefix)

end TokenKind

/-! ## Tables without a gap -/

section

variable {table : List TokenKind} (h : ∀ kind, kind ∈ table)

include h

/-- A table that misses no kind finds what any other such table finds. -/
theorem firstLexeme?_of_mem (cs : List Char) :
    firstLexeme? table cs = firstLexeme? TokenKind.all cs := by
  refine Option.ext fun found => ?_
  obtain ⟨kind, lexeme⟩ := found
  have hall := TokenKind.mem_all kind
  simp only [firstLexeme?_eq_some_iff, h kind, hall]

theorem TokenStream.scan_of_mem (position : Nat) (cs : List Char) :
    scan table position cs = scan TokenKind.all position cs := by
  have hfirst := firstLexeme?_of_mem h cs
  cases hfound : firstLexeme? table cs with
  | none =>
    have hall := hfirst.symm.trans hfound
    cases cs with
    | nil =>
      have hfinish : firstLexeme? table [] = some (.closing .finish, []) :=
        firstLexeme?_eq_some_iff.mpr ⟨h _, rfl⟩
      rw [hfinish] at hfound
      cases hfound
    | cons c cs => rw [scan_of_none hfound, scan_of_none hall]
  | some found =>
    obtain ⟨kind, lexeme⟩ := found
    have hall := hfirst.symm.trans hfound
    by_cases hfinish : kind = .closing .finish
    · subst hfinish
      rw [scan_of_finish hfound, scan_of_finish hall]
    · have hshorter := length_sub_lt_of_firstLexeme? hfound hfinish
      have hrest := scan_of_mem (position + lexeme.length) (cs.drop lexeme.length)
      by_cases hblank : kind = .blank
      · subst hblank
        rw [scan_of_blank hfound, scan_of_blank hall, hrest]
      · rw [scan_of_some hfound hfinish hblank, scan_of_some hall hfinish hblank, hrest]
termination_by cs.length

end

/-- Wherever each kind stands in the table, a text has the same tokens and comes to the same
end.  At every place the pattern of at most one kind matches, and this is the kind that the
table finds there.  No pattern matches an empty text, let alone at the end of a text. -/
theorem scan_of_perm {table : List TokenKind} (h : table.Perm TokenKind.all) (text : String) :
    TokenStream.scan table 0 text.toList = tokenize text ∧
      (∀ position (kind other : TokenKind), kind.Matches (text.toList.drop position) →
        other.Matches (text.toList.drop position) → kind = other) ∧
      (∀ position (kind : TokenKind), kind ≠ .closing .finish →
        (kind.Matches (text.toList.drop position) ↔
          ∃ lexeme, firstLexeme? table (text.toList.drop position) = some (kind, lexeme))) ∧
      (∀ kind : TokenKind, ¬kind.IsLexeme []) ∧
      ∀ kind : TokenKind, ¬kind.Matches (text.toList.drop text.length) := by
  have hmem : ∀ kind, kind ∈ table := fun kind => h.mem_iff.mpr (TokenKind.mem_all kind)
  refine ⟨TokenStream.scan_of_mem hmem 0 text.toList,
    fun _ _ _ hkind hother => hkind.unique hother, fun position kind hfinish => ?_,
    fun kind hlexeme => hlexeme.ne_nil rfl, fun kind => ?_⟩
  · simp only [TokenKind.matches_iff, firstLexeme?_eq_some_iff, hmem kind, hfinish, ne_eq,
      not_false_eq_true, true_and, Option.ne_none_iff_exists']
  · rw [← String.length_toList, List.drop_length]
    exact kind.not_matches_nil

/-- The table from its end to its beginning, with the end of the text as its first kind. -/
theorem scan_of_reversed_table :
    TokenKind.all.reverse.Perm TokenKind.all ∧
      TokenStream.scan TokenKind.all.reverse 0 "A::B =>=".toList =
        ⟨[⟨.name, "A::B", 0⟩, ⟨.closing .arrow, "=>", 5⟩], .invalid '=' 7⟩ := by
  have hperm : TokenKind.all.reverse.Perm TokenKind.all := List.reverse_perm _
  have htokens : tokenize "A::B =>=" =
      ⟨[⟨.name, "A::B", 0⟩, ⟨.closing .arrow, "=>", 5⟩], .invalid '=' 7⟩ := by
    cbv
  exact ⟨hperm, (scan_of_perm hperm "A::B =>=").1.trans htokens⟩

end Annotation
end TypeStub
