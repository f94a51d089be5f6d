import TypeStub.Annotation.TokenStream
import TypeStub.Proofs.Annotation.Name

/-!
# Lexemes at the front of a text

The first character of a text decides which kind of token may stand there, so no two
kinds have a lexeme at the same place and the order of the table does not matter.
Only a name looks at the text behind its lexeme.

The last section restates the scan by what stands at the front of the text: nothing,
a blank, a lexeme, or a character of no token.
-/

namespace TypeStub

namespace Text

theorem isWord_eq_false_of_isBlank {c : Char} (h : isBlank c = true) : isWord c = false := by
  have hapart : ∀ range ∈ blankRanges, ∀ n ∈ List.range' range.1 (range.2 + 1 - range.1),
      covers wordRanges n = false := by
    decide +kernel
  obtain ⟨range, hrange, hlow, hhigh⟩ := (covers_eq_true_iff ascendFrom_blankRanges c.toNat).mp h
  exact hapart range hrange c.toNat (List.mem_range'_1.mpr ⟨hlow, by omega⟩)

end Text

namespace Annotation

open TypeStub.Text

def marks : List (Char × TokenKind) :=
  [('<', .opening .angle), ('>', .closing .angle), ('(', .opening .paren), (')', .closing .paren),
    ('{', .opening .brace), ('}', .closing .brace), ('=', .closing .arrow), (',', .separator),
    (';', .separator)]

/-- The one kind of token that may stand at the front of a text. -/
def TokenKind.ofFront : List Char → TokenKind
  | [] => .closing .finish
  | c :: _ => (marks.lookup c).getD (if isBlank c then .blank else .name)

theorem lookup_marks_eq_none {c : Char}
    (h : isWord c = true ∨ isBlank c = true ∨ c = ':' ∨ c = '#') : marks.lookup c = none := by
  have hmarks : ∀ mark ∈ marks, isWord mark.1 = false ∧ isBlank mark.1 = false ∧
      mark.1 ≠ ':' ∧ mark.1 ≠ '#' := by
    decide +kernel
  rw [List.lookup_eq_none_iff]
  intro mark hmark
  obtain ⟨hword, hblank, hcolon, hhash⟩ := hmarks mark hmark
  rw [bne_iff_ne]
  intro heq
  subst heq
  simp_all

theorem Name.head_of_scan {cs : List Char} (h : Name.scan cs ≠ []) :
    ∃ c rest, cs = c :: rest ∧ (isWord c = true ∨ c = ':' ∨ c = '#') := by
  rcases cs with - | ⟨c, rest⟩
  · exact absurd rfl h
  refine ⟨c, rest, rfl, ?_⟩
  by_contra hc
  simp only [not_or, Bool.not_eq_true] at hc
  obtain ⟨hword, hcolon, hhash⟩ := hc
  refine h ?_
  rw [Name.scan_of_head?_ne (by simpa using hhash), Name.scanPath_eq_nil hword hcolon]

theorem TokenKind.ofFront_of_lexeme? {kind : TokenKind} {cs lexeme : List Char}
    (h : kind.lexeme? cs = some lexeme) : TokenKind.ofFront cs = kind := by
  fun_cases TokenKind.lexeme? kind cs
  case case9 c rest hc =>
    rw [Bool.or_eq_true, decide_eq_true_eq, decide_eq_true_eq] at hc
    rcases hc with rfl | rfl <;> rfl
  case case10 => simp [TokenKind.lexeme?, *] at h
  case case11 =>
    obtain ⟨hscan, hne⟩ := eq_of_nonempty?_eq_some h
    obtain ⟨c, rest, rfl, hc⟩ := Name.head_of_scan (hscan ▸ hne)
    have hblank : isBlank c = false := by
      by_contra hblank
      rw [Bool.not_eq_false] at hblank
      rcases hc with hword | rfl | rfl
      · rw [isWord_eq_false_of_isBlank hblank] at hword
        cases hword
      · exact absurd hblank (by decide)
      · exact absurd hblank (by decide)
    have hnone : marks.lookup c = none := lookup_marks_eq_none (by tauto)
    simp [TokenKind.ofFront, hnone, hblank]
  case case12 =>
    obtain ⟨htake, hne⟩ := eq_of_nonempty?_eq_some h
    rcases cs with - | ⟨c, rest⟩
    · exact absurd htake.symm hne
    have hblank : isBlank c = true := by
      by_contra hblank
      rw [List.takeWhile_cons_of_neg hblank] at htake
      exact hne htake.symm
    have hnone : marks.lookup c = none := lookup_marks_eq_none (by tauto)
    simp [TokenKind.ofFront, hnone, hblank]
  case case13 => simp [TokenKind.lexeme?, *] at h
  all_goals rfl

theorem lexeme?_unique {kind other : TokenKind} {cs lexeme lexeme' : List Char}
    (h : kind.lexeme? cs = some lexeme) (h' : other.lexeme? cs = some lexeme') :
    kind = other ∧ lexeme = lexeme' := by
  have hkind : kind = other := by
    rw [← TokenKind.ofFront_of_lexeme? h, TokenKind.ofFront_of_lexeme? h']
  subst hkind
  exact ⟨rfl, Option.some.inj (h.symm.trans h')⟩

/-- The order of the table does not matter. -/
theorem firstLexeme?_eq_some_iff {table : List TokenKind} {cs lexeme : List Char}
    {kind : TokenKind} :
    firstLexeme? table cs = some (kind, lexeme) ↔
      kind ∈ table ∧ kind.lexeme? cs = some lexeme := by
  refine ⟨lexeme?_of_firstLexeme?, fun ⟨hmem, hlexeme⟩ => ?_⟩
  cases hfirst : firstLexeme? table cs with
  | none =>
    rw [firstLexeme?, List.findSome?_eq_none_iff] at hfirst
    have := hfirst kind hmem
    simp [hlexeme] at this
  | some found =>
    obtain ⟨other, lexeme'⟩ := found
    obtain ⟨rfl, rfl⟩ := lexeme?_unique hlexeme (lexeme?_of_firstLexeme? hfirst).2
    rfl

theorem firstLexeme?_all {kind : TokenKind} {cs lexeme : List Char}
    (h : kind.lexeme? cs = some lexeme) :
    firstLexeme? TokenKind.all cs = some (kind, lexeme) :=
  firstLexeme?_eq_some_iff.mpr ⟨TokenKind.mem_all kind, h⟩

theorem firstLexeme?_all_eq_none {cs : List Char} (h : ∀ kind : TokenKind, kind.lexeme? cs = none) :
    firstLexeme? TokenKind.all cs = none := by
  rw [firstLexeme?, List.findSome?_eq_none_iff]
  intro kind _
  rw [h kind, Option.map_none]

/-! ## The text behind a lexeme -/

/-- A token that is neither a name nor a blank looks at its own characters only. -/
theorem lexeme?_append {kind : TokenKind} {lexeme rest : List Char}
    (h : kind.lexeme? (lexeme ++ rest) = some lexeme) (hname : kind ≠ .name)
    (hblank : kind ≠ .blank) (hfinish : kind ≠ .closing .finish) (behind : List Char) :
    kind.lexeme? (lexeme ++ behind) = some lexeme := by
  generalize hcs : lexeme ++ rest = cs at h
  fun_cases TokenKind.lexeme? kind cs
  case case8 => exact absurd rfl hfinish
  case case9 c rest hc =>
    rw [TokenKind.lexeme?, if_pos hc] at h
    obtain rfl := Option.some.inj h
    exact if_pos hc
  case case10 => simp [TokenKind.lexeme?, *] at h
  case case11 => exact absurd rfl hname
  case case12 => exact absurd rfl hblank
  case case13 => simp [TokenKind.lexeme?, *] at h
  all_goals
    obtain rfl := Option.some.inj h
    rfl

theorem name_lexeme?_iff {name rest : List Char} :
    TokenKind.name.lexeme? (name ++ rest) = some name ↔
      name ≠ [] ∧ Name.scan name = name ∧ Name.continuation name rest = [] := by
  constructor
  · intro h
    obtain ⟨hscan, hne⟩ := eq_of_nonempty?_eq_some h
    exact ⟨hne, (Name.scan_append_eq_iff hne rest).mp hscan⟩
  · intro ⟨hne, hname⟩
    rw [TokenKind.lexeme?, (Name.scan_append_eq_iff hne rest).mpr hname]
    cases name with
    | nil => exact absurd rfl hne
    | cons c cs => rfl

/-- A lexeme keeps its place in front of another text in which no name goes on. -/
theorem lexeme?_congr {kind : TokenKind} {lexeme rest behind : List Char}
    (h : kind.lexeme? (lexeme ++ rest) = some lexeme) (hblank : kind ≠ .blank)
    (hfinish : kind ≠ .closing .finish)
    (hbehind : Name.continuation lexeme rest = [] → Name.continuation lexeme behind = []) :
    kind.lexeme? (lexeme ++ behind) = some lexeme := by
  by_cases hkind : kind = .name
  · subst hkind
    obtain ⟨hne, hscan, hname⟩ := name_lexeme?_iff.mp h
    exact name_lexeme?_iff.mpr ⟨hne, hscan, hbehind hname⟩
  · exact lexeme?_append h hkind hblank hfinish behind

theorem scan_eq_nil_of_name_lexeme? {cs : List Char} (h : TokenKind.name.lexeme? cs = none) :
    Name.scan cs = [] := by
  rw [TokenKind.lexeme?] at h
  by_contra hne
  obtain ⟨c, rest, hscan⟩ := List.exists_cons_of_ne_nil hne
  rw [hscan] at h
  cases h

/-! ## Blanks end every lexeme -/

theorem Name.scanPath_blank {c : Char} (hc : isBlank c = true) (cs : List Char) :
    Name.scanPath (c :: cs) = [] := by
  refine Name.scanPath_eq_nil (isWord_eq_false_of_isBlank hc) ?_ cs
  intro heq
  subst heq
  exact absurd hc (by decide)

theorem Name.scan_ne_nil_of_isWord {c : Char} (hc : isWord c = true) (cs : List Char) :
    Name.scan (c :: cs) ≠ [] := by
  rw [Name.scan_of_head?_ne (by simpa using ne_hash_of_isWord hc), Name.scanPath_cons hc]
  exact List.cons_ne_nil _ _

theorem lexeme?_blank_eq_none {c d : Char} {cs : List Char}
    (h : ∀ kind : TokenKind, kind.lexeme? (d :: cs) = none) (hc : isBlank c = true)
    (ds : List Char) (kind : TokenKind) : kind.lexeme? (d :: c :: ds) = none := by
  have hscan : Name.scan (d :: cs) = [] := scan_eq_nil_of_name_lexeme? (h .name)
  have hname : Name.scan (d :: c :: ds) = [] := by
    by_contra hne
    obtain ⟨_, _, hcons, hd⟩ := Name.head_of_scan hne
    obtain ⟨rfl, rfl⟩ := List.cons.inj hcons
    rcases hd with hword | rfl | rfl
    · exact Name.scan_ne_nil_of_isWord hword cs hscan
    · refine hne ?_
      rw [Name.scan_of_head?_ne (by simp), Name.scanPath_colon]
      intro heq
      subst heq
      exact absurd hc (by decide)
    · refine hne (Name.scan_hash_eq_nil ?_)
      rw [List.takeWhile_cons_of_neg (by simp [isWord_eq_false_of_isBlank hc])]
  have hblank : isBlank d = false := by
    by_contra hd
    rw [Bool.not_eq_false] at hd
    have hnone := h .blank
    rw [TokenKind.lexeme?, List.takeWhile_cons_of_pos hd] at hnone
    cases hnone
  have hmark := h (TokenKind.ofFront [d])
  generalize htext : d :: c :: ds = text
  fun_cases TokenKind.lexeme? kind text
  case case7 =>
    obtain ⟨-, htail⟩ := List.cons.inj htext
    obtain ⟨rfl, -⟩ := List.cons.inj htail
    exact absurd hc (by decide)
  case case8 => cases htext
  case case9 hd =>
    obtain ⟨rfl, -⟩ := List.cons.inj htext
    have hseparator := h .separator
    rw [TokenKind.lexeme?, if_pos hd] at hseparator
    cases hseparator
  case case11 =>
    rw [← htext, hname]
    rfl
  case case12 =>
    rw [← htext, List.takeWhile_cons_of_neg (by simp [hblank])]
    rfl
  case case10 => rfl
  case case13 => rfl
  all_goals
    obtain ⟨rfl, -⟩ := List.cons.inj htext
    cases hmark

end Annotation
end TypeStub
