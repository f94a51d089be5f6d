import TypeStub.Text.Pattern
import TypeStub.Proofs.Annotation.Lexeme

/-!
# The longest name

A name token is the longest name at its place (`name_tokens_longest`).

The scan of a name never goes back, and yet it takes what a search that goes back finds for
the pattern `#\w+|(?:(?:::)?\w+)+`.  This pattern can split a run of word characters in many
ways.  But the first match of a member takes its run to the end, and behind it the next member
begins with `::` or there is none.  So a search that finds one member behind the other comes
to the end of the path, and nothing makes it go back (`takes_pathPattern`).

The scan looks for a token at some places of a text only (`LooksAt`).  A name starts at those
of them at which two or three characters show that a name begins.
-/

namespace TypeStub
namespace Annotation

open TypeStub.Text

namespace Name

/-! ## The pattern of names -/

/-- The pattern `\w+`. -/
def runPattern : Pattern := .repeated (.one isWord)

/-- The pattern `::`. -/
def colonsPattern : Pattern := .seq (.one (· == ':')) (.one (· == ':'))

/-- The pattern `(?:::)?\w+`. -/
def memberPattern : Pattern := .seq (.optional colonsPattern) runPattern

/-- The pattern `(?:(?:::)?\w+)+`. -/
def pathPattern : Pattern := .repeated memberPattern

/-- The pattern `#\w+`. -/
def hashPattern : Pattern := .seq (.one (· == '#')) runPattern

/-- The pattern `#\w+|(?:(?:::)?\w+)+`. -/
def pattern : Pattern := .either hashPattern pathPattern

variable {cs : List Char}

theorem takes_runPattern (cs : List Char) : runPattern.Takes cs (cs.takeWhile isWord) :=
  Pattern.takes_repeated_one isWord cs

theorem first?_runPattern_colon (cs : List Char) : runPattern.first? (':' :: cs) = none := by
  have htakes := takes_runPattern (':' :: cs)
  rw [List.takeWhile_cons_of_neg (by simp [isWord_colon])] at htakes
  exact Pattern.takes_nil_iff.mp htakes

theorem first?_colonsPattern (h : ∀ rest, cs ≠ ':' :: ':' :: rest) :
    colonsPattern.first? cs = none := by
  rw [← Pattern.rests_eq_nil_iff]
  rcases cs with - | ⟨c, - | ⟨d, cs⟩⟩
  · rfl
  · simp [colonsPattern, Pattern.rests]
  · have hcolons : c = ':' → d ≠ ':' := by
      rintro rfl rfl
      exact h cs rfl
    simpa [colonsPattern, Pattern.rests] using hcolons

/-- To leave `::` out is of no use, for no run begins with a colon. -/
theorem first?_memberPattern_colons (cs : List Char) :
    memberPattern.first? (':' :: ':' :: cs) = runPattern.first? cs := by
  have hcolons : colonsPattern.rests (':' :: ':' :: cs) = [cs] := rfl
  rw [memberPattern, Pattern.first?_seq_optional, Pattern.first?_seq_of_rests hcolons,
    first?_runPattern_colon, Option.or_none]

theorem first?_memberPattern (h : ∀ rest, cs ≠ ':' :: ':' :: rest) :
    memberPattern.first? cs = runPattern.first? cs := by
  rw [memberPattern, Pattern.first?_seq_optional,
    Pattern.first?_seq_of_none (first?_colonsPattern h), Option.none_or]

theorem scanPath_colons_eq_nil (h : cs.takeWhile isWord = []) :
    scanPath (':' :: ':' :: cs) = [] := by
  cases cs with
  | nil => simp [scanPath, isWord_colon]
  | cons c rest =>
    by_cases hc : isWord c = true
    · rw [List.takeWhile_cons_of_pos hc] at h
      cases h
    · rw [scanPath, if_neg hc]

theorem scanPath_eq_nil_of_takeWhile (hcolons : ∀ rest, cs ≠ ':' :: ':' :: rest)
    (h : cs.takeWhile isWord = []) : scanPath cs = [] := by
  fun_cases scanPath cs with
  | case1 c rest => exact absurd rfl (hcolons (c :: rest))
  | case2 => rfl
  | case3 c rest _ hc =>
    rw [List.takeWhile_cons_of_pos hc] at h
    cases h
  | case4 => rfl
  | case5 => rfl

/-- The first match of a member is a path of its own.  There is no path where there is no
member. -/
theorem exists_takes_memberPattern (cs : List Char) :
    ∃ taken, memberPattern.Takes cs taken ∧ scanPath taken = taken ∧
      (taken = [] → scanPath cs = []) := by
  have hword (text : List Char) : ∀ c ∈ text.takeWhile isWord, isWord c = true :=
    fun _ => List.mem_takeWhile_imp
  by_cases hcolons : ∃ rest, cs = ':' :: ':' :: rest
  · obtain ⟨cs, rfl⟩ := hcolons
    obtain ⟨rest, htext, hfirst⟩ := takes_runPattern cs
    rw [← first?_memberPattern_colons] at hfirst
    by_cases hrun : cs.takeWhile isWord = []
    · rw [if_pos hrun] at hfirst
      exact ⟨[], Pattern.takes_nil_iff.mpr hfirst, rfl, fun _ => scanPath_colons_eq_nil hrun⟩
    · rw [if_neg hrun] at hfirst
      exact ⟨':' :: ':' :: cs.takeWhile isWord, ⟨rest, by simp [← htext], hfirst⟩,
        scanPath_rooted ⟨hrun, hword cs⟩, nofun⟩
  · have hplain : ∀ rest, cs ≠ ':' :: ':' :: rest := fun rest h => hcolons ⟨rest, h⟩
    obtain ⟨rest, htext, hfirst⟩ := takes_runPattern cs
    rw [← first?_memberPattern hplain] at hfirst
    exact ⟨cs.takeWhile isWord, ⟨rest, htext, hfirst⟩, scanPath_run (hword cs),
      scanPath_eq_nil_of_takeWhile hplain⟩

/-- The search for a path takes what the scan takes. -/
theorem takes_pathPattern (cs : List Char) : pathPattern.Takes cs (scanPath cs) := by
  obtain ⟨taken, htakes, hpath, hempty⟩ := exists_takes_memberPattern cs
  by_cases htaken : taken = []
  · subst htaken
    rw [hempty rfl, Pattern.takes_nil_iff]
    exact Pattern.first?_repeated_of_none (Pattern.takes_nil_iff.mp htakes)
  · obtain ⟨rest, htext, -⟩ := id htakes
    have hshorter : rest.length < cs.length := by
      have hpos := List.length_pos_iff.mpr htaken
      rw [htext, List.length_append]
      omega
    have hrest := takes_pathPattern rest
    subst htext
    rw [scanPath_append hpath]
    exact htakes.repeated htaken hrest
termination_by cs.length

theorem first?_pattern_hash (word : List Char) :
    pattern.first? ('#' :: word) = runPattern.first? word := by
  have hrests : (Pattern.one (· == '#')).rests ('#' :: word) = [word] := rfl
  have hpath := takes_pathPattern ('#' :: word)
  rw [scanPath_eq_nil isWord_hash (by decide), Pattern.takes_nil_iff] at hpath
  rw [pattern, Pattern.first?_either, hashPattern, Pattern.first?_seq_of_rests hrests, hpath,
    Option.or_none]

theorem first?_pattern (h : cs.head? ≠ some '#') : pattern.first? cs = pathPattern.first? cs := by
  have hone : (Pattern.one (· == '#')).first? cs = none := by
    cases cs with
    | nil => rfl
    | cons c cs =>
      have hc : c ≠ '#' := by simpa using h
      simp [Pattern.first?, Pattern.rests, hc]
  rw [pattern, Pattern.first?_either, hashPattern, Pattern.first?_seq_of_none hone,
    Option.none_or]

/-- The search for a name takes what the scan takes. -/
theorem takes_pattern (cs : List Char) : pattern.Takes cs (scan cs) := by
  by_cases hhash : cs.head? = some '#'
  · obtain ⟨word, rfl⟩ := List.head?_eq_some_iff.mp hhash
    obtain ⟨rest, htext, hfirst⟩ := takes_runPattern word
    rw [← first?_pattern_hash] at hfirst
    by_cases hrun : word.takeWhile isWord = []
    · rw [if_pos hrun] at hfirst
      rw [scan_hash_eq_nil hrun]
      exact Pattern.takes_nil_iff.mpr hfirst
    · rw [if_neg hrun] at hfirst
      rw [scan_hash hrun]
      exact ⟨rest, by simp [← htext], hfirst⟩
  · obtain ⟨rest, htext, hfirst⟩ := takes_pathPattern cs
    rw [← first?_pattern hhash] at hfirst
    rw [scan_of_head?_ne hhash]
    exact ⟨rest, htext, hfirst⟩

/-! ## Longest names -/

/-- The name stands at the front of the text, and no longer name does. -/
structure IsLongest (cs name : List Char) : Prop where
  isName : IsName name
  atFront : name <+: cs
  length_le : ∀ other, IsName other → other <+: cs → other.length ≤ name.length

theorem isLongest_scan (h : scan cs ≠ []) : IsLongest cs (scan cs) where
  isName := isName_scan h
  atFront := scan_prefix cs
  length_le := by
    rintro other hother ⟨rest, rfl⟩
    rw [scan_append hother.ne_nil (scan_of_isName hother), List.length_append]
    exact Nat.le_add_right _ _

/-- What shows that a name begins. -/
inductive Begins : List Char → Prop
  | word {c : Char} {cs : List Char} : isWord c = true → Begins (c :: cs)
  | hash {c : Char} {cs : List Char} : isWord c = true → Begins ('#' :: c :: cs)
  | rooted {c : Char} {cs : List Char} : isWord c = true → Begins (':' :: ':' :: c :: cs)

theorem begins_of_scanPath (h : scanPath cs ≠ []) : Begins cs := by
  fun_cases scanPath cs with
  | case1 c rest hc => exact .rooted hc
  | case2 c rest hc => exact absurd (by rw [scanPath, if_neg hc]) h
  | case3 c rest _ hc => exact .word hc
  | case4 c rest hother hc => exact absurd (by rw [scanPath, if_neg hc]; exact hother) h
  | case5 => exact absurd rfl h

theorem begins_of_scan (h : scan cs ≠ []) : Begins cs := by
  by_cases hhash : cs.head? = some '#'
  · obtain ⟨word, rfl⟩ := List.head?_eq_some_iff.mp hhash
    cases word with
    | nil => exact absurd rfl h
    | cons c cs =>
      by_cases hc : isWord c = true
      · exact .hash hc
      · exact absurd (scan_hash_eq_nil (List.takeWhile_cons_of_neg hc)) h
  · rw [scan_of_head?_ne hhash] at h
    exact begins_of_scanPath h

theorem scan_ne_nil_iff : scan cs ≠ [] ↔ Begins cs := by
  refine ⟨begins_of_scan, fun h => ?_⟩
  cases h with
  | word hc => exact scan_ne_nil_of_isWord hc _
  | hash hc =>
    rw [scan_hash]
    · exact List.cons_ne_nil _ _
    · rw [List.takeWhile_cons_of_pos hc]
      exact List.cons_ne_nil _ _
  | rooted hc =>
    rw [scan_of_head?_ne (by simp), scanPath_colons hc]
    exact List.cons_ne_nil _ _

end Name

/-! ## Places of a text -/

/-- The scan of a text looks for a token here, at the beginning and behind each token or blank. -/
inductive LooksAt (text : String) : Nat → Prop
  | start : LooksAt text 0
  | behind {position : Nat} {kind : TokenKind} {lexeme : List Char} : LooksAt text position →
    firstLexeme? TokenKind.all (text.toList.drop position) = some (kind, lexeme) →
      kind ≠ .closing .finish → LooksAt text (position + lexeme.length)

variable {text : String}

open TokenStream

/-- A token stands where the scan looked for one, and is what it found there. -/
theorem LooksAt.of_mem_scan {position : Nat} {cs : List Char} (h : LooksAt text position)
    (hcs : text.toList.drop position = cs) {token : Token}
    (htoken : token ∈ (scan TokenKind.all position cs).tokens) :
    LooksAt text token.position ∧
      token.kind.lexeme? (text.toList.drop token.position) = some token.lexeme.toList := by
  cases hfound : firstLexeme? TokenKind.all cs with
  | none =>
    cases cs with
    | nil =>
      have hfinish : firstLexeme? TokenKind.all [] = some (.closing .finish, []) :=
        firstLexeme?_all rfl
      rw [hfinish] at hfound
      cases hfound
    | cons c cs =>
      rw [scan_of_none hfound] at htoken
      exact absurd htoken List.not_mem_nil
  | some found =>
    obtain ⟨kind, lexeme⟩ := found
    have hlexeme := (lexeme?_of_firstLexeme? hfound).2
    by_cases hfinish : kind = .closing .finish
    · subst hfinish
      rw [scan_of_finish hfound] at htoken
      obtain rfl := List.mem_singleton.mp htoken
      refine ⟨h, ?_⟩
      cases cs with
      | nil => exact hcs ▸ rfl
      | cons => cases hlexeme
    · have hshorter := length_sub_lt_of_firstLexeme? hfound hfinish
      have hnext : LooksAt text (position + lexeme.length) := h.behind (hcs ▸ hfound) hfinish
      have hdrop : text.toList.drop (position + lexeme.length) = cs.drop lexeme.length := by
        rw [← hcs, List.drop_drop]
      by_cases hblank : kind = .blank
      · subst hblank
        rw [scan_of_blank hfound] at htoken
        exact hnext.of_mem_scan hdrop htoken
      · rw [scan_of_some hfound hfinish hblank] at htoken
        rcases List.mem_cons.mp htoken with rfl | htoken
        · refine ⟨h, ?_⟩
          rw [hcs, String.toList_ofList]
          exact hlexeme
        · exact hnext.of_mem_scan hdrop htoken
termination_by cs.length

/-- What is found from such a place on is the rest of the whole stream. -/
theorem LooksAt.suffix {position : Nat} (h : LooksAt text position) :
    (scan TokenKind.all position (text.toList.drop position)).tokens <:+
      (tokenize text).tokens := by
  induction h with
  | start => exact List.suffix_refl _
  | @behind position kind lexeme _ hfound hfinish ih =>
    refine List.IsSuffix.trans ?_ ih
    rw [← List.drop_drop]
    by_cases hblank : kind = .blank
    · subst hblank
      exact ⟨[], congrArg TokenStream.tokens (scan_of_blank hfound position).symm⟩
    · rw [scan_of_some hfound hfinish hblank]
      exact List.suffix_cons _ _

theorem nonempty?_eq (cs : List Char) : nonempty? cs = if cs = [] then none else some cs := by
  cases cs <;> rfl

theorem LooksAt.exists_name {position : Nat} (h : LooksAt text position)
    (hne : Name.scan (text.toList.drop position) ≠ []) :
    ∃ token ∈ (tokenize text).tokens, token.kind = .name ∧ token.position = position := by
  have hlexeme : TokenKind.name.lexeme? (text.toList.drop position) =
      some (Name.scan (text.toList.drop position)) := by
    rw [TokenKind.lexeme?, nonempty?_eq, if_neg hne]
  have hsuffix := h.suffix
  rw [scan_of_some (firstLexeme?_all hlexeme) (by decide) (by decide)] at hsuffix
  exact ⟨_, hsuffix.subset List.mem_cons_self, rfl, rfl⟩

/-- A name token is the longest name at its place, and the match of the pattern of names there.
Of any text the search for a path or a name takes what the scan takes, without going back.  Of the
places at which the scan of a text looks for a token, names start at those at which the text begins
with a word character, with `#` and a word character, or with `::` and a word character. -/
theorem name_tokens_longest (text : String) :
    (∀ token ∈ (tokenize text).tokens, token.kind = .name →
        Name.IsLongest (text.toList.drop token.position) token.lexeme.toList ∧
          Name.pattern.match? (text.toList.drop token.position) = some token.lexeme.toList) ∧
      (∀ cs, Name.pathPattern.match? cs = nonempty? (Name.scanPath cs) ∧
        Name.pattern.match? cs = nonempty? (Name.scan cs)) ∧
      ∀ position, (∃ token ∈ (tokenize text).tokens,
          token.kind = .name ∧ token.position = position) ↔
        LooksAt text position ∧ Name.Begins (text.toList.drop position) := by
  have hplace : ∀ token ∈ (tokenize text).tokens, token.kind = .name →
      LooksAt text token.position ∧
        nonempty? (Name.scan (text.toList.drop token.position)) = some token.lexeme.toList := by
    intro token htoken hname
    obtain ⟨hlooks, hlexeme⟩ := LooksAt.start.of_mem_scan List.drop_zero htoken
    rw [hname, TokenKind.lexeme?] at hlexeme
    exact ⟨hlooks, hlexeme⟩
  have hmatch : ∀ cs, Name.pattern.match? cs = nonempty? (Name.scan cs) := by
    intro cs
    rw [(Name.takes_pattern cs).match?_eq, nonempty?_eq]
  refine ⟨fun token htoken hname => ?_, fun cs => ⟨?_, hmatch cs⟩, fun position => ⟨?_, ?_⟩⟩
  · obtain ⟨-, hlexeme⟩ := hplace token htoken hname
    obtain ⟨hscan, hne⟩ := eq_of_nonempty?_eq_some hlexeme
    refine ⟨?_, (hmatch _).trans hlexeme⟩
    rw [← hscan] at hne ⊢
    exact Name.isLongest_scan hne
  · rw [(Name.takes_pathPattern cs).match?_eq, nonempty?_eq]
  · rintro ⟨token, htoken, hname, rfl⟩
    obtain ⟨hlooks, hlexeme⟩ := hplace token htoken hname
    obtain ⟨hscan, hne⟩ := eq_of_nonempty?_eq_some hlexeme
    exact ⟨hlooks, Name.scan_ne_nil_iff.mp (hscan ▸ hne)⟩
  · rintro ⟨hlooks, hbegins⟩
    exact hlooks.exists_name (Name.scan_ne_nil_iff.mpr hbegins)

/-- Behind `#a` begins a name of its own, which does not take the last two colons. -/
theorem name_tokens_longest_of_hash :
    tokenize "#a::B::" = ⟨[⟨.name, "#a", 0⟩, ⟨.name, "::B", 2⟩], .invalid ':' 5⟩ ∧
      Name.IsLongest ("#a::B::".toList.drop 0) "#a".toList ∧
      Name.IsLongest ("#a::B::".toList.drop 2) "::B".toList ∧
      LooksAt "#a::B::" 2 ∧ Name.Begins ("#a::B::".toList.drop 2) := by
  have htokens : tokenize "#a::B::" =
      ⟨[⟨.name, "#a", 0⟩, ⟨.name, "::B", 2⟩], .invalid ':' 5⟩ := by
    cbv
  obtain ⟨hlongest, -, hstarts⟩ := name_tokens_longest "#a::B::"
  rw [htokens] at hlongest hstarts
  have hsecond : (⟨.name, "::B", 2⟩ : Token) ∈ [⟨.name, "#a", 0⟩, ⟨.name, "::B", 2⟩] :=
    List.mem_cons_of_mem _ List.mem_cons_self
  have hplace := (hstarts 2).mp ⟨_, hsecond, rfl, rfl⟩
  exact ⟨htokens, (hlongest _ List.mem_cons_self rfl).1, (hlongest _ hsecond rfl).1, hplace⟩

end Annotation
end TypeStub
