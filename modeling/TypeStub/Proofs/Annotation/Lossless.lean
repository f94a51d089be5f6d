import TypeStub.Annotation.Cursor
import TypeStub.Proofs.Annotation.Segment

/-!
# What the scan keeps of a text

A text is its tokens and the blanks between them.  `Lossless text start tokens stop`
says so of the part of a text from one place up to another: the tokens stand there in
order, each is the very characters at its place, and nothing but blanks lies between.

The main statement is `tokenize_lossless`.  A stream either comes to the end of its text,
or it keeps all of the text in front of a character at which no pattern of a token
matches.  The patterns are given by `TokenKind.IsLexeme`, which knows nothing of the
order in which they are tried.
-/

namespace TypeStub

namespace Text

/-- The characters of a text from one place up to another. -/
def slice (text : String) (start stop : Nat) : String :=
  String.ofList (text.toList.extract start stop)

theorem toList_slice {text : String} {front cs rest : List Char}
    (h : text.toList = front ++ (cs ++ rest)) :
    (slice text front.length (front.length + cs.length)).toList = cs := by
  rw [slice, String.toList_ofList, List.extract_eq_take_drop, h, List.drop_left,
    Nat.add_sub_cancel_left, List.take_left]

theorem toList_slice_cons {text : String} {front rest : List Char} {c : Char} {stop : Nat}
    (h : text.toList = front ++ c :: rest) (hstop : front.length < stop) :
    (slice text front.length stop).toList = c :: (slice text (front.length + 1) stop).toList := by
  have hrest : text.toList.drop (front.length + 1) = rest := by
    rw [h, List.append_cons]
    exact List.drop_left' (by simp)
  have hlength : stop - front.length = (stop - (front.length + 1)) + 1 := by omega
  rw [slice, slice, String.toList_ofList, String.toList_ofList, List.extract_eq_take_drop,
    List.extract_eq_take_drop, hrest, h, List.drop_left, hlength, List.take_succ_cons]

end Text

namespace Annotation

open TypeStub.Text

/-! ## Patterns -/

/-- The texts that are tokens of a kind.  The end of a text has no characters of its own,
and so no pattern. -/
def TokenKind.IsLexeme : TokenKind → List Char → Prop
  | .opening .angle, cs => cs = ['<']
  | .closing .angle, cs => cs = ['>']
  | .opening .paren, cs => cs = ['(']
  | .closing .paren, cs => cs = [')']
  | .name, cs => IsName cs
  | .separator, cs => cs = [','] ∨ cs = [';']
  | .blank, cs => cs ≠ [] ∧ ∀ c ∈ cs, isBlank c = true
  | .opening .brace, cs => cs = ['{']
  | .closing .arrow, cs => cs = ['=', '>']
  | .closing .brace, cs => cs = ['}']
  | .closing .finish, _ => False

theorem isLexeme_of_lexeme? {kind : TokenKind} {cs lexeme : List Char}
    (h : kind.lexeme? cs = some lexeme) (hfinish : kind ≠ .closing .finish) :
    kind.IsLexeme lexeme := by
  fun_cases TokenKind.lexeme? kind cs
  case case8 => exact absurd rfl hfinish
  case case9 c rest hc =>
    rw [TokenKind.lexeme?, if_pos hc] at h
    obtain rfl := Option.some.inj h
    rw [Bool.or_eq_true, decide_eq_true_eq, decide_eq_true_eq] at hc
    exact hc.imp (congrArg ([·])) (congrArg ([·]))
  case case10 => simp [TokenKind.lexeme?, *] at h
  case case11 =>
    obtain ⟨rfl, hne⟩ := eq_of_nonempty?_eq_some h
    exact Name.isName_scan hne
  case case12 =>
    obtain ⟨rfl, hne⟩ := eq_of_nonempty?_eq_some h
    exact ⟨hne, fun c hc => List.mem_takeWhile_imp hc⟩
  case case13 => simp [TokenKind.lexeme?, *] at h
  all_goals
    obtain rfl := Option.some.inj h
    rfl

theorem Name.scan_ne_nil_of_isPath {path : List Char} (h : IsPath path) (rest : List Char) :
    scan (path ++ rest) ≠ [] := by
  induction h generalizing rest with
  | @run word hword =>
    obtain ⟨c, cs, rfl⟩ := List.exists_cons_of_ne_nil hword.1
    exact scan_ne_nil_of_isWord (hword.2 c List.mem_cons_self) _
  | @rooted word hword =>
    obtain ⟨c, cs, rfl⟩ := List.exists_cons_of_ne_nil hword.1
    simp only [List.cons_append]
    rw [scan_of_head?_ne (by simp), scanPath_colons (hword.2 c List.mem_cons_self)]
    exact List.cons_ne_nil _ _
  | member _ _ ih =>
    rw [List.append_assoc]
    exact ih _

theorem Name.scan_ne_nil_of_isName {name : List Char} (h : IsName name) (rest : List Char) :
    scan (name ++ rest) ≠ [] := by
  cases h with
  | path hpath => exact scan_ne_nil_of_isPath hpath rest
  | @hash word hword =>
    obtain ⟨c, cs, rfl⟩ := List.exists_cons_of_ne_nil hword.1
    have hc : isWord c = true := hword.2 c List.mem_cons_self
    rw [List.cons_append, scan_hash]
    · exact List.cons_ne_nil _ _
    · rw [List.cons_append, List.takeWhile_cons_of_pos hc]
      exact List.cons_ne_nil _ _

/-- Where the pattern of a kind matches, the scan finds a lexeme of this kind. -/
theorem lexeme?_ne_none_of_isLexeme {kind : TokenKind} {lexeme : List Char}
    (h : kind.IsLexeme lexeme) (rest : List Char) : kind.lexeme? (lexeme ++ rest) ≠ none := by
  fun_cases TokenKind.IsLexeme kind lexeme
  case case5 =>
    intro hnone
    exact Name.scan_ne_nil_of_isName h rest (scan_eq_nil_of_name_lexeme? hnone)
  case case6 => rcases h with rfl | rfl <;> exact Option.some_ne_none _
  case case7 =>
    obtain ⟨c, cs, rfl⟩ := List.exists_cons_of_ne_nil h.1
    rw [List.cons_append, TokenKind.lexeme?, List.takeWhile_cons_of_pos (h.2 c List.mem_cons_self)]
    exact Option.some_ne_none _
  case case11 => exact absurd h id
  all_goals
    obtain rfl := h
    exact Option.some_ne_none _

/-! ## Streams -/

/-- The place behind a token. -/
def Token.stop (token : Token) : Nat := token.position + token.lexeme.length

/-- The parts of a text that lie between its tokens, each with its first place and the place
behind it. -/
def gaps (start : Nat) : List Token → Nat → List (Nat × Nat)
  | [], stop => [(start, stop)]
  | token :: tokens, stop => (start, token.position) :: gaps token.stop tokens stop

/-- Nothing but blanks lies in a part of a text. -/
def BlankBetween (text : String) (gap : Nat × Nat) : Prop :=
  gap.1 ≤ gap.2 ∧ ∀ c ∈ (slice text gap.1 gap.2).toList, isBlank c = true

/-- From `start` up to `stop` the text is these tokens with blanks between them. -/
structure Lossless (text : String) (start : Nat) (tokens : List Token) (stop : Nat) : Prop where
  /-- Each token begins behind the beginning of the one in front of it, and in front of
  the end. -/
  increasing : (tokens.map (·.position) ++ [stop]).Pairwise (· < ·)
  /-- Each token is of its kind, and is what stands at its place. -/
  lexemes : ∀ token ∈ tokens, token.kind.IsLexeme token.lexeme.toList ∧
    token.lexeme ≠ "" ∧ token.lexeme = slice text token.position token.stop
  /-- Neither blanks nor the end of the text are among the tokens. -/
  kinds : ∀ token ∈ tokens, token.kind ≠ .blank ∧ token.kind ≠ .closing .finish
  blanks : ∀ gap ∈ gaps start tokens stop, BlankBetween text gap

variable {text : String} {start stop : Nat} {tokens : List Token}

theorem Lossless.le_of_mem (h : Lossless text start tokens stop) {position : Nat}
    (hmem : position ∈ tokens.map (·.position) ++ [stop]) : start ≤ position := by
  obtain ⟨hincreasing, -, -, hblanks⟩ := h
  cases tokens with
  | nil =>
    obtain rfl := List.mem_singleton.mp hmem
    exact (hblanks _ List.mem_cons_self).1
  | cons token tokens =>
    have hfirst : start ≤ token.position := (hblanks _ List.mem_cons_self).1
    rcases List.mem_cons.mp hmem with rfl | hmem
    · exact hfirst
    · exact hfirst.trans (Nat.le_of_lt ((List.pairwise_cons.mp hincreasing).1 position hmem))

theorem Lossless.nil (text : String) (position : Nat) : Lossless text position [] position where
  increasing := List.pairwise_singleton _ _
  lexemes := fun _ hmem => absurd hmem List.not_mem_nil
  kinds := fun _ hmem => absurd hmem List.not_mem_nil
  blanks := by
    intro gap hgap
    obtain rfl := List.mem_singleton.mp hgap
    refine ⟨Nat.le_refl position, ?_⟩
    simp [slice]

/-- A blank in front goes to the first gap. -/
theorem Lossless.blank {front rest : List Char} {c : Char} (hc : isBlank c = true)
    (htext : text.toList = front ++ c :: rest)
    (h : Lossless text (front.length + 1) tokens stop) :
    Lossless text front.length tokens stop := by
  have hfirst : ∀ position, BlankBetween text (front.length + 1, position) →
      BlankBetween text (front.length, position) := by
    intro position ⟨hle, hblank⟩
    refine ⟨Nat.le_of_succ_le hle, ?_⟩
    rw [toList_slice_cons htext hle]
    exact List.forall_mem_cons.mpr ⟨hc, hblank⟩
  refine ⟨h.increasing, h.lexemes, h.kinds, fun gap hgap => ?_⟩
  have hblanks := h.blanks
  cases tokens with
  | nil =>
    obtain rfl := List.mem_singleton.mp hgap
    exact hfirst stop (hblanks _ List.mem_cons_self)
  | cons token tokens =>
    rcases List.mem_cons.mp hgap with rfl | hgap
    · exact hfirst token.position (hblanks _ List.mem_cons_self)
    · exact hblanks gap (List.mem_cons_of_mem _ hgap)

theorem Lossless.lexeme {front lexeme rest : List Char} {kind : TokenKind}
    (hlexeme : kind.IsLexeme lexeme) (hblank : kind ≠ .blank) (hfinish : kind ≠ .closing .finish)
    (hne : lexeme ≠ []) (htext : text.toList = front ++ (lexeme ++ rest))
    (h : Lossless text (front.length + lexeme.length) tokens stop) :
    Lossless text front.length (⟨kind, String.ofList lexeme, front.length⟩ :: tokens) stop := by
  have hstop : (⟨kind, String.ofList lexeme, front.length⟩ : Token).stop =
      front.length + lexeme.length := by
    rw [Token.stop, String.length_ofList]
  have hpos : 0 < lexeme.length := List.length_pos_iff.mpr hne
  refine ⟨List.pairwise_cons.mpr ⟨fun position hmem => ?_, h.increasing⟩, ?_,
    List.forall_mem_cons.mpr ⟨⟨hblank, hfinish⟩, h.kinds⟩, ?_⟩
  · have hle := h.le_of_mem hmem
    show front.length < position
    omega
  · rw [List.forall_mem_cons]
    refine ⟨⟨by rwa [String.toList_ofList], ?_, ?_⟩, h.lexemes⟩
    · rw [ne_eq, ← String.toList_inj, String.toList_ofList]
      exact hne
    · rw [← String.toList_inj, hstop, toList_slice htext, String.toList_ofList]
  · rw [gaps, List.forall_mem_cons, hstop]
    exact ⟨(Lossless.nil text front.length).blanks _ List.mem_cons_self, h.blanks⟩

/-- A segment that is cut into tokens is these tokens. -/
theorem Cuts.lossless {rest cs : List Char} {position : Nat}
    (h : Cuts rest position cs tokens) (front : List Char) (hposition : front.length = position)
    (htext : text.toList = front ++ (cs ++ rest)) :
    Lossless text position tokens (position + cs.length) := by
  induction h generalizing front with
  | nil => exact .nil text _
  | @blank position c cs tokens hc _ ih =>
    subst hposition
    have hrest := ih (front ++ [c]) (by simp) (by simpa using htext)
    rw [List.length_cons, Nat.add_comm cs.length, ← Nat.add_assoc]
    exact .blank hc htext hrest
  | @lexeme position kind lexeme cs tokens hlexeme hblank hfinish _ ih =>
    subst hposition
    have hrest := ih (front ++ lexeme) (by simp) (by simpa using htext)
    rw [List.append_assoc] at htext
    rw [List.length_append, ← Nat.add_assoc]
    exact .lexeme (isLexeme_of_lexeme? hlexeme hfinish) hblank hfinish
      (lexeme?_ne_nil hlexeme hfinish) htext hrest

/-- Nothing of a text is lost in its tokens.  They account for all of it, with the token of the
end as the last, or for all of it up to the first character at which no pattern matches. -/
theorem tokenize_lossless (text : String) :
    (∃ tokens, tokenize text =
        ⟨tokens ++ [⟨.closing .finish, "", text.length⟩], .exhausted⟩ ∧
        Lossless text 0 tokens text.length) ∨
      ∃ tokens c position, tokenize text = ⟨tokens, .invalid c position⟩ ∧
        Lossless text 0 tokens position ∧ position < text.length ∧
        Cursor.failureAtEnd text (.invalid c position) =
          .malformed ⟨⟨.invalidCharacter, slice text position (position + 1), position⟩, text⟩ ∧
        ∀ (kind : TokenKind) (lexeme : List Char), kind.IsLexeme lexeme →
          ¬lexeme <+: text.toList.drop position := by
  rcases exists_cuts_scan 0 text.toList with
    ⟨w, hcuts, hscan⟩ | ⟨w, segment, c, rest, htext, hcuts, hnone, hscan⟩
  · have hlossless : Lossless text 0 w (0 + text.toList.length) :=
      hcuts.lossless [] rfl (by simp)
    rw [Nat.zero_add, String.length_toList] at hlossless hscan
    exact .inl ⟨w, hscan, hlossless⟩
  · have hlossless : Lossless text 0 w (0 + segment.length) := hcuts.lossless [] rfl htext
    rw [Nat.zero_add] at hlossless hscan
    refine .inr ⟨w, c, segment.length, hscan, hlossless, ?_, ?_, ?_⟩
    · rw [← String.length_toList, htext, List.length_append, List.length_cons]
      omega
    · have hslice : slice text segment.length (segment.length + 1) = c.toString := by
        have hchar : c.toString.toList = [c] := String.toList_ofList
        rw [← String.toList_inj, hchar]
        exact @toList_slice _ _ [c] _ htext
      rw [hslice]
      rfl
    · intro kind lexeme hlexeme hmatch
      rw [htext, List.drop_left] at hmatch
      obtain ⟨behind, hbehind⟩ := hmatch
      exact lexeme?_ne_none_of_isLexeme hlexeme behind (hbehind ▸ hnone kind)

end Annotation
end TypeStub
