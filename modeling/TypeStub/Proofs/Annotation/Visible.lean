import Mathlib.Data.List.Forall2
import TypeStub.Proofs.Annotation.FirstFault

/-!
# What a reader sees of a text

A reader looks at the kinds of tokens and at names, and at nothing else of a stream:
neither at places nor at the way in which a separator is written.  `TokenStream.visible` is
what it looks at.  Where two texts have it in common, they are read alike
(`sameOutcome_of_visible`): into the same nodes, or up to the same token.

Two scans of a text at different places have it in common (`visible_scan_position`), and so
have the scans of two texts with other separators (`visible_scan_of_interchangeable`).
-/

namespace TypeStub
namespace Annotation

open TypeStub.Text

/-! ## Streams -/

def Token.visible (token : Token) : TokenKind × Option String :=
  (token.kind, if token.kind = .name then some token.lexeme else none)

def StreamEnd.char? : StreamEnd → Option Char
  | .exhausted => none
  | .invalid c _ => some c

namespace TokenStream

/-- The kinds of the tokens, with the names among them, and the character of no token. -/
def visible (stream : TokenStream) : List (TokenKind × Option String) × Option Char :=
  (stream.tokens.map Token.visible, stream.ending.char?)

theorem visible_cons (token : Token) (stream : TokenStream) :
    (stream.cons token).visible = (token.visible :: stream.visible.1, stream.visible.2) := rfl

theorem visible_prepend (tokens : List Token) (stream : TokenStream) :
    (stream.prepend tokens).visible =
      (tokens.map Token.visible ++ stream.visible.1, stream.visible.2) := by
  rw [visible, tokens_prepend, List.map_append]
  rfl

/-- The tokens of a stream and the character of none behind them, each with its place. -/
def places (stream : TokenStream) : List (String × Nat) :=
  stream.tokens.map (fun token => (token.lexeme, token.position)) ++
    match stream.ending with
    | .exhausted => []
    | .invalid c position => [(c.toString, position)]

variable {stream other : TokenStream}

theorem places_of_token {token : Token} {index : Nat} (h : stream.tokens[index]? = some token) :
    stream.places[index]? = some (token.lexeme, token.position) := by
  obtain ⟨hindex, -⟩ := List.getElem?_eq_some_iff.mp h
  rw [places, List.getElem?_append_left (by simpa using hindex), List.getElem?_map, h]
  rfl

theorem places_of_invalid {c : Char} {position : Nat} (h : stream.ending = .invalid c position) :
    stream.places[stream.tokens.length]? = some (c.toString, position) := by
  rw [places, h, List.getElem?_append_right (by simp)]
  simp

end TokenStream

/-! ## Readers -/

section Reading

variable {goal : TokenKind} {text other : String} {ending ending' : StreamEnd}
  {tokens others : List Token} {token token' : Token}

theorem Reader.step_of_visible (h : token.visible = token'.visible) (reader : Reader) :
    reader.step goal token = reader.step goal token' := by
  obtain ⟨hkind, hname⟩ := Prod.mk.inj h
  rw [← hkind] at hname
  rw [step, step, ← hkind]
  cases htoken : token.kind with
  | name =>
    rw [if_pos htoken, if_pos htoken] at hname
    rw [Option.some.inj hname]
  | _ => rfl

/-- Two runs, over the tokens of two texts, have come to the same. -/
inductive Cursor.Agree (text other : String) (tokens others : List Token)
    (ending ending' : StreamEnd) :
    Except ReadFailure (List TypeNode) → Except ReadFailure (List TypeNode) → Prop
  | accepted {nodes : List TypeNode} :
    Agree text other tokens others ending ending' (.ok nodes) (.ok nodes)
  | stopped (index : Nat) {token token' : Token} {reason : Stop} :
    tokens[index]? = some token → others[index]? = some token' →
      Agree text other tokens others ending ending' (.error (failureAt text token reason))
        (.error (failureAt other token' reason))
  | ended : Agree text other tokens others ending ending' (.error (failureAtEnd text ending))
      (.error (failureAtEnd other ending'))

theorem Cursor.Agree.cons {result result' : Except ReadFailure (List TypeNode)}
    (h : Agree text other tokens others ending ending' result result') :
    Agree text other (token :: tokens) (token' :: others) ending ending' result result' := by
  cases h with
  | accepted => exact .accepted
  | stopped index htoken htoken' => exact .stopped (index + 1) htoken htoken'
  | ended => exact .ended

theorem Cursor.agree_run (h : tokens.map Token.visible = others.map Token.visible)
    (reader : Reader) :
    Agree text other tokens others ending ending' (run goal text ending reader tokens).1
      (run goal other ending' reader others).1 := by
  induction tokens generalizing others reader with
  | nil =>
    obtain rfl := List.map_eq_nil_iff.mp h.symm
    exact .ended
  | cons token tokens ih =>
    obtain ⟨token', others, rfl, htoken, hothers⟩ := List.map_eq_cons_iff.mp h.symm
    rw [run, run, Reader.step_of_visible htoken]
    cases reader.step goal token with
    | reading next => exact (ih hothers.symm next).cons
    | finished nodes => exact .accepted
    | stopped reason => exact .stopped 0 rfl rfl

theorem Cursor.run_eq_ok_of_visible {reader : Reader} {nodes : List TypeNode}
    (h : tokens.map Token.visible = others.map Token.visible)
    (hok : (run goal text ending reader tokens).1 = .ok nodes) :
    (run goal other ending' reader others).1 = .ok nodes := by
  have hagree : Agree text other tokens others ending ending'
      (run goal text ending reader tokens).1 (run goal other ending' reader others).1 :=
    agree_run h reader
  rw [hok] at hagree
  generalize (run goal other ending' reader others).1 = result at hagree ⊢
  cases hagree
  rfl

theorem parse_eq_ok_of_visible {nodes : List TypeNode}
    (h : (tokenize text).visible = (tokenize other).visible) (hparse : parse text = .ok nodes) :
    parse other = .ok nodes :=
  Cursor.run_eq_ok_of_visible (congrArg Prod.fst h) hparse

/-- The texts are read into the same nodes, or both are malformed: for the same cause, and at
tokens, or at characters of no token, that are the same in the order of their streams. -/
inductive SameOutcome (text other : String) : Prop
  | accepted {nodes : List TypeNode} :
    parse text = .ok nodes → parse other = .ok nodes → SameOutcome text other
  | rejected {fault fault' : Fault} {index : Nat} :
    parse text = .error (.malformed ⟨fault, text⟩) →
      parse other = .error (.malformed ⟨fault', other⟩) → fault.cause = fault'.cause →
      (tokenize text).places[index]? = some (fault.lexeme, fault.position) →
      (tokenize other).places[index]? = some (fault'.lexeme, fault'.position) →
      SameOutcome text other

theorem sameOutcome_of_visible (h : (tokenize text).visible = (tokenize other).visible) :
    SameOutcome text other := by
  obtain ⟨htokens, hending⟩ := Prod.mk.inj h
  have hagree : Cursor.Agree text other (tokenize text).tokens (tokenize other).tokens
      (tokenize text).ending (tokenize other).ending (parse text) (parse other) :=
    Cursor.agree_run htokens .start
  generalize hresult : parse text = result at hagree
  generalize hresult' : parse other = result' at hagree
  cases hagree with
  | accepted => exact .accepted hresult hresult'
  | @stopped _ _ _ reason htoken htoken' =>
    cases reason with
    | fault cause =>
      exact .rejected hresult hresult' rfl (TokenStream.places_of_token htoken)
        (TokenStream.places_of_token htoken')
    | notTerminator kind =>
      obtain ⟨error, hmalformed⟩ := Reader.exists_malformed hresult
      cases hmalformed
  | ended =>
    have hlength : (tokenize text).tokens.length = (tokenize other).tokens.length := by
      simpa using congrArg List.length htokens
    cases hend : (tokenize text).ending with
    | exhausted =>
      rw [hend] at hresult
      obtain ⟨error, hmalformed⟩ := Reader.exists_malformed hresult
      cases hmalformed
    | invalid c position =>
      rw [hend] at hresult hending
      cases hend' : (tokenize other).ending with
      | exhausted =>
        rw [hend'] at hending
        cases hending
      | invalid c' position' =>
        rw [hend'] at hresult' hending
        have hplace := TokenStream.places_of_invalid hend
        rw [hlength] at hplace
        exact .rejected hresult hresult' rfl hplace (TokenStream.places_of_invalid hend')

end Reading

/-! ## Scans at other places -/

open TokenStream

theorem visible_scan_position (cs : List Char) (position position' : Nat) :
    (scan TokenKind.all position cs).visible = (scan TokenKind.all position' cs).visible := by
  induction cs using scan_induction generalizing position position' with
  | nil =>
    rw [scan_nil, scan_nil]
    rfl
  | blank c cs hc ih =>
    rw [scan_blank hc, scan_blank hc]
    exact ih _ _
  | lexeme kind c cs rest hlexeme _ hblank hfinish ih =>
    rw [scan_lexeme hlexeme hblank hfinish, scan_lexeme hlexeme hblank hfinish, visible_cons,
      visible_cons, ih _ (position' + (c :: cs).length)]
    rfl
  | invalid c cs hnone =>
    rw [scan_invalid hnone, scan_invalid hnone]
    rfl

/-! ## Other separators -/

/-- The characters are the same or both of them separators. -/
def Interchangeable (c d : Char) : Prop := c = d ∨ (c = ',' ∨ c = ';') ∧ (d = ',' ∨ d = ';')

theorem Interchangeable.symm {c d : Char} (h : Interchangeable c d) : Interchangeable d c :=
  h.imp Eq.symm And.symm

theorem Interchangeable.eq {c d : Char} (h : Interchangeable c d) (hcomma : c ≠ ',')
    (hsemicolon : c ≠ ';') : c = d := by
  rcases h with heq | ⟨hc | hc, -⟩
  · exact heq
  · exact absurd hc hcomma
  · exact absurd hc hsemicolon

/-- A class of characters that holds no separator does not tell them apart. -/
theorem Interchangeable.class_eq {c d : Char} (h : Interchangeable c d) {p : Char → Bool}
    (hcomma : p ',' = false) (hsemicolon : p ';' = false) : p c = p d := by
  rcases h with rfl | ⟨rfl | rfl, rfl | rfl⟩
  · rfl
  · rfl
  · rw [hcomma, hsemicolon]
  · rw [hcomma, hsemicolon]
  · rfl

theorem Interchangeable.eq_of_class {c d : Char} (h : Interchangeable c d) {p : Char → Bool}
    (hcomma : p ',' = false) (hsemicolon : p ';' = false) (hc : p c = true) : c = d := by
  refine h.eq ?_ ?_
  · rintro rfl
    simp [hcomma] at hc
  · rintro rfl
    simp [hsemicolon] at hc

variable {cs ds : List Char}

theorem takeWhile_of_interchangeable {p : Char → Bool} (hcomma : p ',' = false)
    (hsemicolon : p ';' = false) (h : List.Forall₂ Interchangeable cs ds) :
    cs.takeWhile p = ds.takeWhile p := by
  induction h with
  | nil => rfl
  | @cons c d cs ds hd _ ih =>
    by_cases hc : p c = true
    · obtain rfl := hd.eq_of_class hcomma hsemicolon hc
      rw [List.takeWhile_cons_of_pos hc, List.takeWhile_cons_of_pos hc, ih]
    · have hp := hd.class_eq hcomma hsemicolon
      rw [List.takeWhile_cons_of_neg hc, List.takeWhile_cons_of_neg (hp ▸ hc)]

theorem Interchangeable.isWord_eq {c d : Char} (h : Interchangeable c d) : isWord c = isWord d :=
  h.class_eq (by decide +kernel) (by decide +kernel)

theorem Interchangeable.eq_colon {d : Char} (h : Interchangeable ':' d) : d = ':' :=
  (h.eq (by decide) (by decide)).symm

theorem Interchangeable.eq_of_isWord {c d : Char} (h : Interchangeable c d)
    (hc : isWord c = true) : d = c :=
  (h.eq_of_class (by decide +kernel) (by decide +kernel) hc).symm

theorem scanPath_of_interchangeable (h : List.Forall₂ Interchangeable cs ds) :
    Name.scanPath cs = Name.scanPath ds := by
  fun_induction Name.scanPath cs generalizing ds with
  | case1 c rest hc ih =>
    obtain - | ⟨hfirst, - | ⟨hsecond, - | ⟨hd, hrest⟩⟩⟩ := h
    obtain rfl := hfirst.eq_colon
    obtain rfl := hsecond.eq_colon
    obtain rfl := hd.eq_of_isWord hc
    rw [Name.scanPath_colons hc, ih hrest]
  | case2 c rest hc =>
    obtain - | ⟨hfirst, - | ⟨hsecond, - | ⟨hd, hrest⟩⟩⟩ := h
    obtain rfl := hfirst.eq_colon
    obtain rfl := hsecond.eq_colon
    rw [Name.scanPath, if_neg (hd.isWord_eq ▸ hc)]
  | case3 c rest hform hc ih =>
    obtain - | ⟨hd, hrest⟩ := h
    obtain rfl := hd.eq_of_isWord hc
    rw [Name.scanPath_cons hc, ih hrest]
  | case4 c rest hform hc =>
    obtain - | ⟨hd, hrest⟩ := h
    rw [Name.scanPath, if_neg (hd.isWord_eq ▸ hc)]
    -- Only two colons in both texts could lead to a path.
    rintro e behind rfl rfl
    obtain - | ⟨hsecond, - | ⟨he, hbehind⟩⟩ := hrest
    obtain rfl := hsecond.symm.eq_colon
    exact hform _ _ hd.symm.eq_colon rfl
  | case5 =>
    cases h
    rfl

theorem scan_of_interchangeable (h : List.Forall₂ Interchangeable cs ds) :
    Name.scan cs = Name.scan ds := by
  cases h with
  | nil => rfl
  | @cons c d cs ds hd hrest =>
    by_cases hhash : c = '#'
    · subst hhash
      obtain rfl := hd.eq (by decide) (by decide)
      have hword : cs.takeWhile isWord = ds.takeWhile isWord :=
        takeWhile_of_interchangeable (by decide +kernel) (by decide +kernel) hrest
      rw [Name.scan, Name.scan, hword]
    · have hhash' : d ≠ '#' := by
        rintro rfl
        exact hhash (hd.symm.eq (by decide) (by decide)).symm
      rw [Name.scan_of_head?_ne (by simpa using hhash), Name.scan_of_head?_ne (by simpa using hhash'),
        scanPath_of_interchangeable (.cons hd hrest)]

/-- Either text has the lexeme of the other, up to the way in which a separator is written. -/
theorem lexeme?_of_interchangeable (h : List.Forall₂ Interchangeable cs ds) {kind : TokenKind}
    {lexeme : List Char} (hlexeme : kind.lexeme? cs = some lexeme) :
    ∃ lexeme', kind.lexeme? ds = some lexeme' ∧ lexeme.length = lexeme'.length ∧
      (kind = .name → lexeme = lexeme') := by
  fun_cases TokenKind.lexeme? kind cs
  case case9 c rest hc =>
    rw [TokenKind.lexeme?, if_pos hc] at hlexeme
    obtain rfl := Option.some.inj hlexeme
    obtain - | ⟨hd, hrest⟩ := h
    refine ⟨_, if_pos ?_, rfl, fun hkind => absurd hkind (by decide)⟩
    rw [Bool.or_eq_true, decide_eq_true_eq, decide_eq_true_eq] at hc ⊢
    rcases hd with rfl | ⟨-, hd⟩
    · exact hc
    · exact hd
  case case10 => simp [TokenKind.lexeme?, *] at hlexeme
  case case11 =>
    rw [TokenKind.lexeme?, scan_of_interchangeable h] at hlexeme
    exact ⟨lexeme, hlexeme, rfl, fun _ => rfl⟩
  case case12 =>
    rw [TokenKind.lexeme?,
      takeWhile_of_interchangeable (by decide +kernel) (by decide +kernel) h] at hlexeme
    exact ⟨lexeme, hlexeme, rfl, fun _ => rfl⟩
  case case13 => simp [TokenKind.lexeme?, *] at hlexeme
  case case8 =>
    cases h
    exact ⟨_, hlexeme, rfl, fun _ => rfl⟩
  case case7 =>
    obtain - | ⟨hfirst, - | ⟨hsecond, hrest⟩⟩ := h
    obtain rfl := hfirst.eq (by decide) (by decide)
    obtain rfl := hsecond.eq (by decide) (by decide)
    exact ⟨_, rfl, congrArg List.length (Option.some.inj hlexeme).symm,
      fun hkind => absurd hkind (by decide)⟩
  all_goals
    obtain - | ⟨hfirst, hrest⟩ := h
    obtain rfl := hfirst.eq (by decide) (by decide)
    exact ⟨_, rfl, congrArg List.length (Option.some.inj hlexeme).symm,
      fun hkind => absurd hkind (by decide)⟩

theorem visible_scan_of_interchangeable (h : List.Forall₂ Interchangeable cs ds)
    (position : Nat) :
    (scan TokenKind.all position cs).visible = (scan TokenKind.all position ds).visible := by
  induction cs using scan_induction generalizing ds position with
  | nil =>
    cases h
    rfl
  | blank c cs hc ih =>
    obtain - | ⟨hd, hrest⟩ := h
    rename_i d ds
    have hblank : isBlank d = true :=
      (hd.class_eq (by decide +kernel) (by decide +kernel)).symm.trans hc
    rw [scan_blank hc, scan_blank hblank, ih hrest]
  | lexeme kind c cs rest hlexeme _ hblank hfinish ih =>
    obtain ⟨lexeme', hlexeme', hlength, hname⟩ := lexeme?_of_interchangeable h hlexeme
    have hrest := List.forall₂_drop (c :: cs).length h
    rw [List.drop_left] at hrest
    have hvisible : Token.visible ⟨kind, String.ofList (c :: cs), position⟩ =
        Token.visible ⟨kind, String.ofList lexeme', position⟩ := by
      by_cases hkind : kind = .name
      · rw [hname hkind]
      · simp only [Token.visible, if_neg hkind]
    rw [scan_lexeme hlexeme hblank hfinish,
      scan_of_some (firstLexeme?_all hlexeme') hfinish hblank, visible_cons, visible_cons,
      ih hrest, ← hlength, hvisible]
  | invalid c cs hnone =>
    have hseparator : ¬(c = ',' ∨ c = ';') := by
      intro hc
      have hsome := hnone .separator
      rw [TokenKind.lexeme?, if_pos (by simpa using hc)] at hsome
      cases hsome
    have hnone' : ∀ kind : TokenKind, kind.lexeme? ds = none := by
      intro kind
      by_contra hsome
      obtain ⟨lexeme, hlexeme⟩ := Option.ne_none_iff_exists'.mp hsome
      have hback : List.Forall₂ Interchangeable ds (c :: cs) := (h.imp fun _ _ => .symm).flip
      obtain ⟨_, hlexeme', -⟩ := lexeme?_of_interchangeable hback hlexeme
      rw [hnone kind] at hlexeme'
      cases hlexeme'
    obtain - | ⟨hd, -⟩ := h
    obtain rfl := hd.eq (fun hc => hseparator (.inl hc)) (fun hc => hseparator (.inr hc))
    rw [scan_invalid hnone, scan_invalid hnone']

end Annotation
end TypeStub
