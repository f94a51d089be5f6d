import TypeStub.Proofs.Annotation.FirstFault
import TypeStub.Proofs.Annotation.Lossless
import TypeStub.Proofs.Annotation.Succession

/-!
# The place of a fault

An error tells where it was found in its text, and what was found there, once as data and
once more in its message.  All of this agrees with the text.  The reason is that the tokens
of a stream stand in the text where they say, and so does the character that ends a stream
early (`standsIn_scan`).  A reading takes tokens off the stream and changes none of them, so
this holds of whatever it leaves, and the next reading may fail in it at any depth.

The main statement is `locatedIn_of_error`, about the reading of a whole text and about any
readings that share its stream.
-/

namespace TypeStub
namespace Annotation

open TypeStub.Text

/-- The text has this lexeme at this place.  The empty lexeme is the one at its end. -/
structure StandsAt (text : String) (position : Nat) (lexeme : String) : Prop where
  position_le : position ≤ text.length
  slice_eq : slice text position (position + lexeme.length) = lexeme
  eq_empty_iff : lexeme = "" ↔ position = text.length

/-- How a message refers to a lexeme. -/
def callLexeme (lexeme : String) : String :=
  if lexeme = "" then "end of input" else "'" ++ lexeme ++ "'"

/-- The forms of a message, with the lexeme and the place that it tells of. -/
inductive Wording (lexeme : String) (position : Nat) : String → Prop
  | invalidCharacter : Wording lexeme position ("invalid character at '" ++ lexeme ++ "'")
  | secondName : Wording lexeme position ("expecting END, got name '" ++ lexeme ++ "'")
  | wrongTerminator (expected : Terminator) :
    Wording lexeme position ("expecting " ++ expected.describe ++ ", got " ++ callLexeme lexeme)
  | missingName :
    Wording lexeme position ("expecting name, got '" ++ lexeme ++ "' at " ++ position.repr)

/-- The error is one of this text, and the text has what the error says at the place that the
error says. -/
structure Malformed.LocatedIn (text : String) (error : Malformed) : Prop where
  text_eq : error.text = text
  stands : StandsAt text error.position error.lexeme
  column_eq : error.column = error.position + 1
  wording : Wording error.lexeme error.position error.message

variable {text : String}

theorem standsAt_of_split {front lexeme rest : List Char}
    (htext : text.toList = front ++ (lexeme ++ rest)) (hne : lexeme ≠ []) :
    StandsAt text front.length (String.ofList lexeme) := by
  have hpos : 0 < lexeme.length := List.length_pos_iff.mpr hne
  have hlength : text.length = front.length + (lexeme.length + rest.length) := by
    rw [← String.length_toList, htext, List.length_append, List.length_append]
  refine ⟨by omega, ?_, ?_⟩
  · rw [String.length_ofList, ← String.toList_inj, toList_slice htext, String.toList_ofList]
  · have hlexeme : String.ofList lexeme ≠ "" := by
      rw [ne_eq, ← String.toList_inj, String.toList_ofList]
      exact hne
    have hposition : front.length ≠ text.length := by omega
    exact iff_of_false hlexeme hposition

theorem standsAt_end (text : String) : StandsAt text text.length "" :=
  ⟨Nat.le_refl _, by simp [slice], iff_of_true rfl rfl⟩

/-! ## Tokens in their text -/

/-- The token stands at its place.  What ends a list of types is also described by what
stands there. -/
structure Token.StandsIn (text : String) (token : Token) : Prop where
  stands : StandsAt text token.position token.lexeme
  described : ∀ found, token.kind = .closing found → found.describe = callLexeme token.lexeme

theorem describe_eq_of_isLexeme {found : Terminator} {lexeme : List Char}
    (h : (TokenKind.closing found).IsLexeme lexeme) :
    found.describe = callLexeme (String.ofList lexeme) := by
  cases found with
  | finish => exact absurd h id
  | _ =>
    obtain rfl := h
    decide

/-- What is left of a stream stands in the text, and so does the character that ends it. -/
structure TokenStream.StandsIn (text : String) (stream : TokenStream) : Prop where
  tokens : ∀ token ∈ stream.tokens, token.StandsIn text
  ending : ∀ c position, stream.ending = .invalid c position → StandsAt text position c.toString

theorem TokenStream.standsIn_scan {front cs : List Char} (htext : text.toList = front ++ cs) :
    (scan TokenKind.all front.length cs).StandsIn text := by
  induction cs using scan_induction generalizing front with
  | nil =>
    have hend : front.length = text.length := by
      rw [← String.length_toList, htext, List.append_nil]
    rw [scan_nil, hend]
    refine ⟨List.forall_mem_singleton.mpr ⟨standsAt_end text, ?_⟩, nofun⟩
    intro found hfound
    obtain rfl := TokenKind.closing.inj hfound
    rfl
  | blank c cs hc ih =>
    rw [scan_blank hc]
    rw [List.append_cons] at htext
    have hrest := ih htext
    rwa [List.length_append] at hrest
  | lexeme kind c cs rest hlexeme _ hblank hfinish ih =>
    have hrest := ih (htext.trans (List.append_assoc front (c :: cs) rest).symm)
    rw [List.length_append] at hrest
    rw [scan_lexeme hlexeme hblank hfinish]
    refine ⟨List.forall_mem_cons.mpr ⟨⟨?_, ?_⟩, hrest.tokens⟩, hrest.ending⟩
    · exact standsAt_of_split htext (List.cons_ne_nil c cs)
    · intro found hfound
      obtain rfl : kind = .closing found := hfound
      exact describe_eq_of_isLexeme (isLexeme_of_lexeme? hlexeme hfinish)
  | invalid c cs hnone =>
    rw [scan_invalid hnone]
    refine ⟨fun _ hmem => absurd hmem List.not_mem_nil, fun d position hending => ?_⟩
    obtain ⟨rfl, rfl⟩ := StreamEnd.invalid.inj hending
    rw [← List.singleton_append] at htext
    exact standsAt_of_split htext (List.cons_ne_nil c [])

theorem TokenStream.StandsIn.of_append {w rest : List Token} {ending : StreamEnd}
    (h : StandsIn text ⟨w ++ rest, ending⟩) : StandsIn text ⟨rest, ending⟩ :=
  ⟨fun token htoken => h.tokens token (List.mem_append_right w htoken), h.ending⟩

/-! ## Faults in their text -/

/-- The reader stops at a token that stands in the text with an error about this token. -/
theorem locatedIn_of_stop {goal : TokenKind} {reader : Reader} {token : Token} {cause : Cause}
    (h : token.StandsIn text) (hstep : reader.step goal token = .stopped (.fault cause)) :
    Malformed.LocatedIn text ⟨⟨cause, token.lexeme, token.position⟩, text⟩ := by
  refine ⟨rfl, h.stands, rfl, ?_⟩
  cases Reader.stepOf_of_eq hstep with
  | secondName => exact .secondName
  | missingName => exact .missingName
  | @wrongTerminator expected found hfound _ _ =>
    show Wording token.lexeme token.position
      ("expecting " ++ expected.describe ++ ", got " ++ found.describe)
    rw [h.described found hfound]
    exact .wrongTerminator expected

theorem locatedIn_of_end {ending : StreamEnd} {error : Malformed}
    (h : ∀ c position, ending = .invalid c position → StandsAt text position c.toString)
    (herror : Cursor.failureAtEnd text ending = .malformed error) : error.LocatedIn text := by
  cases ending with
  | exhausted => cases herror
  | invalid c position =>
    obtain rfl := ReadFailure.malformed.inj herror
    exact ⟨rfl, h c position rfl, rfl, .invalidCharacter⟩

namespace Cursor

variable {cursor : Cursor}

theorem locatedIn_of_call (h : cursor.rest.StandsIn cursor.text) {goal : TokenKind}
    {error : Malformed} (hresult : (cursor.call goal).result = .error (.malformed error)) :
    error.LocatedIn cursor.text := by
  obtain ⟨w, reader, -, ⟨-, hrun⟩ |
    ⟨token, rest, htokens, ⟨nodes, -, hrun⟩ | ⟨reason, hstep, hrun⟩⟩⟩ :=
    exists_advance goal cursor.text cursor.rest.ending .start cursor.rest.tokens
  · rw [call_of_run hrun] at hresult
    exact locatedIn_of_end h.ending (Except.error.inj hresult)
  · rw [call_of_run hrun] at hresult
    cases hresult
  · rw [call_of_run hrun] at hresult
    have htoken := h.tokens token (htokens ▸ List.mem_append_right w List.mem_cons_self)
    cases reason with
    | fault cause =>
      obtain rfl := ReadFailure.malformed.inj (Except.error.inj hresult)
      exact locatedIn_of_stop htoken hstep
    | notTerminator kind => cases Except.error.inj hresult

/-- A call leaves a part of the stream, or nothing. -/
theorem standsIn_after (h : cursor.rest.StandsIn text) (goal : TokenKind) :
    (cursor.call goal).after.rest.StandsIn text := by
  have hbehind : ∀ {w rest : List Token} {token : Token},
      cursor.rest.tokens = w ++ token :: rest →
        TokenStream.StandsIn text ⟨rest, cursor.rest.ending⟩ := by
    intro w rest token htokens
    rw [List.append_cons] at htokens
    have hsplit : TokenStream.StandsIn text ⟨w ++ [token] ++ rest, cursor.rest.ending⟩ :=
      htokens ▸ h
    exact hsplit.of_append
  have hcall := callOf_call goal cursor
  generalize cursor.call goal = call at hcall ⊢
  cases hcall with
  | atEnd => exact ⟨fun _ hmem => absurd hmem List.not_mem_nil, nofun⟩
  | accepted htokens => exact hbehind htokens
  | fault htokens => exact hbehind htokens
  | notTerminator htokens => exact hbehind htokens

theorem locatedIn_of_mem_calls (h : cursor.rest.StandsIn cursor.text) (goals : List TokenKind) :
    ∀ call ∈ cursor.calls goals, ∀ error, call.result = .error (.malformed error) →
      error.LocatedIn cursor.text := by
  induction goals generalizing cursor with
  | nil => exact fun _ hmem => absurd hmem List.not_mem_nil
  | cons goal goals ih =>
    intro call hmem error hresult
    rcases List.mem_cons.mp hmem with rfl | hmem
    · exact locatedIn_of_call h hresult
    · exact ih (standsIn_after h goal) call hmem error hresult

theorem standsIn_ofText (text : String) : (ofText text).rest.StandsIn text :=
  TokenStream.standsIn_scan (List.nil_append text.toList).symm

end Cursor

/-- Whatever is found wrong with a text, by a reading of all of it or by any of several
readings one after another, is located in the text. -/
theorem locatedIn_of_error (text : String) :
    (∀ failure, parse text = .error failure →
        ∃ error, failure = .malformed error ∧ error.LocatedIn text) ∧
      ∀ (goals : List TokenKind), ∀ call ∈ (Cursor.ofText text).calls goals, ∀ error,
        call.result = .error (.malformed error) → error.LocatedIn text := by
  have hstands := Cursor.standsIn_ofText text
  refine ⟨fun failure hparse => ?_, Cursor.locatedIn_of_mem_calls hstands⟩
  obtain ⟨error, rfl⟩ := Reader.exists_malformed hparse
  exact ⟨error, rfl, Cursor.locatedIn_of_call hstands hparse⟩

/-- The first reading fails inside a bracket, and the second one at the next token. -/
theorem locatedIn_of_error_behind_another :
    parse "(A>, B" = .error (.malformed ⟨⟨.wrongTerminator .paren .angle, ">", 2⟩, "(A>, B"⟩) ∧
      (∃ call ∈ (Cursor.ofText "(A>, B").calls [.closing .finish, .closing .angle],
        call.result = .error (.malformed ⟨⟨.missingName, ",", 3⟩, "(A>, B"⟩)) ∧
      Malformed.LocatedIn "(A>, B" ⟨⟨.wrongTerminator .paren .angle, ">", 2⟩, "(A>, B"⟩ ∧
      Malformed.LocatedIn "(A>, B" ⟨⟨.missingName, ",", 3⟩, "(A>, B"⟩ := by
  have hparse : parse "(A>, B" =
      .error (.malformed ⟨⟨.wrongTerminator .paren .angle, ">", 2⟩, "(A>, B"⟩) := by
    cbv
  have hcalls : ((Cursor.ofText "(A>, B").calls [.closing .finish, .closing .angle]).map
      (·.result) = [.error (.malformed ⟨⟨.wrongTerminator .paren .angle, ">", 2⟩, "(A>, B"⟩),
        .error (.malformed ⟨⟨.missingName, ",", 3⟩, "(A>, B"⟩)] := by
    decide +kernel
  obtain ⟨call, hcall, hresult⟩ : ∃ call ∈ (Cursor.ofText "(A>, B").calls
      [.closing .finish, .closing .angle],
      call.result = .error (.malformed ⟨⟨.missingName, ",", 3⟩, "(A>, B"⟩) := by
    rw [← List.mem_map, hcalls]
    exact List.mem_cons_of_mem _ List.mem_cons_self
  obtain ⟨hwhole, hshared⟩ := locatedIn_of_error "(A>, B"
  obtain ⟨error, herror, hlocated⟩ := hwhole _ hparse
  obtain rfl := ReadFailure.malformed.inj herror
  exact ⟨hparse, ⟨call, hcall, hresult⟩, hlocated, hshared _ call hcall _ hresult⟩

end Annotation
end TypeStub
