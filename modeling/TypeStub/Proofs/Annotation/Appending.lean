import TypeStub.Proofs.Annotation.Joining

/-!
# Texts put together

A scan carries nothing from one token to the next but its position, and of all lexemes only
a name looks at the text behind it.  So the tokens of two texts, one behind the other, are
the tokens of the first and, further on by its length, those of the second
(`tokenize_append`).  The token of the end goes, because the text goes on there.

What has to be excluded is that a name at the end of the first text goes on in the second.
A name ends with a word character, and it goes on with a word character or with `::` in
front of one.
-/

namespace TypeStub

namespace Text

def EndsInWord (text : String) : Prop :=
  ∃ c, text.toList.getLast? = some c ∧ isWord c = true

/-- The text begins with a word character, or with `::` and a word character. -/
def BeginsWord (text : String) : Prop :=
  ∃ c cs, isWord c = true ∧ (text.toList = c :: cs ∨ text.toList = ':' :: ':' :: c :: cs)

end Text

namespace Annotation

open TypeStub.Text TokenStream

/-! ## Streams at other places -/

/-- The fault behind as many more characters. -/
def Fault.shift (offset : Nat) (fault : Fault) : Fault :=
  { fault with position := fault.position + offset }

def StreamEnd.shift (offset : Nat) : StreamEnd → StreamEnd
  | .exhausted => .exhausted
  | .invalid c position => .invalid c (position + offset)

def TokenStream.shift (offset : Nat) (stream : TokenStream) : TokenStream :=
  ⟨stream.tokens.map (Token.shift offset), stream.ending.shift offset⟩

theorem TokenStream.shift_cons (offset : Nat) (token : Token) (stream : TokenStream) :
    (stream.cons token).shift offset = (stream.shift offset).cons (token.shift offset) := rfl

/-- A scan goes on alike from every position. -/
theorem scan_shift (offset position : Nat) (cs : List Char) :
    scan TokenKind.all (position + offset) cs =
      (scan TokenKind.all position cs).shift offset := by
  induction cs using scan_induction generalizing position with
  | nil =>
    rw [scan_nil, scan_nil]
    rfl
  | blank c cs hc ih =>
    rw [scan_blank hc, scan_blank hc, ← ih, Nat.add_right_comm]
  | lexeme kind c cs rest hlexeme _ hblank hfinish ih =>
    rw [scan_lexeme hlexeme hblank hfinish, scan_lexeme hlexeme hblank hfinish, shift_cons, ← ih,
      Nat.add_right_comm]
    rfl
  | invalid c cs hnone =>
    rw [scan_invalid hnone, scan_invalid hnone]
    rfl

/-- Where a stream goes on further behind, it fails for the same cause and with the same
message. -/
theorem failureAtEnd_shift_eq_iff (text whole : String) (ending : StreamEnd) (offset : Nat)
    (fault : Fault) :
    Cursor.failureAtEnd whole (ending.shift offset) = .malformed ⟨fault, whole⟩ ↔
      ∃ own, Cursor.failureAtEnd text ending = .malformed ⟨own, text⟩ ∧
        fault = own.shift offset ∧ fault.message = own.message := by
  cases ending with
  | exhausted => simp [StreamEnd.shift, Cursor.failureAtEnd]
  | invalid c position =>
    constructor
    · intro h
      obtain rfl : (⟨.invalidCharacter, c.toString, position + offset⟩ : Fault) = fault := by
        simpa [StreamEnd.shift, Cursor.failureAtEnd] using h
      exact ⟨⟨.invalidCharacter, c.toString, position⟩, rfl, rfl, rfl⟩
    · rintro ⟨own, hown, rfl, -⟩
      obtain rfl : (⟨.invalidCharacter, c.toString, position⟩ : Fault) = own := by
        simpa [Cursor.failureAtEnd] using hown
      rfl

/-! ## Where two texts meet -/

theorem Name.scanPath_eq_nil_of_not_beginsWord {text : String} (h : ¬BeginsWord text) :
    Name.scanPath text.toList = [] := by
  generalize hcs : text.toList = cs
  fun_cases Name.scanPath cs with
  | case1 c rest hc => exact absurd ⟨c, rest, hc, .inr hcs⟩ h
  | case2 => rfl
  | case3 c rest _ hc => exact absurd ⟨c, rest, hc, .inl hcs⟩ h
  | case4 => rfl
  | case5 => rfl

/-- A text keeps its tokens in front of another one unless a name goes on there. -/
theorem Cuts.meet {a b : String} {w : List Token} (h : Cuts [] 0 a.toList w)
    (hmeet : ¬(EndsInWord a ∧ BeginsWord b)) : Cuts b.toList 0 a.toList w := by
  refine h.congr_of_suffix b.toList fun name hsuffix hname _ => ?_
  obtain ⟨c, hc, hword⟩ := hname.isWord_getLast?
  obtain ⟨front, hfront⟩ := hsuffix
  have hends : EndsInWord a := by
    refine ⟨c, ?_, hword⟩
    rw [← hfront, List.getLast?_append, hc, Option.some_or]
  have hbegins : ¬BeginsWord b := fun hb => hmeet ⟨hends, hb⟩
  exact Name.continuation_eq_nil (Name.scanPath_eq_nil_of_not_beginsWord hbegins) name

/-- The stream of two texts is that of the first up to the token of its end, and then that of
the second.  It fails just if the second text does, with the same lexeme and message. -/
theorem tokenize_append {a b : String} (ha : (tokenize a).ending = .exhausted)
    (hmeet : ¬(EndsInWord a ∧ BeginsWord b)) :
    ∃ w, (tokenize a).tokens = w ++ [⟨.closing .finish, "", a.length⟩] ∧
      tokenize (a ++ b) = ((tokenize b).shift a.length).prepend w ∧
      ∀ fault, Cursor.failureAtEnd (a ++ b) (tokenize (a ++ b)).ending =
          .malformed ⟨fault, a ++ b⟩ ↔
        ∃ own, Cursor.failureAtEnd b (tokenize b).ending = .malformed ⟨own, b⟩ ∧
          fault = own.shift a.length ∧ fault.message = own.message := by
  rcases exists_cuts_scan 0 a.toList with ⟨w, hcuts, hscan⟩ | ⟨w, _, c, _, -, -, -, hscan⟩
  · have hwhole : tokenize (a ++ b) = ((tokenize b).shift a.length).prepend w := by
      rw [tokenize, String.toList_append, scan_of_cuts (hcuts.meet hmeet), scan_shift,
        String.length_toList]
      rfl
    refine ⟨w, ?_, hwhole, fun fault => ?_⟩
    · rw [tokenize, hscan, Nat.zero_add, String.length_toList]
    · rw [hwhole]
      exact failureAtEnd_shift_eq_iff b (a ++ b) (tokenize b).ending a.length fault
  · rw [tokenize, hscan] at ha
    cases ha

/-- A name that ends the first text does not go on into a single colon, which is the
character that no token begins with. -/
theorem tokenize_append_of_colon :
    (tokenize "Map<A").ending = .exhausted ∧ ¬(EndsInWord "Map<A" ∧ BeginsWord ": B") ∧
      tokenize "Map<A: B" = ((tokenize ": B").shift 5).prepend
        [⟨.name, "Map", 0⟩, ⟨.opening .angle, "<", 3⟩, ⟨.name, "A", 4⟩] := by
  have ha : (tokenize "Map<A").ending = .exhausted := by
    decide +kernel
  have hmeet : ¬(EndsInWord "Map<A" ∧ BeginsWord ": B") := by
    rintro ⟨-, c, cs, hc, hbegins | hbegins⟩
    · obtain ⟨rfl, -⟩ := List.cons.inj hbegins
      exact absurd hc (by decide +kernel)
    · cases hbegins
  obtain ⟨w, hw, hwhole, -⟩ := tokenize_append ha hmeet
  have htokens : (tokenize "Map<A").tokens =
      [⟨.name, "Map", 0⟩, ⟨.opening .angle, "<", 3⟩, ⟨.name, "A", 4⟩] ++
        [⟨.closing .finish, "", 5⟩] := by
    decide +kernel
  obtain ⟨rfl, -⟩ := List.append_inj' (hw.symm.trans htokens) rfl
  exact ⟨ha, hmeet, hwhole⟩

end Annotation
end TypeStub
