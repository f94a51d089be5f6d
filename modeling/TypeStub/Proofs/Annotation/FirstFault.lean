import TypeStub.Proofs.Annotation.Reading
import TypeStub.Proofs.Annotation.Segment

/-!
# Where a fault is found

A text that is not read has its fault at the first possible place.  In front of the
fault the text can still be completed, by an entry if one is missing and by the ends
of all brackets that are open (`Reader.completion`).  Neither the scan nor the reader
looks behind the lexeme of the fault, so with a blank behind it no text changes the
outcome.
-/

namespace TypeStub

namespace Text

def upTo (text : String) (position : Nat) : String :=
  String.ofList (text.toList.take position)

def BeginsBlank (text : String) : Prop :=
  ∃ c cs, text.toList = c :: cs ∧ isBlank c = true

theorem toList_upTo_append {text behind : String} {cs ds : List Char} {position : Nat}
    (htext : text.toList = cs ++ ds) (hposition : position = cs.length) :
    (upTo text position ++ behind).toList = cs ++ behind.toList := by
  rw [String.toList_append, upTo, String.toList_ofList, htext, hposition, List.take_left]

end Text

namespace Annotation

open TypeStub.Text TokenStream

/-- The fault stands at the first place at which the text cannot go on. -/
structure Malformed.IsFirst (error : Malformed) : Prop where
  /-- What stands in front of the fault is the beginning of a text that is read. -/
  viable : ∃ behind nodes, parse (upTo error.text error.position ++ behind) = .ok nodes
  /-- Whatever stands behind the fault, with a blank between, the fault is the same. -/
  final : error.lexeme ≠ "" → ∀ behind, BeginsBlank behind →
    parse (upTo error.text (error.position + error.lexeme.length) ++ behind) =
      .error (.malformed ⟨error.toFault,
        upTo error.text (error.position + error.lexeme.length) ++ behind⟩)

/-! ## Completing a text -/

def Terminator.mark : Terminator → List Char
  | .angle => ['>']
  | .paren => [')']
  | .arrow => ['=', '>']
  | .brace => ['}']
  | .finish => []

theorem Terminator.lexeme?_mark {terminator : Terminator} (h : terminator ≠ .finish)
    (rest : List Char) :
    (TokenKind.closing terminator).lexeme? (terminator.mark ++ rest) = some terminator.mark := by
  cases terminator with
  | finish => exact absurd rfl h
  | _ => rfl

theorem Opening.closer_ne_finish (opening : Opening) : opening.closer ≠ .finish := by
  cases opening <;> exact nofun

/-- What brings an open bracket to its end, behind an entry.  A mapping without an arrow
needs a value too. -/
def Opening.completion (opening : Opening) : List Char :=
  opening.closer.mark ++
    match opening with
    | .keys => 'A' :: ' ' :: Terminator.brace.mark
    | _ => []

/-- What brings a reading to its end: an entry, if none has begun, and the ends of the
open brackets. -/
def Reader.completion (reader : Reader) : List Char :=
  match reader.entry with
  | .empty => 'A' :: ' ' :: reader.outer.flatMap (·.opening.completion)
  | _ => reader.outer.flatMap (·.opening.completion)

namespace Reader

/-- What becomes of a reader in front of the characters `cs`. -/
def readOn (reader : Reader) (text : String) (position : Nat) (cs : List Char) :
    Except ReadFailure (List TypeNode) :=
  (Cursor.run (.closing .finish) text (scan TokenKind.all position cs).ending reader
    (scan TokenKind.all position cs).tokens).1

theorem parse_eq_readOn (text : String) : parse text = start.readOn text 0 text.toList := rfl

variable {reader next : Reader} {text : String} {position : Nat} {rest : List Char}

theorem readOn_of_cuts {segment : List Char} {w : List Token}
    (hcuts : Cuts rest position segment w)
    (hadvance : reader.advance (.closing .finish) w = some next) :
    reader.readOn text position (segment ++ rest) =
      next.readOn text (position + segment.length) rest := by
  rw [readOn, scan_of_cuts hcuts, tokens_prepend, ending_prepend, Cursor.run_append hadvance,
    readOn]

theorem readOn_blank {c : Char} (hc : isBlank c = true) (cs : List Char) :
    reader.readOn text position (c :: cs) = reader.readOn text (position + 1) cs := by
  rw [readOn, readOn, scan_blank hc]

theorem readOn_lexeme {kind : TokenKind} {lexeme : List Char}
    (hlexeme : kind.lexeme? (lexeme ++ rest) = some lexeme) (hblank : kind ≠ .blank)
    (hfinish : kind ≠ .closing .finish)
    (hstep : reader.step (.closing .finish) ⟨kind, String.ofList lexeme, position⟩ =
      .reading next) :
    reader.readOn text position (lexeme ++ rest) =
      next.readOn text (position + lexeme.length) rest := by
  rw [readOn, scan_lexeme hlexeme hblank hfinish, tokens_cons, ending_cons, Cursor.run, hstep,
    readOn]

variable {outer : List Level} {done : List TypeNode} {entry : Entry} {node : TypeNode}

theorem readOn_name (rest : List Char) :
    readOn ⟨outer, done, .empty⟩ text position ('A' :: ' ' :: rest) =
      readOn ⟨outer, done, .named "A"⟩ text (position + 2) rest := by
  have hpath : Name.scanPath (' ' :: rest) = [] :=
    Name.scanPath_eq_nil (by decide +kernel) (by decide) rest
  have hlexeme : TokenKind.name.lexeme? (['A'] ++ ' ' :: rest) = some ['A'] :=
    name_lexeme?_iff.mpr ⟨List.cons_ne_nil _ _, by decide +kernel,
      Name.continuation_eq_nil hpath ['A']⟩
  exact (readOn_lexeme hlexeme nofun nofun (step_name rfl)).trans (readOn_blank (by decide) rest)

theorem readOn_closer (level : Level) (hnode : entry.node? = some node)
    (hclose : close ⟨level :: outer, done, entry⟩ (done ++ [node]) = .reading next) :
    readOn ⟨level :: outer, done, entry⟩ text position (level.opening.closer.mark ++ rest) =
      next.readOn text (position + level.opening.closer.mark.length) rest := by
  have hfinish := level.opening.closer_ne_finish
  refine readOn_lexeme (Terminator.lexeme?_mark hfinish rest) nofun (by simpa using hfinish) ?_
  exact (step_closing rfl rfl hnode).trans hclose

/-- The completion of the innermost bracket leaves an entry with a group. -/
theorem exists_readOn_opening (level : Level) (hnode : entry.node? = some node) :
    ∃ group, ∀ rest,
      readOn ⟨level :: outer, done, entry⟩ text position (level.opening.completion ++ rest) =
        readOn ⟨outer, level.done, .grouped level.name group⟩ text
          (position + level.opening.completion.length) rest := by
  obtain ⟨begun, name, opening⟩ := level
  cases opening with
  | angle => exact ⟨.angle (done ++ [node]), fun rest => readOn_closer _ hnode rfl⟩
  | paren => exact ⟨.paren (done ++ [node]), fun rest => readOn_closer _ hnode rfl⟩
  | values keys => exact ⟨.brace keys (done ++ [node]), fun rest => readOn_closer _ hnode rfl⟩
  | keys =>
    refine ⟨.brace (done ++ [node]) [.simple "A"], fun rest => ?_⟩
    refine (readOn_closer _ hnode rfl).trans ((readOn_name _).trans ?_)
    have hvalue : (Entry.named "A").node? = some (.simple "A") := rfl
    exact readOn_closer ⟨begun, name, .values (done ++ [node])⟩ hvalue rfl

theorem exists_readOn_openings (hnode : entry.node? = some node) :
    ∃ nodes, readOn ⟨outer, done, entry⟩ text position
      (outer.flatMap (·.opening.completion)) = .ok nodes := by
  induction outer generalizing done entry node position with
  | nil =>
    refine ⟨done ++ [node], ?_⟩
    rw [List.flatMap_nil, readOn, scan_nil, Cursor.run, step_closing rfl rfl hnode]
    rfl
  | cons level outer ih =>
    obtain ⟨group, hgroup⟩ := exists_readOn_opening level hnode
    rw [List.flatMap_cons, hgroup]
    exact ih rfl

theorem exists_readOn_completion (reader : Reader) (text : String) (position : Nat) :
    ∃ nodes, reader.readOn text position reader.completion = .ok nodes := by
  obtain ⟨outer, done, entry⟩ := reader
  cases entry with
  | empty =>
    rw [completion, readOn_name]
    exact exists_readOn_openings rfl
  | named name => exact exists_readOn_openings rfl
  | grouped name group => exact exists_readOn_openings rfl

/-! ## Where a reader stops -/

/-- The reader stops for a cause at a lexeme with the characters `behind` behind it: at
the end of the text, at a token, or at a character of no token. -/
inductive StopsAt (reader : Reader) (position : Nat) : List Char → List Char → Cause → Prop
  | finish {cause : Cause} :
    reader.step (.closing .finish) ⟨.closing .finish, "", position⟩ = .stopped (.fault cause) →
      StopsAt reader position [] [] cause
  | token {kind : TokenKind} {lexeme behind : List Char} {cause : Cause} :
    kind.lexeme? (lexeme ++ behind) = some lexeme → kind ≠ .blank → kind ≠ .closing .finish →
      reader.step (.closing .finish) ⟨kind, String.ofList lexeme, position⟩ =
        .stopped (.fault cause) →
      StopsAt reader position lexeme behind cause
  | invalid {c : Char} {behind : List Char} :
    (∀ kind : TokenKind, kind.lexeme? (c :: behind) = none) →
      StopsAt reader position [c] behind .invalidCharacter

theorem StopsAt.readOn {lexeme behind : List Char} {cause : Cause}
    (h : reader.StopsAt position lexeme behind cause) (text : String) :
    reader.readOn text position (lexeme ++ behind) =
      .error (.malformed ⟨⟨cause, String.ofList lexeme, position⟩, text⟩) := by
  cases h with
  | finish hstep =>
    rw [List.append_nil, Reader.readOn, scan_nil, Cursor.run, hstep]
    rfl
  | token hlexeme hblank hfinish hstep =>
    rw [Reader.readOn, scan_lexeme hlexeme hblank hfinish, tokens_cons, Cursor.run, hstep]
    rfl
  | invalid hnone =>
    rw [List.singleton_append, Reader.readOn, scan_invalid hnone]
    rfl

theorem StopsAt.blank {lexeme behind : List Char} {c : Char} {cause : Cause}
    (h : reader.StopsAt position lexeme behind cause) (hne : lexeme ≠ [])
    (hc : isBlank c = true) (cs : List Char) :
    reader.StopsAt position lexeme (c :: cs) cause := by
  cases h with
  | finish _ => exact absurd rfl hne
  | token hlexeme hblank hfinish hstep =>
    have hname := Name.continuation_eq_nil (Name.scanPath_blank hc cs) lexeme
    exact .token (lexeme?_congr hlexeme hblank hfinish fun _ => hname) hblank hfinish hstep
  | invalid hnone => exact .invalid (lexeme?_blank_eq_none hnone hc cs)

/-- A name in front of the lexeme goes on into it no more with a blank behind. -/
theorem StopsAt.continuation_blank {lexeme behind name : List Char} {c : Char} {cause : Cause}
    (h : reader.StopsAt position lexeme behind cause) (hne : lexeme ≠ [])
    (hc : isBlank c = true) (cs : List Char)
    (hname : Name.continuation name (lexeme ++ behind) = []) :
    Name.continuation name (lexeme ++ c :: cs) = [] := by
  cases h with
  | finish _ => exact absurd rfl hne
  | @token kind _ _ _ hlexeme hblank hfinish _ =>
    have hcuts : Cuts behind position (lexeme ++ []) [⟨kind, String.ofList lexeme, position⟩] :=
      .lexeme hlexeme hblank hfinish .nil
    rw [List.append_nil] at hcuts
    exact hcuts.continuation_congr hne hname
  | invalid hnone =>
    have hscan := scan_eq_nil_of_name_lexeme? (lexeme?_blank_eq_none hnone hc cs .name)
    exact Name.continuation_eq_nil (Name.scanPath_eq_nil_of_scan hscan) name

theorem exists_stopsAt {text : String} {failure : ReadFailure}
    (h : parse text = .error failure) :
    ∃ segment lexeme behind w reader cause, text.toList = segment ++ (lexeme ++ behind) ∧
      Cuts (lexeme ++ behind) 0 segment w ∧ start.advance (.closing .finish) w = some reader ∧
      reader.StopsAt segment.length lexeme behind cause ∧
      failure = .malformed ⟨⟨cause, String.ofList lexeme, segment.length⟩, text⟩ := by
  rcases htokens : tokenize text with ⟨tokens, ending⟩
  have hrun : (Cursor.run (.closing .finish) text ending .start tokens).1 = .error failure := by
    rw [← h, parse, Cursor.read, Cursor.ofText, htokens]
  obtain ⟨w, reader, hadvance, ⟨rfl, hend⟩ |
    ⟨token, more, rfl, ⟨nodes, -, hok⟩ | ⟨reason, hstep, hstopped⟩⟩⟩ :=
    Cursor.exists_advance (.closing .finish) text ending .start tokens
  · obtain ⟨segment, c, rest, htext, hcuts, hnone, rfl⟩ :=
      exists_cuts_of_invalid htokens (kind_ne_finish_of_advance hadvance)
    refine ⟨segment, [c], rest, tokens, reader, .invalidCharacter, htext, hcuts, hadvance,
      .invalid hnone, ?_⟩
    rw [hend] at hrun
    rw [← Except.error.inj hrun, Cursor.failureAtEnd, Nat.zero_add]
    rfl
  · rw [hok] at hrun
    cases hrun
  · obtain ⟨cause, rfl⟩ := step_eq_stopped hstep
    rw [hstopped] at hrun
    have hfailure := (Except.error.inj hrun).symm
    rw [Cursor.failureAt] at hfailure
    by_cases hkind : token.kind = .closing .finish
    · obtain ⟨hcuts, rfl, -, -⟩ :=
        cuts_of_finish htokens (kind_ne_finish_of_advance hadvance) hkind
      rw [Nat.zero_add] at hstep hfailure
      exact ⟨text.toList, [], [], w, reader, cause, by simp, hcuts, hadvance, .finish hstep,
        hfailure⟩
    · obtain ⟨segment, lexeme, rest, htext, hcuts, hblank, hlexeme, htoken⟩ :=
        exists_cuts_of_token htokens (kind_ne_finish_of_advance hadvance) hkind
      rw [htoken, Nat.zero_add] at hstep hfailure
      exact ⟨segment, lexeme, rest, w, reader, cause, htext, hcuts, hadvance,
        .token hlexeme hblank hkind hstep, hfailure⟩

/-- A text that is not read is malformed. -/
theorem exists_malformed {text : String} {failure : ReadFailure}
    (h : parse text = .error failure) : ∃ error, failure = .malformed error := by
  obtain ⟨_, _, _, _, _, _, -, -, -, -, hfailure⟩ := exists_stopsAt h
  exact ⟨_, hfailure⟩

variable {segment : List Char} {w : List Token} {text : String}

/-- The text in front of a lexeme can be completed: a blank ends a name there, and
behind it stands what the reader still needs. -/
theorem exists_parse_upTo {behind : List Char} (htext : text.toList = segment ++ behind)
    (hcuts : Cuts behind 0 segment w) (hadvance : start.advance (.closing .finish) w = some next) :
    ∃ rest nodes, parse (upTo text segment.length ++ rest) = .ok nodes := by
  have hblank := hcuts.congr (' ' :: next.completion) fun name _ =>
    Name.continuation_eq_nil (Name.scanPath_blank (by decide) _) name
  obtain ⟨nodes, hnodes⟩ := next.exists_readOn_completion
    (upTo text segment.length ++ String.ofList (' ' :: next.completion)) (segment.length + 1)
  refine ⟨String.ofList (' ' :: next.completion), nodes, ?_⟩
  rw [parse_eq_readOn, toList_upTo_append htext rfl, String.toList_ofList,
    readOn_of_cuts hblank hadvance, Nat.zero_add, ← hnodes]
  exact readOn_blank (by decide) next.completion

theorem StopsAt.parse_upTo {lexeme behind : List Char} {cause : Cause} {rest : String}
    (h : next.StopsAt segment.length lexeme behind cause) (hne : lexeme ≠ [])
    (htext : text.toList = segment ++ (lexeme ++ behind))
    (hcuts : Cuts (lexeme ++ behind) 0 segment w)
    (hadvance : start.advance (.closing .finish) w = some next) (hrest : BeginsBlank rest) :
    parse (upTo text (segment.length + lexeme.length) ++ rest) =
      .error (.malformed ⟨⟨cause, String.ofList lexeme, segment.length⟩,
        upTo text (segment.length + lexeme.length) ++ rest⟩) := by
  obtain ⟨c, cs, hcs, hc⟩ := hrest
  have hblank := hcuts.congr (lexeme ++ c :: cs) fun name =>
    h.continuation_blank hne hc cs
  rw [← List.append_assoc] at htext
  rw [parse_eq_readOn, toList_upTo_append htext List.length_append.symm, hcs, List.append_assoc,
    readOn_of_cuts hblank hadvance, Nat.zero_add, (h.blank hne hc cs).readOn]

end Reader

/-- A text that is not read has a fault, and the fault stands at the first possible
place. -/
theorem exists_isFirst_of_parse_eq_error {text : String} {failure : ReadFailure}
    (h : parse text = .error failure) :
    ∃ error, failure = .malformed error ∧ error.text = text ∧ error.IsFirst := by
  obtain ⟨segment, lexeme, behind, w, reader, cause, htext, hcuts, hadvance, hstops, rfl⟩ :=
    Reader.exists_stopsAt h
  refine ⟨_, rfl, rfl, Reader.exists_parse_upTo htext hcuts hadvance, fun hne rest hrest => ?_⟩
  have hlexeme : lexeme ≠ [] := fun hempty => hne (by rw [hempty])
  have hlength : (String.ofList lexeme).length = lexeme.length := String.length_ofList
  rw [hlength]
  exact hstops.parse_upTo hlexeme htext hcuts hadvance hrest

theorem exists_isFirst_of_second_name :
    parse "Map<A, (B C>" =
        .error (.malformed ⟨⟨.secondName, "C", 10⟩, "Map<A, (B C>"⟩) ∧
      ∃ error, ReadFailure.malformed ⟨⟨.secondName, "C", 10⟩, "Map<A, (B C>"⟩ =
        .malformed error ∧ error.text = "Map<A, (B C>" ∧ error.IsFirst := by
  have hparse : parse "Map<A, (B C>" =
      .error (.malformed ⟨⟨.secondName, "C", 10⟩, "Map<A, (B C>"⟩) := by
    cbv
  exact ⟨hparse, exists_isFirst_of_parse_eq_error hparse⟩

end Annotation
end TypeStub
