import Mathlib.Data.List.Chain
import Mathlib.Data.List.DropRight
import TypeStub.Proofs.Annotation.Acceptance

/-!
# Readings that share a stream

A cursor can be read from again and again, each time up to another kind of token and
whatever became of the readings before.  `Cursor.calls` lists such readings, with the
cursor in front of each and behind it.

A reading takes its tokens from the front of the stream and leaves the rest as it is, so
readings take adjacent segments of one stream.  What a single reading takes is said by
`Call.Faithful`, in terms of the grammar and of the tokens in front of it.  The last
token of a stream is the only one of the end.  So a stream whose end is reached, or whose
invalid character is hit, is spent, and a spent stream gives nothing but the failure of a
stream that has ended.

The main statement is `calls_share_stream`.
-/

namespace TypeStub
namespace Annotation

/-- One of several readings, with the cursor in front of it and the one behind it. -/
structure Call where
  goal : TokenKind
  before : Cursor
  result : Except ReadFailure (List TypeNode)
  after : Cursor

namespace Cursor

def call (cursor : Cursor) (goal : TokenKind) : Call :=
  ⟨goal, cursor, (cursor.read goal).1, (cursor.read goal).2⟩

/-- Readings one after another, each from where the one before it left the cursor. -/
def calls : Cursor → List TokenKind → List Call
  | _, [] => []
  | cursor, goal :: goals => cursor.call goal :: (cursor.call goal).after.calls goals

/-- Where the cursor stands behind all of them. -/
def afterCalls : Cursor → List TokenKind → Cursor
  | cursor, [] => cursor
  | cursor, goal :: goals => (cursor.call goal).after.afterCalls goals

end Cursor

namespace Call

/-- The tokens that are in front of the cursor before the call and no more after it. -/
def taken (call : Call) : List Token :=
  call.before.rest.tokens.rdrop call.after.rest.tokens.length

/-- The call takes the token of the end or hits a character of no token. -/
def ReachesEnd (call : Call) : Prop :=
  (∃ token ∈ call.taken, token.kind = .closing .finish) ∨
    ∃ error, call.result = .error (.malformed error) ∧ error.cause = .invalidCharacter

/-- The stream begins with the tokens and a terminator, which is what the call asks for. -/
def Offers (call : Call) (w : List Token) (last : Token) : Prop :=
  w ++ [last] <+: call.before.rest.tokens ∧ last.kind = call.goal ∧
    ∃ terminator, call.goal = .closing terminator

/-- The call on a text fails, a case for each way in which it can. -/
inductive FailsWith (text : String) (call : Call) : ReadFailure → Prop
  /-- At the last of the tokens that it takes. -/
  | fault {w : List Token} {token : Token} {cause : Cause} :
    call.taken = w ++ [token] → cause ≠ .invalidCharacter →
      FailsWith text call (.malformed ⟨⟨cause, token.lexeme, token.position⟩, text⟩)
  /-- At a terminator, which is the last of the tokens that it takes. -/
  | notTerminator {w : List Token} {token : Token} {found : Terminator} :
    call.taken = w ++ [token] → token.kind = .closing found →
      (∀ terminator, call.goal ≠ .closing terminator) →
      FailsWith text call (.notTerminator call.goal)
  /-- Behind all tokens, at a character of none. -/
  | invalid {c : Char} {position : Nat} :
    call.taken = call.before.rest.tokens → call.before.rest.ending = .invalid c position →
      FailsWith text call (.malformed ⟨⟨.invalidCharacter, c.toString, position⟩, text⟩)
  | ended : call.before.rest = ⟨[], .exhausted⟩ → FailsWith text call .streamEnded

/-- What a call on a text does with the tokens in front of it. -/
structure Faithful (text : String) (call : Call) : Prop where
  /-- The tokens that are not taken stay as they are. -/
  tokens : call.before.rest.tokens = call.taken ++ call.after.rest.tokens
  /-- Nodes are given just for tokens that the grammar derives, in front of the terminator
  that is asked for. -/
  accepts_iff (nodes : List TypeNode) :
    call.result = .ok nodes ↔ ∃ w last, call.Offers w last ∧ Types w nodes
  /-- Of these tokens and the terminator, no more is taken and no less. -/
  taken_eq {w : List Token} {last : Token} {nodes : List TypeNode} :
    call.Offers w last → Types w nodes → call.taken = w ++ [last]
  fails {failure : ReadFailure} : call.result = .error failure → call.FailsWith text failure

end Call

/-! ## Streams of a text -/

namespace TokenStream

/-- The stream comes to the end of its text, with the token of the end as its last, or to
a character of no token. -/
inductive Complete : TokenStream → Prop
  | finish {token : Token} : token.kind = .closing .finish → Complete ⟨[token], .exhausted⟩
  | invalid {c : Char} {position : Nat} : Complete ⟨[], .invalid c position⟩
  | cons {token : Token} {tokens : List Token} {ending : StreamEnd} :
    token.kind ≠ .blank → token.kind ≠ .closing .finish → Complete ⟨tokens, ending⟩ →
      Complete ⟨token :: tokens, ending⟩

/-- Nothing is left of the stream. -/
def Spent (stream : TokenStream) : Prop := stream = ⟨[], .exhausted⟩

/-- A part of the stream of a text that a reading can leave. -/
def Left (stream : TokenStream) : Prop := stream.Complete ∨ stream.Spent

theorem complete_scan (position : Nat) (cs : List Char) :
    (scan TokenKind.all position cs).Complete := by
  induction cs using scan_induction generalizing position with
  | nil =>
    rw [scan_nil]
    exact .finish rfl
  | blank c cs hc ih =>
    rw [scan_blank hc]
    exact ih (position + 1)
  | lexeme kind c cs rest hlexeme _ hblank hfinish ih =>
    rw [scan_lexeme hlexeme hblank hfinish]
    exact .cons hblank hfinish (ih _)
  | invalid c cs hnone =>
    rw [scan_invalid hnone]
    exact .invalid

theorem Complete.kind_ne_blank {stream : TokenStream} (h : stream.Complete) :
    ∀ token ∈ stream.tokens, token.kind ≠ .blank := by
  intro token htoken
  induction h with
  | finish hfinish =>
    obtain rfl := List.mem_singleton.mp htoken
    rw [hfinish]
    exact nofun
  | invalid => exact absurd htoken List.not_mem_nil
  | cons hblank _ _ ih =>
    rcases List.mem_cons.mp htoken with rfl | htoken
    · exact hblank
    · exact ih htoken

theorem Complete.exists_finish {stream : TokenStream} (h : stream.Complete)
    (hending : stream.ending = .exhausted) :
    ∃ token ∈ stream.tokens, token.kind = .closing .finish := by
  induction h with
  | finish hfinish => exact ⟨_, List.mem_cons_self, hfinish⟩
  | invalid => cases hending
  | cons _ _ _ ih =>
    obtain ⟨token, htoken, hfinish⟩ := ih hending
    exact ⟨token, List.mem_cons_of_mem _ htoken, hfinish⟩

/-- Behind a token of the stream there is a stream of the same kind, and behind the token
of the end there is nothing. -/
theorem Complete.behind {w rest : List Token} {token : Token} {ending : StreamEnd}
    (h : Complete ⟨w ++ token :: rest, ending⟩) :
    (token.kind ≠ .closing .finish ∧ Complete ⟨rest, ending⟩) ∨
      (token.kind = .closing .finish ∧ Spent ⟨rest, ending⟩) := by
  generalize htokens : w ++ token :: rest = tokens at h
  induction w generalizing tokens with
  | nil =>
    subst htokens
    cases h with
    | finish hfinish => exact .inr ⟨hfinish, rfl⟩
    | cons _ hfinish hrest => exact .inl ⟨hfinish, hrest⟩
  | cons first w ih =>
    cases h with
    | finish hfinish => simp at htokens
    | invalid => cases htokens
    | cons _ _ hrest => exact ih _ (List.cons.inj htokens).2 hrest

theorem Left.behind {w rest : List Token} {token : Token} {ending : StreamEnd}
    (h : Left ⟨w ++ token :: rest, ending⟩) :
    (token.kind ≠ .closing .finish ∧ Complete ⟨rest, ending⟩) ∨
      (token.kind = .closing .finish ∧ Spent ⟨rest, ending⟩) := by
  rcases h with h | h
  · exact h.behind
  · have htokens : w ++ token :: rest = [] := congrArg TokenStream.tokens h
    simp at htokens

theorem Left.kind_ne_blank {stream : TokenStream} (h : stream.Left) :
    ∀ token ∈ stream.tokens, token.kind ≠ .blank := by
  rcases h with h | h
  · exact h.kind_ne_blank
  · rw [h]
    exact fun _ htoken => absurd htoken List.not_mem_nil

/-- A stream without the token of the end, which has not been hit upon a character of no
token, is spent. -/
theorem Left.spent {stream : TokenStream} (h : stream.Left)
    (hfinish : ∀ token ∈ stream.tokens, token.kind ≠ .closing .finish)
    (hending : stream.ending = .exhausted) : stream.Spent := by
  rcases h with h | h
  · obtain ⟨token, htoken, hkind⟩ := h.exists_finish hending
    exact absurd hkind (hfinish token htoken)
  · exact h

end TokenStream

/-! ## One call -/

namespace Call

theorem taken_of_tokens {call : Call} {w : List Token}
    (h : call.before.rest.tokens = w ++ call.after.rest.tokens) : call.taken = w := by
  rw [taken, h, List.rdrop_append_length]

end Call

namespace Cursor

variable {goal : TokenKind} {cursor : Cursor}

theorem call_of_run {result : Except ReadFailure (List TypeNode)} {rest : TokenStream}
    (h : run goal cursor.text cursor.rest.ending .start cursor.rest.tokens = (result, rest)) :
    cursor.call goal = ⟨goal, cursor, result, ⟨cursor.text, rest⟩⟩ := by
  rw [call, read, h]

/-- A call comes to the end of the stream, or it ends at one of its tokens. -/
inductive CallOf (goal : TokenKind) (cursor : Cursor) : Call → Prop
  | atEnd : (∀ token ∈ cursor.rest.tokens, token.kind ≠ .closing .finish) →
    CallOf goal cursor
      ⟨goal, cursor, .error (failureAtEnd cursor.text cursor.rest.ending),
        ⟨cursor.text, ⟨[], .exhausted⟩⟩⟩
  | accepted {w rest : List Token} {token : Token} {nodes : List TypeNode} :
    cursor.rest.tokens = w ++ token :: rest →
      (∀ token ∈ w, token.kind ≠ .closing .finish) →
      CallOf goal cursor
        ⟨goal, cursor, .ok nodes, ⟨cursor.text, ⟨rest, cursor.rest.ending⟩⟩⟩
  | fault {w rest : List Token} {token : Token} {cause : Cause} :
    cursor.rest.tokens = w ++ token :: rest →
      (∀ token ∈ w, token.kind ≠ .closing .finish) → cause ≠ .invalidCharacter →
      CallOf goal cursor
        ⟨goal, cursor, .error (.malformed ⟨⟨cause, token.lexeme, token.position⟩, cursor.text⟩),
          ⟨cursor.text, ⟨rest, cursor.rest.ending⟩⟩⟩
  | notTerminator {w rest : List Token} {token : Token} {found : Terminator} :
    cursor.rest.tokens = w ++ token :: rest →
      (∀ token ∈ w, token.kind ≠ .closing .finish) → token.kind = .closing found →
      (∀ terminator, goal ≠ .closing terminator) →
      CallOf goal cursor
        ⟨goal, cursor, .error (.notTerminator goal),
          ⟨cursor.text, ⟨rest, cursor.rest.ending⟩⟩⟩

theorem callOf_call (goal : TokenKind) (cursor : Cursor) :
    CallOf goal cursor (cursor.call goal) := by
  obtain ⟨w, reader, hadvance, ⟨hw, hrun⟩ |
    ⟨token, rest, htokens, ⟨nodes, -, hrun⟩ | ⟨reason, hstep, hrun⟩⟩⟩ :=
    exists_advance goal cursor.text cursor.rest.ending .start cursor.rest.tokens
  · have hfinish := Reader.kind_ne_finish_of_advance hadvance
    rw [call_of_run hrun]
    exact .atEnd (hw ▸ hfinish)
  · rw [call_of_run hrun]
    exact .accepted htokens (Reader.kind_ne_finish_of_advance hadvance)
  · have hfinish := Reader.kind_ne_finish_of_advance hadvance
    rw [call_of_run hrun]
    cases reason with
    | fault cause => exact .fault htokens hfinish (Reader.cause_ne_invalidCharacter hstep)
    | notTerminator kind =>
      cases Reader.stepOf_of_eq hstep with
      | notTerminator hfound hnone =>
        have hgoal := Reader.due_eq_goal hnone
        rw [failureAt, hgoal]
        exact .notTerminator htokens hfinish hfound (hgoal ▸ hnone)

theorem left_after (h : cursor.rest.Left) (goal : TokenKind) :
    (cursor.call goal).after.rest.Left := by
  have hbehind : ∀ {w rest : List Token} {token : Token},
      cursor.rest.tokens = w ++ token :: rest → TokenStream.Left ⟨rest, cursor.rest.ending⟩ := by
    intro w rest token htokens
    have hsplit : TokenStream.Left ⟨w ++ token :: rest, cursor.rest.ending⟩ := htokens ▸ h
    rcases hsplit.behind with ⟨-, hcomplete⟩ | ⟨-, hspent⟩
    · exact .inl hcomplete
    · exact .inr hspent
  have hcall := callOf_call goal cursor
  generalize cursor.call goal = call at hcall ⊢
  cases hcall with
  | atEnd => exact .inr rfl
  | accepted htokens => exact hbehind htokens
  | fault htokens => exact hbehind htokens
  | notTerminator htokens => exact hbehind htokens

/-- Reaching the end leaves nothing for the calls that follow. -/
theorem spent_of_reachesEnd (h : cursor.rest.Left) (hend : (cursor.call goal).ReachesEnd) :
    (cursor.call goal).after.rest.Spent := by
  have hbehind : ∀ {w rest : List Token} {token : Token},
      cursor.rest.tokens = w ++ token :: rest →
      (∀ token ∈ w, token.kind ≠ .closing .finish) →
      (∃ other ∈ cursor.rest.tokens.rdrop rest.length, other.kind = .closing .finish) →
      TokenStream.Spent ⟨rest, cursor.rest.ending⟩ := by
    intro w rest token htokens hw htaken
    have hsplit : TokenStream.Left ⟨w ++ token :: rest, cursor.rest.ending⟩ := htokens ▸ h
    rw [htokens, List.append_cons, List.rdrop_append_length] at htaken
    obtain ⟨other, hother, hfinish⟩ := htaken
    rcases List.mem_append.mp hother with hother | hother
    · exact absurd hfinish (hw other hother)
    · obtain rfl := List.mem_singleton.mp hother
      rcases hsplit.behind with ⟨hne, -⟩ | ⟨-, hspent⟩
      · exact absurd hfinish hne
      · exact hspent
  have hcall := callOf_call goal cursor
  generalize cursor.call goal = call at hcall hend ⊢
  cases hcall with
  | atEnd => rfl
  | accepted htokens hw =>
    rcases hend with htaken | ⟨error, hresult, -⟩
    · exact hbehind htokens hw htaken
    · cases hresult
  | fault htokens hw hcause =>
    rcases hend with htaken | ⟨error, hresult, hinvalid⟩
    · exact hbehind htokens hw htaken
    · cases hresult
      exact absurd hinvalid hcause
  | notTerminator htokens hw =>
    rcases hend with htaken | ⟨error, hresult, -⟩
    · exact hbehind htokens hw htaken
    · cases hresult

theorem call_of_spent (h : cursor.rest.Spent) (goal : TokenKind) :
    cursor.call goal = ⟨goal, cursor, .error .streamEnded, cursor⟩ := by
  obtain ⟨text, rest⟩ := cursor
  obtain rfl : rest = ⟨[], .exhausted⟩ := h
  rfl

/-- What a call asks for is given to it if the stream begins with it. -/
theorem call_of_types {w : List Token} {last : Token} {nodes : List TypeNode}
    (hoffers : (cursor.call goal).Offers w last) (htypes : Types w nodes) :
    (cursor.call goal).result = .ok nodes ∧ (cursor.call goal).taken = w ++ [last] := by
  obtain ⟨⟨rest, hrest⟩, hlast, terminator, hgoal⟩ := hoffers
  have htokens : cursor.rest.tokens = w ++ last :: rest := by
    rw [List.append_cons]
    exact hrest.symm
  obtain rfl : goal = .closing terminator := hgoal
  have hrun : run (.closing terminator) cursor.text cursor.rest.ending .start
      cursor.rest.tokens = (.ok nodes, ⟨rest, cursor.rest.ending⟩) := by
    rw [htokens]
    exact run_of_types htypes hlast
  rw [call_of_run hrun]
  exact ⟨rfl, Call.taken_of_tokens hrest.symm⟩

theorem exists_offers (h : cursor.rest.Left) {nodes : List TypeNode}
    (hresult : (cursor.call goal).result = .ok nodes) :
    ∃ w last, (cursor.call goal).Offers w last ∧ Types w nodes := by
  have hrun : run goal cursor.text cursor.rest.ending .start cursor.rest.tokens =
      (.ok nodes, (cursor.read goal).2.rest) := by
    rw [← hresult]
    rfl
  obtain ⟨w, last, rest, htokens, hlast, ⟨terminator, hterminator⟩, -, -, htypes⟩ :=
    types_of_run hrun h.kind_ne_blank
  refine ⟨w, last, ⟨⟨rest, ?_⟩, hlast, terminator, hlast.symm.trans hterminator⟩, htypes⟩
  rw [← List.append_cons]
  exact htokens.symm

theorem tokens_call (goal : TokenKind) (cursor : Cursor) :
    cursor.rest.tokens = (cursor.call goal).taken ++ (cursor.call goal).after.rest.tokens := by
  have hsuffix : ∃ w, cursor.rest.tokens = w ++ (cursor.call goal).after.rest.tokens := by
    have hcall := callOf_call goal cursor
    generalize cursor.call goal = call at hcall ⊢
    cases hcall with
    | atEnd => exact ⟨_, (List.append_nil _).symm⟩
    | accepted htokens => exact ⟨_, htokens.trans (List.append_cons _ _ _)⟩
    | fault htokens => exact ⟨_, htokens.trans (List.append_cons _ _ _)⟩
    | notTerminator htokens => exact ⟨_, htokens.trans (List.append_cons _ _ _)⟩
  obtain ⟨w, hw⟩ := hsuffix
  have htaken : (cursor.call goal).taken = w := Call.taken_of_tokens hw
  rw [htaken]
  exact hw

theorem failsWith_call (h : cursor.rest.Left) {failure : ReadFailure}
    (hresult : (cursor.call goal).result = .error failure) :
    (cursor.call goal).FailsWith cursor.text failure := by
  have hcall := callOf_call goal cursor
  generalize cursor.call goal = call at hcall hresult ⊢
  cases hcall with
  | atEnd hfinish =>
    obtain rfl := Except.error.inj hresult
    cases hending : cursor.rest.ending with
    | exhausted => exact .ended (h.spent hfinish hending)
    | invalid c position => exact .invalid (Call.taken_of_tokens (List.append_nil _).symm) hending
  | accepted => cases hresult
  | fault htokens _ hcause =>
    obtain rfl := Except.error.inj hresult
    exact .fault (Call.taken_of_tokens (htokens.trans (List.append_cons _ _ _))) hcause
  | notTerminator htokens _ hfound hnone =>
    obtain rfl := Except.error.inj hresult
    exact .notTerminator (Call.taken_of_tokens (htokens.trans (List.append_cons _ _ _))) hfound
      hnone

theorem faithful_call (h : cursor.rest.Left) (goal : TokenKind) :
    (cursor.call goal).Faithful cursor.text where
  tokens := tokens_call goal cursor
  accepts_iff _ :=
    ⟨exists_offers h, fun ⟨_, _, hoffers, htypes⟩ => (call_of_types hoffers htypes).1⟩
  taken_eq hoffers htypes := (call_of_types hoffers htypes).2
  fails hresult := failsWith_call h hresult

/-! ## Calls one after another -/

theorem tokens_calls (cursor : Cursor) (goals : List TokenKind) :
    cursor.rest.tokens =
      (cursor.calls goals).flatMap Call.taken ++ (cursor.afterCalls goals).rest.tokens := by
  induction goals generalizing cursor with
  | nil => rfl
  | cons goal goals ih =>
    rw [calls, afterCalls, List.flatMap_cons, List.append_assoc, ← ih]
    exact tokens_call goal cursor

theorem isChain_calls (cursor : Cursor) (goals : List TokenKind) :
    (cursor.calls goals).IsChain fun call next => next.before = call.after := by
  induction goals generalizing cursor with
  | nil => exact .nil
  | cons goal goals ih =>
    rw [calls, List.isChain_cons]
    refine ⟨?_, ih _⟩
    intro next hnext
    cases goals with
    | nil => cases hnext
    | cons other goals =>
      obtain rfl := Option.some.inj hnext
      rfl

theorem faithful_of_mem_calls (h : cursor.rest.Left) (goals : List TokenKind) :
    ∀ call ∈ cursor.calls goals, call.Faithful cursor.text := by
  induction goals generalizing cursor with
  | nil => exact fun _ hmem => absurd hmem List.not_mem_nil
  | cons goal goals ih =>
    intro call hmem
    rcases List.mem_cons.mp hmem with rfl | hmem
    · exact faithful_call h goal
    · exact ih (left_after h goal) call hmem

theorem ended_of_mem_calls (h : cursor.rest.Spent) (goals : List TokenKind) :
    ∀ call ∈ cursor.calls goals, call.result = .error .streamEnded ∧ call.taken = [] := by
  induction goals with
  | nil => exact fun _ hmem => absurd hmem List.not_mem_nil
  | cons goal goals ih =>
    intro call hmem
    rw [calls, call_of_spent h] at hmem
    rcases List.mem_cons.mp hmem with rfl | hmem
    · exact ⟨rfl, Call.taken_of_tokens (List.nil_append _).symm⟩
    · exact ih call hmem

theorem pairwise_calls (h : cursor.rest.Left) (goals : List TokenKind) :
    (cursor.calls goals).Pairwise fun call later =>
      call.ReachesEnd → later.result = .error .streamEnded ∧ later.taken = [] := by
  induction goals generalizing cursor with
  | nil => exact .nil
  | cons goal goals ih =>
    refine .cons ?_ (ih (left_after h goal))
    intro later hlater hend
    exact ended_of_mem_calls (spent_of_reachesEnd h hend) goals later hlater

end Cursor

/-- However often a text is read and up to whatever kinds of token, the readings take
adjacent segments of its tokens.  Each of them takes just what it is bound to take, and
after the one that reaches the end of the stream there is nothing left to take. -/
theorem calls_share_stream (text : String) (goals : List TokenKind) :
    (tokenize text).tokens =
        ((Cursor.ofText text).calls goals).flatMap Call.taken ++
          ((Cursor.ofText text).afterCalls goals).rest.tokens ∧
      (((Cursor.ofText text).calls goals).IsChain fun call next => next.before = call.after) ∧
      (∀ call ∈ (Cursor.ofText text).calls goals, call.Faithful text) ∧
      ((Cursor.ofText text).calls goals).Pairwise fun call later =>
        call.ReachesEnd → later.result = .error .streamEnded ∧ later.taken = [] := by
  have hleft : (Cursor.ofText text).rest.Left :=
    .inl (TokenStream.complete_scan 0 text.toList)
  exact ⟨Cursor.tokens_calls (Cursor.ofText text) goals, Cursor.isChain_calls _ goals,
    Cursor.faithful_of_mem_calls hleft goals, Cursor.pairwise_calls hleft goals⟩

/-- The second reading stops at a bracket that it does not wait for, and the third one goes
on behind this bracket. -/
example :
    ((Cursor.ofText "A> B, C) D").calls
      [.closing .angle, .closing .angle, .closing .finish, .closing .finish]).map
        (fun call => (call.taken.map (·.lexeme), call.result.toOption)) =
      [(["A", ">"], some [.simple "A"]), (["B", ",", "C", ")"], none),
        (["D", ""], some [.simple "D"]), ([], none)] := by
  cbv

end Annotation
end TypeStub
