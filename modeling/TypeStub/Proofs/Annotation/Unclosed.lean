import Mathlib.Data.List.Induction
import TypeStub.Proofs.Annotation.Acceptance

/-!
# Unclosed brackets

Which token of a text is at fault, and for which cause, is seen from the tokens in front of
it without a reader.  They leave a bracket open, or none, and the tokens behind this bracket
are a `Frame`, in which every bracket is closed.  A mapping has two frames, one for its keys
and one behind the arrow.

The innermost bracket is found without a stack.  In balanced tokens more brackets are closed
than opened behind any bracket or arrow, so no more than one of those that are open has
balanced tokens behind it (`Frame.unique`).

A token offends against its frame (`Offends`) if it is a name where an entry has begun, a
separator or the end of the frame where none has, or a terminator that does not end the
frame.  A text is at fault at the first token that offends, or at a character of no token if
none does: `parse_eq_error_iff`.
-/

namespace TypeStub
namespace Annotation

/-- Tokens in which every bracket is closed, a brace with an arrow inside. -/
inductive Balanced : List Token → Prop
  | nil : Balanced []
  | single {token : Token} : token.kind = .name ∨ token.kind = .separator → Balanced [token]
  | append {v w : List Token} : Balanced v → Balanced w → Balanced (v ++ w)
  | angle {first last : Token} {w : List Token} :
    first.kind = .opening .angle → Balanced w → last.kind = .closing .angle →
      Balanced (first :: w ++ [last])
  | paren {first last : Token} {w : List Token} :
    first.kind = .opening .paren → Balanced w → last.kind = .closing .paren →
      Balanced (first :: w ++ [last])
  | brace {first arrow last : Token} {ks vs : List Token} :
    first.kind = .opening .brace → Balanced ks → arrow.kind = .closing .arrow → Balanced vs →
      last.kind = .closing .brace → Balanced (first :: ks ++ arrow :: vs ++ [last])

/-- The tokens end with those of a frame, which stand behind the innermost bracket that is
open, and the terminator is what ends it.  Without an open bracket the frame is all of the
tokens.  The values of a mapping stand behind its arrow. -/
inductive Frame : List Token → Terminator → List Token → Prop
  | outermost {frame : List Token} : Balanced frame → Frame frame .finish frame
  | angle {w frame : List Token} {first : Token} :
    first.kind = .opening .angle → Balanced frame → Frame (w ++ first :: frame) .angle frame
  | paren {w frame : List Token} {first : Token} :
    first.kind = .opening .paren → Balanced frame → Frame (w ++ first :: frame) .paren frame
  | keys {w frame : List Token} {first : Token} :
    first.kind = .opening .brace → Balanced frame → Frame (w ++ first :: frame) .arrow frame
  | values {w ks frame : List Token} {first arrow : Token} :
    first.kind = .opening .brace → Balanced ks → arrow.kind = .closing .arrow →
      Balanced frame → Frame (w ++ first :: ks ++ arrow :: frame) .brace frame

/-- A name or a group stands in the frame behind its last separator, if it has one.  It ends
the frame, because what a group encloses ends with the group. -/
def HasEntry (frame : List Token) : Prop :=
  ∃ last, frame.getLast? = some last ∧ last.kind ≠ .separator

/-- What a message calls a terminator. -/
inductive Called : Terminator → String → Prop
  | angle : Called .angle "'>'"
  | paren : Called .paren "')'"
  | arrow : Called .arrow "'=>'"
  | brace : Called .brace "'\x7d'"
  | finish : Called .finish "end of input"

/-- The token cannot stand behind the tokens `w`, for a cause with its message. -/
inductive Offends (w : List Token) (token : Token) : Cause → String → Prop
  | secondName {due : Terminator} {frame : List Token} :
    Frame w due frame → token.kind = .name → HasEntry frame →
      Offends w token .secondName ("expecting END, got name '" ++ token.lexeme ++ "'")
  | wrongTerminator {due found : Terminator} {frame : List Token} {expected got : String} :
    Frame w due frame → token.kind = .closing found → found ≠ due →
      Called due expected → Called found got →
      Offends w token (.wrongTerminator due found) ("expecting " ++ expected ++ ", got " ++ got)
  | missingName {due : Terminator} {frame : List Token} :
    Frame w due frame → token.kind = .separator ∨ token.kind = .closing due → ¬HasEntry frame →
      Offends w token .missingName
        ("expecting name, got '" ++ token.lexeme ++ "' at " ++ token.position.repr)

/-- No token offends against those in front of it. -/
def Inoffensive (w : List Token) : Prop :=
  ∀ v token, v ++ [token] <+: w → ∀ cause message, ¬Offends v token cause message

/-- The token is the first one to offend, behind the tokens `w` of the stream. -/
structure FirstOffence (tokens w : List Token) (token : Token) (cause : Cause)
    (message : String) : Prop where
  stands : w ++ [token] <+: tokens
  inoffensive : Inoffensive w
  offends : Offends w token cause message

/-! ## Counting brackets -/

/-- One for a bracket that the token opens, less one for a bracket that it closes. -/
def Token.rise (token : Token) : Int :=
  match token.kind with
  | .opening _ => 1
  | .closing .arrow => 0
  | .closing _ => -1
  | _ => 0

/-- How many more brackets are opened than closed. -/
def rise : List Token → Int
  | [] => 0
  | token :: w => token.rise + rise w

@[simp] theorem rise_nil : rise [] = 0 := rfl

@[simp] theorem rise_cons (token : Token) (w : List Token) :
    rise (token :: w) = token.rise + rise w := rfl

@[simp] theorem rise_append (v w : List Token) : rise (v ++ w) = rise v + rise w := by
  induction v with
  | nil => simp
  | cons token v ih =>
    rw [List.cons_append, rise_cons, rise_cons, ih]
    omega

theorem Balanced.rise_eq_zero {w : List Token} (h : Balanced w) : rise w = 0 := by
  induction h with
  | nil => rfl
  | single hkind => rcases hkind with hkind | hkind <;> simp [Token.rise, hkind]
  | append _ _ ih ih' => rw [rise_append, ih, ih', Int.add_zero]
  | angle hfirst _ hlast ih => simp [Token.rise, hfirst, hlast, ih]
  | paren hfirst _ hlast ih => simp [Token.rise, hfirst, hlast, ih]
  | brace hfirst _ harrow _ hlast ih ih' => simp [Token.rise, hfirst, harrow, hlast, ih, ih']

/-- The end of the frame that a token begins. -/
def Token.due? (token : Token) : Option Terminator :=
  match token.kind with
  | .opening .angle => some .angle
  | .opening .paren => some .paren
  | .opening .brace => some .arrow
  | .closing .arrow => some .brace
  | _ => none

/-- Behind each token that begins a frame more brackets are closed than opened. -/
def EndsFrames : List Token → Prop
  | [] => True
  | token :: w => (token.due? ≠ none → rise w < 0) ∧ EndsFrames w

theorem EndsFrames.append {v w : List Token} (hv : EndsFrames v) (hw : EndsFrames w)
    (hrise : rise w ≤ 0) : EndsFrames (v ++ w) := by
  induction v with
  | nil => exact hw
  | cons token v ih =>
    refine ⟨fun hdue => ?_, ih hv.2⟩
    have hbehind := hv.1 hdue
    show rise (v ++ w) < 0
    rw [rise_append]
    omega

theorem EndsFrames.rise_neg {v w : List Token} {token : Token}
    (h : EndsFrames (v ++ token :: w)) (hdue : token.due? ≠ none) : rise w < 0 := by
  induction v with
  | nil => exact h.1 hdue
  | cons first v ih => exact ih h.2

/-- A bracket that closes begins no frame. -/
theorem EndsFrames.of_closing {last : Token} {found : Terminator}
    (hlast : last.kind = .closing found) (hfound : found ≠ .arrow) : EndsFrames [last] := by
  refine ⟨fun hdue => absurd ?_ hdue, trivial⟩
  rw [Token.due?, hlast]
  cases found with
  | arrow => exact absurd rfl hfound
  | _ => rfl

theorem Balanced.endsFrames {w : List Token} (h : Balanced w) : EndsFrames w := by
  have henclose : ∀ {first last : Token} {w : List Token} {found : Terminator},
      last.kind = .closing found → found ≠ .arrow → Balanced w → EndsFrames w →
        EndsFrames (first :: (w ++ [last])) := by
    intro first last w found hlast hfound hw ih
    have hrise : rise [last] = -1 := by
      rw [rise_cons, Token.rise, hlast]
      cases found with
      | arrow => exact absurd rfl hfound
      | _ => rfl
    refine ⟨fun _ => ?_, ih.append (.of_closing hlast hfound) (by omega)⟩
    rw [rise_append, hw.rise_eq_zero]
    omega
  induction h with
  | nil => trivial
  | single hkind =>
    refine ⟨fun hdue => absurd ?_ hdue, trivial⟩
    rcases hkind with hkind | hkind <;> rw [Token.due?, hkind]
  | append hv hw ih ih' => exact ih.append ih' (Int.le_of_eq hw.rise_eq_zero)
  | angle _ hw hlast ih => exact henclose hlast (by decide) hw ih
  | paren _ hw hlast ih => exact henclose hlast (by decide) hw ih
  | @brace first arrow last ks vs hfirst hks harrow hvs hlast ih ih' =>
    have hvalues : EndsFrames (arrow :: (vs ++ [last])) := henclose hlast (by decide) hvs ih'
    have hrise : rise (arrow :: (vs ++ [last])) = -1 := by
      simp [Token.rise, harrow, hlast, hvs.rise_eq_zero]
    have hall : EndsFrames (first :: (ks ++ arrow :: (vs ++ [last]))) := by
      refine ⟨fun _ => ?_, ih.append hvalues (by omega)⟩
      rw [rise_append, hks.rise_eq_zero, hrise]
      omega
    simpa using hall

/-- Balanced tokens cannot be cut behind a token that begins a frame. -/
theorem Balanced.not_balanced_behind {v w : List Token} {token : Token}
    (h : Balanced (v ++ token :: w)) (hdue : token.due? ≠ none) : ¬Balanced w := by
  intro hw
  have hneg := h.endsFrames.rise_neg hdue
  have hzero := hw.rise_eq_zero
  omega

namespace Frame

variable {w frame frame' : List Token} {due due' : Terminator}

theorem balanced (h : Frame w due frame) : Balanced frame := by
  cases h <;> assumption

/-- A frame begins with the first token or behind the token that begins it. -/
theorem eq_or_exists_due? (h : Frame w due frame) :
    (w = frame ∧ due = .finish) ∨ ∃ v first, w = v ++ first :: frame ∧ first.due? = some due := by
  cases h with
  | outermost => exact .inl ⟨rfl, rfl⟩
  | angle hfirst => exact .inr ⟨_, _, rfl, by rw [Token.due?, hfirst]⟩
  | paren hfirst => exact .inr ⟨_, _, rfl, by rw [Token.due?, hfirst]⟩
  | keys hfirst => exact .inr ⟨_, _, rfl, by rw [Token.due?, hfirst]⟩
  | values _ _ harrow => exact .inr ⟨_, _, rfl, by rw [Token.due?, harrow]⟩

/-- Tokens end with one frame only. -/
theorem unique (h : Frame w due frame) (h' : Frame w due' frame') :
    due = due' ∧ frame = frame' := by
  have hbalanced := h.balanced
  have hbalanced' := h'.balanced
  rcases h.eq_or_exists_due? with ⟨rfl, rfl⟩ | ⟨v, first, rfl, hfirst⟩
  · rcases h'.eq_or_exists_due? with ⟨rfl, rfl⟩ | ⟨v', first', rfl, hfirst'⟩
    · exact ⟨rfl, rfl⟩
    · exact absurd hbalanced' (hbalanced.not_balanced_behind (by simp [hfirst']))
  · rcases h'.eq_or_exists_due? with ⟨rfl, rfl⟩ | ⟨v', first', hsplit, hfirst'⟩
    · exact absurd hbalanced (hbalanced'.not_balanced_behind (by simp [hfirst]))
    · -- The frame that begins later would stand in the other one, behind the token that begins it.
      rcases List.append_eq_append_iff.mp hsplit with ⟨u, -, hu⟩ | ⟨u, -, hu⟩
      · rcases u with - | ⟨token, u⟩
        · obtain ⟨rfl, rfl⟩ := List.cons.inj hu
          exact ⟨Option.some.inj (hfirst.symm.trans hfirst'), rfl⟩
        · obtain ⟨-, rfl⟩ := List.cons.inj hu
          exact absurd hbalanced' (hbalanced.not_balanced_behind (by simp [hfirst']))
      · rcases u with - | ⟨token, u⟩
        · obtain ⟨rfl, rfl⟩ := List.cons.inj hu
          exact ⟨Option.some.inj (hfirst.symm.trans hfirst'), rfl⟩
        · obtain ⟨-, rfl⟩ := List.cons.inj hu
          exact absurd hbalanced (hbalanced'.not_balanced_behind (by simp [hfirst]))

end Frame

/-! ## The frame of a reader -/

theorem SingleGroup.kind_last {w : List Token} {bracket : Bracket} {group : Group}
    (h : SingleGroup w bracket group) :
    ∃ last, w.getLast? = some last ∧ last.kind ≠ .separator := by
  cases h with
  | angle _ _ hlast => exact ⟨_, List.getLast?_concat, by simp [hlast]⟩
  | paren _ _ hlast => exact ⟨_, List.getLast?_concat, by simp [hlast]⟩
  | brace _ _ _ _ hlast => exact ⟨_, List.getLast?_concat, by simp [hlast]⟩

theorem preserved_balanced :
    Preserved (fun w _ => Balanced w) (fun w _ => Balanced w) (fun w _ _ => Balanced w)
      (fun w _ _ => Balanced w) where
  single hnode := hnode
  cons hnode hseparator hnodes := hnode.append (.append (.single (.inr hseparator)) hnodes)
  name hname := .single (.inl hname)
  named hname hgroups := .append (.single (.inl hname)) hgroups
  unnamed hgroups := hgroups
  group hgroup := hgroup
  groups hgroup hgroups := hgroup.append hgroups
  angle := .angle
  paren := .paren
  brace := .brace

theorem Types.balanced {w : List Token} {nodes : List TypeNode} (h : Types w nodes) :
    Balanced w :=
  preserved_balanced.types h

theorem SingleGroup.balanced {w : List Token} {bracket : Bracket} {group : Group}
    (h : SingleGroup w bracket group) : Balanced w := by
  cases h with
  | angle hfirst htypes hlast => exact .angle hfirst htypes.balanced hlast
  | paren hfirst htypes hlast => exact .paren hfirst htypes.balanced hlast
  | brace hfirst hkeys harrow hvalues hlast =>
    exact .brace hfirst hkeys.balanced harrow hvalues.balanced hlast

theorem EntryOf.balanced {w : List Token} {entry : Entry} (h : EntryOf w entry) :
    Balanced w := by
  induction h with
  | empty => exact .nil
  | named hname => exact .single (.inl hname)
  | grouped _ hgroup ih => exact ih.append hgroup.balanced

theorem EntryOf.hasEntry_iff {w : List Token} {entry : Entry} (h : EntryOf w entry) :
    HasEntry w ↔ entry ≠ .empty := by
  cases h with
  | empty => simp [HasEntry]
  | named hname => simp [HasEntry, hname]
  | grouped _ hgroup =>
    obtain ⟨last, hlast, hkind⟩ := hgroup.kind_last
    refine ⟨fun _ => nofun, fun _ => ⟨last, ?_, hkind⟩⟩
    rw [List.getLast?_append, hlast, Option.some_or]

theorem ListOf.balanced {w : List Token} {done : List TypeNode} {entry : Entry}
    (h : ListOf w done entry) : Balanced w := by
  cases h with
  | first hentry => exact hentry.balanced
  | next htypes hseparator hentry =>
    exact htypes.balanced.append (.append (.single (.inr hseparator)) hentry.balanced)

theorem ListOf.hasEntry_iff {w : List Token} {done : List TypeNode} {entry : Entry}
    (h : ListOf w done entry) : HasEntry w ↔ entry ≠ .empty := by
  cases h with
  | first hentry => exact hentry.hasEntry_iff
  | @next ws w separator _ _ htypes hseparator hentry =>
    rw [← hentry.hasEntry_iff, HasEntry, HasEntry, List.getLast?_append]
    cases w with
    | nil => simp [hseparator]
    | cons token w => simp [List.getLast?_cons]

/-- The tokens in front of a reader end with the frame that it is in. -/
theorem ReaderOf.exists_frame {w : List Token} {reader : Reader} (h : ReaderOf w reader) :
    ∃ due frame, Frame w due frame ∧ reader.due (.closing .finish) = .closing due ∧
      (HasEntry frame ↔ reader.entry ≠ .empty) := by
  obtain ⟨ws, frame, rfl, hstack, hlist⟩ := h
  have hbalanced := hlist.balanced
  have hentry := hlist.hasEntry_iff
  obtain ⟨outer, done, entry⟩ := reader
  cases hstack with
  | nil => exact ⟨.finish, frame, .outermost hbalanced, rfl, hentry⟩
  | @cons w _ _ _ _ hlevel =>
    cases hlevel with
    | @opened v _ _ bracket first _ hfirst =>
      rw [← List.append_assoc, List.append_assoc, List.singleton_append]
      cases bracket with
      | angle => exact ⟨.angle, frame, .angle hfirst hbalanced, rfl, hentry⟩
      | paren => exact ⟨.paren, frame, .paren hfirst hbalanced, rfl, hentry⟩
      | brace => exact ⟨.arrow, frame, .keys hfirst hbalanced, rfl, hentry⟩
    | @arrow v ks _ _ _ first arrow _ hfirst hkeys harrow =>
      refine ⟨.brace, frame, ?_, rfl, hentry⟩
      have hframe : Frame ((w ++ v) ++ first :: ks ++ arrow :: frame) .brace frame :=
        .values hfirst hkeys.balanced harrow hbalanced
      simpa using hframe

/-! ## Offences stop a reader -/

theorem called_describe (terminator : Terminator) : Called terminator terminator.describe := by
  cases terminator
  · exact .angle
  · exact .paren
  · exact .arrow
  · exact .brace
  · exact .finish

theorem Called.describe_eq {terminator : Terminator} {text : String} (h : Called terminator text) :
    terminator.describe = text := by
  cases h <;> rfl

theorem Offends.message_eq {w : List Token} {token : Token} {cause : Cause} {message : String}
    (h : Offends w token cause message) :
    (⟨cause, token.lexeme, token.position⟩ : Fault).message = message := by
  cases h with
  | wrongTerminator _ _ _ hexpected hgot =>
    rw [← hexpected.describe_eq, ← hgot.describe_eq]
    rfl
  | _ => rfl

theorem Entry.node?_eq_none_iff {entry : Entry} : entry.node? = none ↔ entry = .empty := by
  cases entry <;> simp [Entry.node?]

theorem ReaderOf.step_of_offends {w : List Token} {token : Token} {reader : Reader}
    {cause : Cause} {message : String} (h : ReaderOf w reader)
    (hoffends : Offends w token cause message) :
    reader.step (.closing .finish) token = .stopped (.fault cause) := by
  obtain ⟨due, frame, hframe, hdue, hentry⟩ := h.exists_frame
  cases hoffends with
  | secondName hother hkind hhas =>
    obtain ⟨rfl, rfl⟩ := hframe.unique hother
    rw [Reader.step, hkind]
    cases hreader : reader.entry with
    | empty => exact absurd hreader (hentry.mp hhas)
    | named => rfl
    | grouped => rfl
  | wrongTerminator hother hkind hfound =>
    obtain ⟨rfl, rfl⟩ := hframe.unique hother
    rw [Reader.step, hkind]
    show reader.terminate _ _ = _
    rw [Reader.terminate, hdue]
    exact if_neg hfound
  | missingName hother hkind hhas =>
    obtain ⟨rfl, rfl⟩ := hframe.unique hother
    have hnode : reader.entry.node? = none := by
      rw [Entry.node?_eq_none_iff]
      by_contra hne
      exact hhas (hentry.mpr hne)
    rcases hkind with hkind | hkind
    · simp only [Reader.step, hkind, hnode]
    · simp only [Reader.step, hkind, Reader.terminate, hdue, hnode, if_true]

theorem ReaderOf.exists_offends {w : List Token} {token : Token} {reader : Reader}
    {reason : Stop} (h : ReaderOf w reader)
    (hstep : reader.step (.closing .finish) token = .stopped reason) :
    ∃ cause message, reason = .fault cause ∧ Offends w token cause message := by
  obtain ⟨due, frame, hframe, hdue, hentry⟩ := h.exists_frame
  cases Reader.stepOf_of_eq hstep with
  | secondName hkind hne => exact ⟨_, _, rfl, .secondName hframe hkind (hentry.mpr hne)⟩
  | missingName hkind hnode =>
    refine ⟨_, _, rfl, .missingName hframe (hdue ▸ hkind) fun hhas => ?_⟩
    exact hentry.mp hhas (Entry.node?_eq_none_iff.mp hnode)
  | wrongTerminator hkind hexpected hfound =>
    obtain rfl := TokenKind.closing.inj (hexpected.symm.trans hdue)
    exact ⟨_, _, rfl,
      .wrongTerminator hframe hkind hfound (called_describe _) (called_describe _)⟩
  | notTerminator _ hnone => exact absurd hdue (hnone due)

/-! ## The first offence -/

theorem Offends.unique {w : List Token} {token : Token} {cause cause' : Cause}
    {message message' : String} (h : Offends w token cause message)
    (h' : Offends w token cause' message') : cause = cause' ∧ message = message' := by
  have hcause : cause = cause' := by
    cases h with
    | secondName hframe hkind hhas =>
      cases h' with
      | secondName => rfl
      | wrongTerminator _ hkind' => cases hkind.symm.trans hkind'
      | missingName _ hkind' =>
        rcases hkind' with hkind' | hkind' <;> cases hkind.symm.trans hkind'
    | wrongTerminator hframe hkind hfound =>
      cases h' with
      | secondName _ hkind' => cases hkind.symm.trans hkind'
      | wrongTerminator hframe' hkind' =>
        obtain ⟨rfl, -⟩ := hframe.unique hframe'
        obtain rfl := TokenKind.closing.inj (hkind.symm.trans hkind')
        rfl
      | missingName hframe' hkind' =>
        obtain ⟨rfl, -⟩ := hframe.unique hframe'
        rcases hkind' with hkind' | hkind'
        · cases hkind.symm.trans hkind'
        · exact absurd (TokenKind.closing.inj (hkind.symm.trans hkind')) hfound
    | missingName hframe hkind =>
      cases h' with
      | secondName _ hkind' => rcases hkind with hkind | hkind <;> cases hkind.symm.trans hkind'
      | wrongTerminator hframe' hkind' hfound =>
        obtain ⟨rfl, -⟩ := hframe.unique hframe'
        rcases hkind with hkind | hkind
        · cases hkind.symm.trans hkind'
        · exact absurd (TokenKind.closing.inj (hkind'.symm.trans hkind)) hfound
      | missingName => rfl
  subst hcause
  exact ⟨rfl, h.message_eq.symm.trans h'.message_eq⟩

theorem Offends.not_opening {w : List Token} {token : Token} {cause : Cause} {message : String}
    (h : Offends w token cause message) (bracket : Bracket) : token.kind ≠ .opening bracket := by
  intro hopening
  cases h with
  | secondName _ hkind => cases hopening.symm.trans hkind
  | wrongTerminator _ hkind => cases hopening.symm.trans hkind
  | missingName _ hkind => rcases hkind with hkind | hkind <;> cases hopening.symm.trans hkind

theorem Inoffensive.concat {w : List Token} {token : Token} (h : Inoffensive w)
    (htoken : ∀ cause message, ¬Offends w token cause message) : Inoffensive (w ++ [token]) := by
  intro v other hbefore
  rcases List.prefix_concat_iff.mp hbefore with heq | hbefore
  · obtain ⟨rfl, hother⟩ := List.append_inj' heq rfl
    obtain rfl := (List.cons.inj hother).1
    exact htoken
  · exact h v other hbefore

theorem FirstOffence.unique {tokens w w' : List Token} {token token' : Token}
    {cause cause' : Cause} {message message' : String}
    (h : FirstOffence tokens w token cause message)
    (h' : FirstOffence tokens w' token' cause' message') : token = token' ∧ cause = cause' := by
  -- Of two first offences neither stands in front of the other.
  have hsame : w ++ [token] = w' ++ [token'] := by
    rcases List.prefix_or_prefix_of_prefix h.stands h'.stands with hbefore | hbefore
    · rcases List.prefix_concat_iff.mp hbefore with heq | hfront
      · exact heq
      · exact absurd h.offends (h'.inoffensive w token hfront cause message)
    · rcases List.prefix_concat_iff.mp hbefore with heq | hfront
      · exact heq.symm
      · exact absurd h'.offends (h.inoffensive w' token' hfront cause' message')
  obtain ⟨rfl, htoken⟩ := List.append_inj' hsame rfl
  obtain rfl := (List.cons.inj htoken).1
  exact ⟨rfl, (h.offends.unique h'.offends).1⟩

theorem inoffensive_of_advance {w : List Token} {reader : Reader}
    (h : Reader.start.advance (.closing .finish) w = some reader)
    (hblank : ∀ token ∈ w, token.kind ≠ .blank) : Inoffensive w := by
  intro v token ⟨rest, hrest⟩ cause message hoffends
  rw [List.append_assoc] at hrest
  rw [← hrest] at h hblank
  obtain ⟨middle, hmiddle, hbehind⟩ := Reader.exists_advance_of_append h
  obtain ⟨next, hstep, -⟩ := Reader.exists_step_of_advance hbehind
  have hreader : ReaderOf v middle := readerOf_start.advance hmiddle fun other hother =>
    hblank other (List.mem_append_left _ hother)
  rw [hreader.step_of_offends hoffends] at hstep
  cases hstep

section

variable {text : String} {tokens w : List Token} {token : Token} {ending : StreamEnd}

/-- Tokens of a text in which none offends are read, up to the token of the end. -/
theorem exists_readerOf_of_inoffensive (htokens : tokenize text = ⟨tokens, ending⟩)
    (hstands : w ++ [token] <+: tokens) (h : Inoffensive w) :
    ∃ reader, Reader.start.advance (.closing .finish) w = some reader ∧ ReaderOf w reader := by
  induction w using List.reverseRecOn generalizing token with
  | nil => exact ⟨.start, rfl, readerOf_start⟩
  | append_singleton w last ih =>
    have hfront : w ++ [last] <+: tokens := (List.prefix_append _ _).trans hstands
    obtain ⟨reader, hadvance, hreader⟩ :=
      ih hfront fun v other hbefore => h v other (hbefore.trans (List.prefix_append _ _))
    have hblank : last.kind ≠ .blank := by
      have hscan := kind_ne_blank text.toList 0
      rw [← tokenize, htokens] at hscan
      exact hscan last (hfront.subset (by simp))
    cases hstep : reader.step (.closing .finish) last with
    | reading next =>
      refine ⟨next, ?_, hreader.step hstep hblank⟩
      rw [Reader.advance_append hadvance, Reader.advance_cons hstep, Reader.advance]
    | finished nodes =>
      -- Behind the token of the end there is no other.
      obtain ⟨rest, hrest⟩ := hstands
      rw [← hrest, List.append_assoc, List.append_assoc, List.singleton_append] at htokens
      cases Reader.stepOf_of_eq hstep with
      | finish hkind =>
        obtain ⟨-, -, hnil, -⟩ :=
          cuts_of_finish htokens (Reader.kind_ne_finish_of_advance hadvance) hkind
        simp at hnil
    | stopped reason =>
      obtain ⟨cause, message, -, hoffends⟩ := hreader.exists_offends hstep
      exact absurd hoffends (h w last (List.prefix_refl _) cause message)

/-- A text is read, or it has a first token that offends, or it ends at a character of no
token. -/
theorem outcome_of_parse (htokens : tokenize text = ⟨tokens, ending⟩) :
    (Inoffensive tokens ∧ ending = .exhausted ∧ ∃ nodes, parse text = .ok nodes) ∨
      (∃ w token cause message, FirstOffence tokens w token cause message ∧
        parse text = .error (.malformed ⟨⟨cause, token.lexeme, token.position⟩, text⟩)) ∨
      ∃ c position, Inoffensive tokens ∧ ending = .invalid c position ∧
        parse text = .error (.malformed ⟨⟨.invalidCharacter, c.toString, position⟩, text⟩) := by
  have hparse : parse text =
      (Cursor.run (.closing .finish) text ending .start tokens).1 := by
    rw [parse, Cursor.read, Cursor.ofText, htokens]
  have hblank : ∀ token ∈ tokens, token.kind ≠ .blank := by
    have hscan := kind_ne_blank text.toList 0
    rwa [← tokenize, htokens] at hscan
  rw [hparse]
  obtain ⟨w, reader, hadvance, ⟨rfl, hrun⟩ |
    ⟨token, rest, rfl, ⟨nodes, hstep, hrun⟩ | ⟨reason, hstep, hrun⟩⟩⟩ :=
    Cursor.exists_advance (.closing .finish) text ending .start tokens
  · obtain ⟨segment, c, rest, -, -, -, rfl⟩ :=
      exists_cuts_of_invalid htokens (Reader.kind_ne_finish_of_advance hadvance)
    rw [hrun]
    exact .inr (.inr ⟨c, _, inoffensive_of_advance hadvance hblank, rfl, rfl⟩)
  · have hfront : ∀ token ∈ w, token.kind ≠ .blank :=
      fun token htoken => hblank token (List.mem_append_left _ htoken)
    have hreader := readerOf_start.advance hadvance hfront
    cases Reader.stepOf_of_eq hstep with
    | finish hkind =>
      obtain ⟨-, -, rfl, rfl⟩ :=
        cuts_of_finish htokens (Reader.kind_ne_finish_of_advance hadvance) hkind
      have hlast : ∀ cause message, ¬Offends w token cause message := by
        intro cause message hoffends
        rw [hreader.step_of_offends hoffends] at hstep
        cases hstep
      rw [hrun]
      exact .inl ⟨(inoffensive_of_advance hadvance hfront).concat hlast, rfl, _, rfl⟩
  · have hfront : ∀ token ∈ w, token.kind ≠ .blank :=
      fun token htoken => hblank token (List.mem_append_left _ htoken)
    have hreader := readerOf_start.advance hadvance hfront
    obtain ⟨cause, message, rfl, hoffends⟩ := hreader.exists_offends hstep
    rw [hrun]
    exact .inr (.inl ⟨w, token, cause, message,
      ⟨⟨rest, by simp⟩, inoffensive_of_advance hadvance hfront, hoffends⟩, rfl⟩)

end

/-- A text is not read just if one of its tokens offends against those in front of it, the
first such token being at fault, or none does and a character of no token is met.  The tokens
up to the fault end with one frame, which alone decides the cause and the message, and no
bracket that opens offends. -/
theorem parse_eq_error_iff (text : String) :
    (∀ failure, parse text = .error failure ↔
        (∃ w token cause message,
            FirstOffence (tokenize text).tokens w token cause message ∧
              failure = .malformed ⟨⟨cause, token.lexeme, token.position⟩, text⟩ ∧
              failure.message = message) ∨
          ∃ c position, Inoffensive (tokenize text).tokens ∧
            (tokenize text).ending = .invalid c position ∧
            failure = .malformed ⟨⟨.invalidCharacter, c.toString, position⟩, text⟩) ∧
      (∀ w token, w ++ [token] <+: (tokenize text).tokens → Inoffensive w →
        ∃ due frame, Frame w due frame ∧
          ∀ due' frame', Frame w due' frame' → due' = due ∧ frame' = frame) ∧
      ∀ w token cause message, FirstOffence (tokenize text).tokens w token cause message →
        ∀ bracket, token.kind ≠ .opening bracket := by
  rcases htokens : tokenize text with ⟨tokens, ending⟩
  refine ⟨fun failure => ⟨fun h => ?_, fun h => ?_⟩, fun w token hstands hw => ?_,
    fun w token cause message h => h.offends.not_opening⟩
  · rcases outcome_of_parse htokens with ⟨-, -, nodes, hok⟩ |
      ⟨w, token, cause, message, hfirst, herror⟩ | ⟨c, position, hclean, hending, herror⟩
    · rw [hok] at h
      cases h
    · obtain rfl := Except.error.inj (herror.symm.trans h)
      exact .inl ⟨w, token, cause, message, hfirst, rfl, hfirst.offends.message_eq⟩
    · obtain rfl := Except.error.inj (herror.symm.trans h)
      exact .inr ⟨c, position, hclean, hending, rfl⟩
  · rcases outcome_of_parse htokens with ⟨hclean, hexhausted, nodes, hok⟩ |
      ⟨w', token', cause', message', hfirst', herror⟩ | ⟨c', position', hclean, hending', herror⟩
    · rcases h with ⟨w, token, cause, message, hfirst, -⟩ | ⟨c, position, -, hending, -⟩
      · exact absurd hfirst.offends (hclean w token hfirst.stands cause message)
      · cases hexhausted.symm.trans hending
    · rcases h with ⟨w, token, cause, message, hfirst, rfl, -⟩ | ⟨c, position, hclean, -⟩
      · obtain ⟨rfl, rfl⟩ := hfirst.unique hfirst'
        exact herror
      · exact absurd hfirst'.offends (hclean w' token' hfirst'.stands cause' message')
    · rcases h with ⟨w, token, cause, message, hfirst, -⟩ | ⟨c, position, -, hending, rfl⟩
      · exact absurd hfirst.offends (hclean w token hfirst.stands cause message)
      · cases hending'.symm.trans hending
        exact herror
  · obtain ⟨reader, -, hreader⟩ := exists_readerOf_of_inoffensive htokens hstands hw
    obtain ⟨due, frame, hframe, -⟩ := hreader.exists_frame
    exact ⟨due, frame, hframe, fun due' frame' hframe' => hframe'.unique hframe⟩

/-- A terminator that is not due offends also where a name is missing. -/
example : parse "Array<(>" =
    .error (.malformed ⟨⟨.wrongTerminator .paren .angle, ">", 7⟩, "Array<(>"⟩) := by
  cbv

end Annotation
end TypeStub
