import TypeStub.Annotation.Cursor
import TypeStub.Proofs.Annotation.Derivation

/-!
# Runs of the reader

`Reader.advance` is a run over tokens that neither finishes nor stops.  Every run of
a cursor is such a run up to the token, or the end of the stream, that decides it.

Types that the grammar derives are such a run too (`readsTypes`): from any level the
reader comes to hold their nodes, the last of them in the entry.
-/

namespace TypeStub
namespace Annotation

namespace Reader

/-- The reader behind tokens that neither finish nor stop it. -/
def advance (goal : TokenKind) : Reader → List Token → Option Reader
  | reader, [] => some reader
  | reader, token :: tokens =>
    match reader.step goal token with
    | .reading next => advance goal next tokens
    | .finished _ => none
    | .stopped _ => none

variable {goal : TokenKind} {outer : List Level} {done : List TypeNode} {entry : Entry}
  {token : Token}

theorem advance_cons {reader next : Reader} (h : reader.step goal token = .reading next)
    (tokens : List Token) :
    advance goal reader (token :: tokens) = advance goal next tokens := by
  rw [advance, h]

theorem exists_step_of_advance {reader next : Reader} {tokens : List Token}
    (h : advance goal reader (token :: tokens) = some next) :
    ∃ middle, reader.step goal token = .reading middle ∧
      advance goal middle tokens = some next := by
  rw [advance] at h
  split at h
  · rename_i middle hstep
    exact ⟨middle, hstep, h⟩
  · cases h
  · cases h

theorem advance_append {reader next : Reader} {w : List Token}
    (h : advance goal reader w = some next) (ws : List Token) :
    advance goal reader (w ++ ws) = advance goal next ws := by
  induction w generalizing reader with
  | nil =>
    obtain rfl := Option.some.inj h
    rfl
  | cons token tokens ih =>
    obtain ⟨middle, hstep, hrest⟩ := exists_step_of_advance h
    rw [List.cons_append, advance_cons hstep, ih hrest]

theorem exists_advance_of_append {reader next : Reader} {w ws : List Token}
    (h : advance goal reader (w ++ ws) = some next) :
    ∃ middle, advance goal reader w = some middle ∧ advance goal middle ws = some next := by
  induction w generalizing reader with
  | nil => exact ⟨reader, rfl, h⟩
  | cons token tokens ih =>
    obtain ⟨behind, hstep, hrest⟩ := exists_step_of_advance h
    obtain ⟨middle, hfront, hback⟩ := ih hrest
    exact ⟨middle, by rwa [advance_cons hstep], hback⟩

/-! ## What one token does -/

theorem step_name (hkind : token.kind = .name) :
    step goal ⟨outer, done, .empty⟩ token = .reading ⟨outer, done, .named token.lexeme⟩ := by
  simp only [step, hkind]

theorem step_separator {node : TypeNode} (hkind : token.kind = .separator)
    (hnode : entry.node? = some node) :
    step goal ⟨outer, done, entry⟩ token = .reading ⟨outer, done ++ [node], .empty⟩ := by
  simp only [step, hkind, hnode]

theorem step_opening {bracket : Bracket} (hkind : token.kind = .opening bracket) :
    step goal ⟨outer, done, entry⟩ token =
      .reading ⟨⟨done, entry.name?.getD bracket.defaultName, .ofBracket bracket⟩ :: outer,
        [], .empty⟩ := by
  simp only [step, hkind]

theorem step_closing {found : Terminator} {node : TypeNode} {reader : Reader}
    (hkind : token.kind = .closing found) (hdue : reader.due goal = .closing found)
    (hnode : reader.entry.node? = some node) :
    step goal reader token = reader.close (reader.done ++ [node]) := by
  simp only [step, hkind, terminate, hdue, hnode, if_true]

/-- What becomes of a reader with a token, a case for each way to get there. -/
inductive StepOf (goal : TokenKind) (reader : Reader) (token : Token) : Outcome → Prop
  | name : token.kind = .name → reader.entry = .empty →
    StepOf goal reader token (.reading { reader with entry := .named token.lexeme })
  | secondName : token.kind = .name → reader.entry ≠ .empty →
    StepOf goal reader token (.stopped (.fault .secondName))
  | separator {node : TypeNode} : token.kind = .separator → reader.entry.node? = some node →
    StepOf goal reader token
      (.reading { reader with done := reader.done ++ [node], entry := .empty })
  | opening {bracket : Bracket} : token.kind = .opening bracket →
    StepOf goal reader token
      (.reading ⟨⟨reader.done, reader.entry.name?.getD bracket.defaultName,
        .ofBracket bracket⟩ :: reader.outer, [], .empty⟩)
  | close {level : Level} {outer : List Level} {node : TypeNode} {next : Reader} :
    token.kind = .closing level.opening.closer → reader.outer = level :: outer →
      reader.entry.node? = some node → reader.close (reader.done ++ [node]) = .reading next →
      StepOf goal reader token (.reading next)
  | finish {node : TypeNode} : token.kind = goal → reader.outer = [] →
    reader.entry.node? = some node → StepOf goal reader token (.finished (reader.done ++ [node]))
  | missingName : token.kind = .separator ∨ token.kind = reader.due goal →
    reader.entry.node? = none → StepOf goal reader token (.stopped (.fault .missingName))
  | wrongTerminator {expected found : Terminator} : token.kind = .closing found →
    reader.due goal = .closing expected → found ≠ expected →
      StepOf goal reader token (.stopped (.fault (.wrongTerminator expected found)))
  | notTerminator {found : Terminator} : token.kind = .closing found →
    (∀ expected, reader.due goal ≠ .closing expected) →
      StepOf goal reader token (.stopped (.notTerminator (reader.due goal)))
  | blank : token.kind = .blank → StepOf goal reader token (.reading reader)

theorem exists_close {reader : Reader} {level : Level} (houter : reader.outer = level :: outer)
    (types : List TypeNode) : ∃ next, reader.close types = .reading next := by
  obtain ⟨done, name, opening⟩ := level
  rw [close, houter]
  cases opening <;> exact ⟨_, rfl⟩

theorem stepOf_terminate {reader : Reader} {found expected : Terminator}
    (hkind : token.kind = .closing found) (hdue : reader.due goal = .closing expected) :
    StepOf goal reader token (reader.terminate goal found) := by
  rw [terminate, hdue]
  by_cases hfound : found = expected
  · subst hfound
    cases hnode : reader.entry.node? with
    | none =>
      simp only [if_true]
      exact .missingName (.inr (hkind.trans hdue.symm)) hnode
    | some node =>
      simp only [if_true]
      cases houter : reader.outer with
      | nil =>
        rw [due, houter] at hdue
        rw [close, houter]
        exact .finish (hkind.trans hdue.symm) houter hnode
      | cons level outer =>
        rw [due, houter] at hdue
        obtain ⟨next, hnext⟩ := exists_close houter (reader.done ++ [node])
        rw [hnext]
        exact .close (hkind.trans hdue.symm) houter hnode hnext
  · simp only [if_neg hfound]
    exact .wrongTerminator hkind hdue hfound

theorem stepOf_step (goal : TokenKind) (reader : Reader) (token : Token) :
    StepOf goal reader token (reader.step goal token) := by
  rw [step]
  cases hkind : token.kind with
  | name =>
    cases hentry : reader.entry with
    | empty => exact .name hkind hentry
    | named _ => exact .secondName hkind (by rw [hentry]; exact nofun)
    | grouped _ _ => exact .secondName hkind (by rw [hentry]; exact nofun)
  | separator =>
    cases hnode : reader.entry.node? with
    | none => exact .missingName (.inl hkind) hnode
    | some node => exact .separator hkind hnode
  | opening bracket => exact .opening hkind
  | closing found =>
    by_cases hdue : ∃ expected, reader.due goal = .closing expected
    · obtain ⟨expected, hdue⟩ := hdue
      exact stepOf_terminate hkind hdue
    · have hnone : ∀ expected, reader.due goal ≠ .closing expected :=
        fun expected h => hdue ⟨expected, h⟩
      have hterminate : reader.terminate goal found =
          .stopped (.notTerminator (reader.due goal)) := by
        rw [terminate]
        split
        · rename_i expected h
          exact absurd h (hnone expected)
        · rfl
      simp only [hterminate]
      exact .notTerminator hkind hnone
  | blank => exact .blank hkind

theorem stepOf_of_eq {reader : Reader} {outcome : Outcome}
    (h : reader.step goal token = outcome) : StepOf goal reader token outcome :=
  h ▸ stepOf_step goal reader token

/-- Only a terminator finishes a reading. -/
theorem closing_of_finished {reader : Reader} {nodes : List TypeNode}
    (h : reader.step goal token = .finished nodes) : ∃ found, token.kind = .closing found := by
  cases hkind : token.kind with
  | closing found => exact ⟨found, rfl⟩
  | name =>
    rw [step, hkind] at h
    cases hentry : reader.entry <;> rw [hentry] at h <;> cases h
  | separator =>
    rw [step, hkind] at h
    cases hnode : reader.entry.node? <;> rw [hnode] at h <;> cases h
  | opening bracket =>
    rw [step, hkind] at h
    cases h
  | blank =>
    rw [step, hkind] at h
    cases h

/-- A character of no token is no token, so it is never the cause of a stop at one. -/
theorem cause_ne_invalidCharacter {reader : Reader} {cause : Cause}
    (h : reader.step goal token = .stopped (.fault cause)) : cause ≠ .invalidCharacter := by
  cases stepOf_of_eq h <;> exact nofun

/-- Inside a bracket a terminator is always due. -/
theorem due_eq_goal {reader : Reader} (h : ∀ expected, reader.due goal ≠ .closing expected) :
    reader.due goal = goal := by
  cases houter : reader.outer with
  | nil => rw [due, houter]
  | cons level outer => exact absurd (by rw [due, houter]) (h level.opening.closer)

/-- A reader that waits for a terminator stops for a cause only. -/
theorem step_eq_stopped {reader : Reader} {terminator : Terminator} {reason : Stop}
    (h : reader.step (.closing terminator) token = .stopped reason) :
    ∃ cause, reason = .fault cause := by
  cases stepOf_of_eq h with
  | secondName => exact ⟨_, rfl⟩
  | missingName => exact ⟨_, rfl⟩
  | wrongTerminator => exact ⟨_, rfl⟩
  | notTerminator _ hnone => exact absurd (due_eq_goal hnone) (hnone terminator)

/-- The token of the end closes no bracket, so it never reads on. -/
theorem kind_ne_finish {reader next : Reader} (h : reader.step goal token = .reading next) :
    token.kind ≠ .closing .finish := by
  intro hkind
  cases stepOf_of_eq h with
  | name hname => cases hkind.symm.trans hname
  | separator hseparator => cases hkind.symm.trans hseparator
  | opening hopening => cases hkind.symm.trans hopening
  | @close level _ _ _ hclosing =>
    have hcloser := hkind.symm.trans hclosing
    cases hlevel : level.opening <;> rw [hlevel] at hcloser <;> cases hcloser
  | blank hblank => cases hkind.symm.trans hblank

theorem kind_ne_finish_of_advance {reader next : Reader} {w : List Token}
    (h : advance goal reader w = some next) :
    ∀ token ∈ w, token.kind ≠ .closing .finish := by
  induction w generalizing reader with
  | nil => exact fun _ hmem => absurd hmem List.not_mem_nil
  | cons token tokens ih =>
    obtain ⟨middle, hstep, hrest⟩ := exists_step_of_advance h
    intro other hmem
    rcases List.mem_cons.mp hmem with rfl | hmem
    · exact kind_ne_finish hstep
    · exact ih hrest other hmem

end Reader

/-! ## Runs of a cursor -/

namespace Cursor

variable {goal : TokenKind} {text : String} {ending : StreamEnd} {reader next : Reader}

theorem run_append {w : List Token} (h : reader.advance goal w = some next)
    (tokens : List Token) :
    run goal text ending reader (w ++ tokens) = run goal text ending next tokens := by
  induction w generalizing reader with
  | nil =>
    obtain rfl := Option.some.inj h
    rfl
  | cons token rest ih =>
    obtain ⟨middle, hstep, hrest⟩ := Reader.exists_step_of_advance h
    rw [List.cons_append, run, hstep]
    exact ih hrest

/-- A run reads on up to the token, or the end of the stream, that decides it. -/
theorem exists_advance (goal : TokenKind) (text : String) (ending : StreamEnd) (reader : Reader)
    (tokens : List Token) :
    ∃ w last, reader.advance goal w = some last ∧
      ((tokens = w ∧
          run goal text ending reader tokens =
            (.error (failureAtEnd text ending), ⟨[], .exhausted⟩)) ∨
        ∃ token rest, tokens = w ++ token :: rest ∧
          ((∃ nodes, last.step goal token = .finished nodes ∧
              run goal text ending reader tokens = (.ok nodes, ⟨rest, ending⟩)) ∨
            ∃ reason, last.step goal token = .stopped reason ∧
              run goal text ending reader tokens =
                (.error (failureAt text token reason), ⟨rest, ending⟩))) := by
  induction tokens generalizing reader with
  | nil => exact ⟨[], reader, rfl, .inl ⟨rfl, rfl⟩⟩
  | cons token tokens ih =>
    cases hstep : reader.step goal token with
    | reading next =>
      have hrun : run goal text ending reader (token :: tokens) =
          run goal text ending next tokens := by
        rw [run, hstep]
      obtain ⟨w, last, hadvance, hlast⟩ := ih next
      refine ⟨token :: w, last, by rwa [Reader.advance_cons hstep], ?_⟩
      rw [hrun]
      rcases hlast with ⟨rfl, hend⟩ | ⟨decider, rest, rfl, hdecides⟩
      · exact .inl ⟨rfl, hend⟩
      · exact .inr ⟨decider, rest, rfl, hdecides⟩
    | finished nodes =>
      refine ⟨[], reader, rfl, .inr ⟨token, tokens, rfl, .inl ⟨nodes, hstep, ?_⟩⟩⟩
      rw [run, hstep]
    | stopped reason =>
      refine ⟨[], reader, rfl, .inr ⟨token, tokens, rfl, .inr ⟨reason, hstep, ?_⟩⟩⟩
      rw [run, hstep]

end Cursor

/-! ## Derived tokens are read -/

namespace Reader

/-- From any level the reader comes to hold the nodes, the last of them in the
entry. -/
def ReadsTypes (w : List Token) (nodes : List TypeNode) : Prop :=
  ∀ (goal : TokenKind) (outer : List Level) (done : List TypeNode),
    ∃ init last entry, nodes = init ++ [last] ∧ entry.node? = some last ∧
      advance goal ⟨outer, done, .empty⟩ w = some ⟨outer, done ++ init, entry⟩

def ReadsType (w : List Token) (node : TypeNode) : Prop :=
  ∀ (goal : TokenKind) (outer : List Level) (done : List TypeNode),
    ∃ entry, entry.node? = some node ∧
      advance goal ⟨outer, done, .empty⟩ w = some ⟨outer, done, entry⟩

/-- The entry comes to hold the group, whatever it held, under the name that it had
or else the one that the bracket implies. -/
def ReadsGroup (w : List Token) (bracket : Bracket) (group : Group) : Prop :=
  ∀ (goal : TokenKind) (outer : List Level) (done : List TypeNode) (entry : Entry),
    advance goal ⟨outer, done, entry⟩ w =
      some ⟨outer, done, .grouped (entry.name?.getD bracket.defaultName) group⟩

theorem ReadsTypes.advance_close {w : List Token} {types : List TypeNode} {last : Token}
    {level : Level} {next : Reader} {goal : TokenKind} {outer : List Level} (h : ReadsTypes w types)
    (hlast : last.kind = .closing level.opening.closer)
    (hclose : ∀ done entry, close ⟨level :: outer, done, entry⟩ types = .reading next) :
    advance goal ⟨level :: outer, [], .empty⟩ (w ++ [last]) = some next := by
  obtain ⟨init, node, entry, rfl, hnode, hadvance⟩ := h goal (level :: outer) []
  rw [List.nil_append] at hadvance
  have hstep : step goal ⟨level :: outer, init, entry⟩ last = .reading next := by
    rw [step_closing hlast rfl hnode]
    exact hclose init entry
  rw [advance_append hadvance, advance_cons hstep, advance]

theorem preserved_reads : Preserved ReadsTypes ReadsType ReadsGroup ReadsGroup where
  single hnode goal outer done := by
    obtain ⟨entry, hentry, hadvance⟩ := hnode goal outer done
    exact ⟨[], _, entry, rfl, hentry, by rwa [List.append_nil]⟩
  cons {w ws separator node nodes} hnode hseparator hnodes goal outer done := by
    obtain ⟨entry, hentry, hadvance⟩ := hnode goal outer done
    obtain ⟨init, last, rest, rfl, hlast, hrest⟩ := hnodes goal outer (done ++ [node])
    refine ⟨node :: init, last, rest, rfl, hlast, ?_⟩
    rw [advance_append hadvance, advance_cons (step_separator hseparator hentry), hrest,
      List.append_assoc, List.singleton_append]
  name hname goal outer done :=
    ⟨.named _, rfl, by rw [advance_cons (step_name hname), advance]⟩
  named hname hgroups goal outer done := by
    refine ⟨.grouped _ _, rfl, ?_⟩
    rw [advance_cons (step_name hname), hgroups]
    rfl
  unnamed hgroups goal outer done := by
    refine ⟨.grouped _ _, rfl, ?_⟩
    rw [hgroups]
    rfl
  group hgroup := hgroup
  groups hgroup hgroups goal outer done entry := by
    rw [advance_append (hgroup goal outer done entry), hgroups]
    rfl
  angle hfirst htypes hlast goal outer done entry := by
    rw [List.cons_append, advance_cons (step_opening hfirst)]
    exact htypes.advance_close hlast fun _ _ => rfl
  paren hfirst htypes hlast goal outer done entry := by
    rw [List.cons_append, advance_cons (step_opening hfirst)]
    exact htypes.advance_close hlast fun _ _ => rfl
  brace {first arrow last ks vs keys values} hfirst hkeys harrow hvalues hlast
      goal outer done entry := by
    -- The arrow closes the list of keys and leaves the bracket open for the values.
    have hks : advance goal ⟨⟨done, entry.name?.getD Bracket.brace.defaultName, .keys⟩ :: outer,
        [], .empty⟩ (ks ++ [arrow]) =
        some ⟨⟨done, entry.name?.getD Bracket.brace.defaultName, .values keys⟩ :: outer,
          [], .empty⟩ :=
      hkeys.advance_close harrow fun _ _ => rfl
    have hsplit : first :: ks ++ arrow :: vs ++ [last] =
        first :: ((ks ++ [arrow]) ++ (vs ++ [last])) := by
      simp
    rw [hsplit, advance_cons (step_opening hfirst), Opening.ofBracket, advance_append hks]
    exact hvalues.advance_close hlast fun _ _ => rfl

theorem readsTypes {w : List Token} {nodes : List TypeNode} (h : Types w nodes) :
    ReadsTypes w nodes :=
  preserved_reads.types h

end Reader

end Annotation
end TypeStub
