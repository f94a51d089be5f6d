/-!
# Patterns

A pattern is looked for at the front of a text by a search that goes back.  Where it has a
choice it tries one side first, and it tries the other side when it cannot go on.
`Pattern.rests` holds all that the search may leave of the text, in the order in which it
comes to it, and the first of them decides what the pattern takes.

A part that may be left out is tried before it is left out, and a repetition goes on as often
as it can before it is tried less often.  `first?_repeated_of_some` says when this never has
to be undone: the first match of a repetition is the first match of its part and then the
first match of the repetition behind it, if there is one.
-/

namespace TypeStub
namespace Text

inductive Pattern
  /-- A character of a class. -/
  | one (admits : Char → Bool)
  | seq (part next : Pattern)
  | either (part other : Pattern)
  /-- The part, or nothing. -/
  | optional (part : Pattern)
  /-- The part once or more often. -/
  | repeated (part : Pattern)

namespace Pattern

/-- What is left behind one step or more of them.  A step that takes nothing is the last. -/
def restsOfSteps (step : List Char → List (List Char)) (cs : List Char) : List (List Char) :=
  (step cs).flatMap fun rest =>
    if _ : rest.length < cs.length then restsOfSteps step rest ++ [rest] else [rest]
termination_by cs.length

/-- What a search for a pattern may leave of a text, in the order in which it is tried. -/
def rests : Pattern → List Char → List (List Char)
  | one _, [] => []
  | one admits, c :: cs => if admits c then [cs] else []
  | seq part next, cs => (part.rests cs).flatMap next.rests
  | either part other, cs => part.rests cs ++ other.rests cs
  | optional part, cs => part.rests cs ++ [cs]
  | repeated part, cs => restsOfSteps part.rests cs

/-- What is left of the text behind the match. -/
def first? (pattern : Pattern) (cs : List Char) : Option (List Char) := (pattern.rests cs).head?

/-- The match of a pattern at the front of a text. -/
def match? (pattern : Pattern) (cs : List Char) : Option (List Char) :=
  (pattern.first? cs).map fun rest => cs.take (cs.length - rest.length)

variable {part next other : Pattern} {cs rest : List Char}

theorem first?_either : (either part other).first? cs = (part.first? cs).or (other.first? cs) :=
  List.head?_append

theorem rests_eq_nil_iff : part.rests cs = [] ↔ part.first? cs = none :=
  List.head?_eq_none_iff.symm

/-- Where the part is found once only, there is nothing to go back for. -/
theorem first?_seq_of_rests (h : part.rests cs = [rest]) :
    (seq part next).first? cs = next.first? rest := by
  rw [first?, rests, h, List.flatMap_singleton, first?]

/-- The part is left out where it is not found, or where nothing can follow it. -/
theorem first?_seq_optional :
    (seq (optional part) next).first? cs =
      ((seq part next).first? cs).or (next.first? cs) := by
  rw [first?, rests, rests, List.flatMap_append, List.flatMap_singleton, List.head?_append]
  rfl

theorem first?_seq_of_none (h : part.first? cs = none) : (seq part next).first? cs = none := by
  rw [first?, rests, rests_eq_nil_iff.mpr h]
  rfl

theorem first?_repeated_of_none (h : part.first? cs = none) :
    (repeated part).first? cs = none := by
  rw [first?, rests, restsOfSteps, rests_eq_nil_iff.mpr h]
  rfl

/-- A repetition does not go back into a part that takes something. -/
theorem first?_repeated_of_some (h : part.first? cs = some rest) (hlt : rest.length < cs.length) :
    (repeated part).first? cs = some (((repeated part).first? rest).getD rest) := by
  obtain ⟨others, hrests⟩ := List.head?_eq_some_iff.mp h
  rw [first?, rests, restsOfSteps, hrests, List.flatMap_cons, dif_pos hlt, List.head?_append,
    List.head?_append]
  have hbehind : (restsOfSteps part.rests rest).head? = (repeated part).first? rest := rfl
  rw [hbehind]
  cases (repeated part).first? rest <;> rfl

/-- The search takes these characters from the front of a text, and none if it fails. -/
def Takes (pattern : Pattern) (cs taken : List Char) : Prop :=
  ∃ rest, cs = taken ++ rest ∧ pattern.first? cs = if taken = [] then none else some rest

variable {taken more : List Char}

theorem Takes.match?_eq (h : part.Takes cs taken) :
    part.match? cs = if taken = [] then none else some taken := by
  obtain ⟨rest, rfl, hfirst⟩ := h
  rw [match?, hfirst]
  split
  · rfl
  · rw [Option.map_some, List.length_append, Nat.add_sub_cancel, List.take_left]

theorem takes_nil_iff : part.Takes cs [] ↔ part.first? cs = none :=
  ⟨fun ⟨_, _, h⟩ => h, fun h => ⟨cs, rfl, h⟩⟩

theorem takes_append_iff (hne : taken ≠ []) :
    part.Takes (taken ++ rest) taken ↔ part.first? (taken ++ rest) = some rest := by
  constructor
  · rintro ⟨behind, htext, hfirst⟩
    obtain rfl := List.append_cancel_left htext
    rwa [if_neg hne] at hfirst
  · intro h
    exact ⟨rest, rfl, by rwa [if_neg hne]⟩

/-- What a repetition takes is what its part takes and what the repetition takes behind it. -/
theorem Takes.repeated (h : part.Takes (taken ++ rest) taken) (hne : taken ≠ [])
    (hmore : (Pattern.repeated part).Takes rest more) :
    (Pattern.repeated part).Takes (taken ++ rest) (taken ++ more) := by
  obtain ⟨behind, rfl, hbehind⟩ := hmore
  have hpos := List.length_pos_iff.mpr hne
  have hshorter : (more ++ behind).length < (taken ++ (more ++ behind)).length := by
    simp only [List.length_append]
    omega
  refine ⟨behind, (List.append_assoc _ _ _).symm, ?_⟩
  rw [first?_repeated_of_some ((takes_append_iff hne).mp h) hshorter, hbehind,
    if_neg (List.append_ne_nil_of_left_ne_nil hne more)]
  split
  · rename_i hempty
    rw [hempty]
    rfl
  · rfl

/-- A class of characters is repeated up to the first character outside of it. -/
theorem takes_repeated_one (admits : Char → Bool) (cs : List Char) :
    (Pattern.repeated (one admits)).Takes cs (cs.takeWhile admits) := by
  induction cs with
  | nil => exact takes_nil_iff.mpr (first?_repeated_of_none rfl)
  | cons c cs ih =>
    by_cases hc : admits c = true
    · have hfirst : (one admits).Takes ([c] ++ cs) [c] := by
        rw [takes_append_iff (List.cons_ne_nil c []), first?, List.singleton_append, rests,
          if_pos hc]
        rfl
      rw [List.takeWhile_cons_of_pos hc]
      exact hfirst.repeated (List.cons_ne_nil c []) ih
    · have hnone : (one admits).first? (c :: cs) = none := by
        rw [first?, rests, if_neg hc]
        rfl
      rw [List.takeWhile_cons_of_neg hc]
      exact takes_nil_iff.mpr (first?_repeated_of_none hnone)

end Pattern

end Text
end TypeStub
