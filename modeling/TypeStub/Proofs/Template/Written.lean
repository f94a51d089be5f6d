import TypeStub.Proofs.Template.Lookup

/-!
# How templates are written

What a template is made of can be read off its text.  A character stands for itself, but a
brace is written twice (`escape`), and the place of the next argument is a pair of braces
with nothing in it or with a colon.  So a place between two texts is written in two ways
only: `isPlaceBetween_iff`.
-/

namespace TypeStub
namespace Template

/-! ## Fields -/

/-- How a field is written behind its opening brace. -/
inductive FieldWritten (key : List Char) : Option Char → List Char → List Char → Prop
  | key : FieldWritten key none [] (key ++ ['}'])
  | format {format : List Char} : FieldWritten key none format (key ++ ':' :: (format ++ ['}']))
  | mark {mark : Char} : FieldWritten key (some mark) [] (key ++ ['!', mark, '}'])
  | markAndFormat {mark : Char} {format : List Char} :
    FieldWritten key (some mark) format (key ++ '!' :: mark :: ':' :: (format ++ ['}']))

/-- No brace of a key or a format makes empty braces with one of the field's own, and a brace
of a key is part of a lookup. -/
structure KeepsBraces (key format : List Char) : Prop where
  name : '{' ∉ key.takeWhile (!startsLookup ·)
  keyFront : key.head? ≠ some '}'
  keyBack : key.getLast? ≠ some '{'
  formatBack : format.getLast? ≠ some '{'

theorem head?_takeKey (cs : List Char) : (takeKey false cs).1.head? ≠ some '}' := by
  cases cs with
  | nil => exact (Option.some_ne_none _).symm
  | cons c cs =>
    rw [takeKey]
    split
    · exact (Option.some_ne_none _).symm
    · rename_i hends
      rintro hhead
      obtain rfl := Option.some.inj hhead
      exact hends rfl

/-- Outside of brackets an opening brace is no part of a key, and brackets are closed. -/
theorem getLast?_takeKey {bracketed : Bool} {cs : List Char}
    (h : (takeKey bracketed cs).2 ≠ []) : (takeKey bracketed cs).1.getLast? ≠ some '{' := by
  fun_induction takeKey bracketed cs with
  | case1 => exact absurd rfl h
  | case2 => exact (Option.some_ne_none _).symm
  | case3 bracketed c cs hends key rest hrest ih =>
    rw [hrest] at ih
    intro hlast
    cases key with
    | cons d key => exact ih h hlast
    | nil =>
      -- The key ends with `c`, so no bracket is open behind it.
      obtain rfl : c = '{' := Option.some.inj hlast
      cases bracketed with
      | false => exact hends rfl
      | true =>
        cases cs with
        | nil => exact h (Prod.mk.inj hrest).2.symm
        | cons d cs => cases hrest

theorem getLast?_takeFormat? {depth : Nat} {cs format rest : List Char}
    (h : takeFormat? depth cs = some (format, rest)) : format.getLast? ≠ some '{' := by
  fun_induction takeFormat? depth cs generalizing format with
  | case1 => cases h
  | case2 =>
    obtain ⟨rfl, -⟩ := Prod.mk.inj (Option.some.inj h)
    exact (Option.some_ne_none _).symm
  | case3 depth c cs hend ih =>
    obtain ⟨⟨inner, behind⟩, htaken, heq⟩ := Option.map_eq_some_iff.mp h
    obtain ⟨rfl, rfl⟩ := Prod.mk.inj heq
    intro hlast
    cases inner with
    | cons d inner => exact ih htaken hlast
    | nil =>
      -- The brace `c` is open behind itself, so the format cannot end with it.
      obtain rfl : c = '{' := Option.some.inj hlast
      cases cs with
      | nil => cases htaken
      | cons d cs =>
        rw [takeFormat?] at htaken
        simp at htaken

theorem takeFormatted_cases (key : List Char) (mark : Option Char) (cs : List Char) :
    (∃ format rest, takeFormatted key mark cs = (.field key mark format, rest) ∧
        cs = format ++ '}' :: rest ∧ format.getLast? ≠ some '{') ∨
      ∃ fault, takeFormatted key mark cs = (.broken fault, []) := by
  rw [takeFormatted]
  split
  · rename_i h
    exact .inl ⟨_, _, rfl, append_of_takeFormat? h, getLast?_takeFormat? h⟩
  · exact .inr ⟨_, rfl⟩

/-- What a field is written as, or a fault in it. -/
theorem takeField_cases (cs : List Char) :
    (∃ key mark format written rest, takeField cs = (.field key mark format, rest) ∧
        cs = written ++ rest ∧ FieldWritten key mark format written ∧ KeepsBraces key format) ∨
      ∃ fault, takeField cs = (.broken fault, []) := by
  have hcs := takeKey_append false cs
  have hname := brace_not_mem_takeKey cs
  have hfront := head?_takeKey cs
  have hback := @getLast?_takeKey false cs
  have hnil : ([] : List Char).getLast? ≠ some '{' := (Option.some_ne_none _).symm
  unfold takeField
  generalize takeKey false cs = taken at hcs hname hfront hback ⊢
  obtain ⟨key, rest⟩ := taken
  dsimp only at hcs hname hfront hback ⊢
  subst hcs
  split
  · rename_i rest
    have hlast := hback (List.cons_ne_nil _ _)
    exact .inl ⟨key, none, [], _, rest, rfl, by simp, .key, hname, hfront, hlast, hnil⟩
  · rename_i rest
    rcases takeFormatted_cases key none rest with ⟨format, behind, htaken, rfl, hformat⟩ | hfault
    · have hlast := hback (List.cons_ne_nil _ _)
      exact .inl ⟨key, none, format, _, behind, htaken, by simp, .format, hname, hfront, hlast,
        hformat⟩
    · exact .inr hfault
  · exact .inr ⟨_, rfl⟩
  · rename_i mark rest
    have hlast := hback (List.cons_ne_nil _ _)
    exact .inl ⟨key, some mark, [], _, rest, rfl, by simp, .mark, hname, hfront, hlast, hnil⟩
  · rename_i mark rest
    rcases takeFormatted_cases key (some mark) rest with
      ⟨format, behind, htaken, rfl, hformat⟩ | hfault
    · have hlast := hback (List.cons_ne_nil _ _)
      exact .inl ⟨key, some mark, format, _, behind, htaken, by simp, .markAndFormat, hname,
        hfront, hlast, hformat⟩
    · exact .inr hfault
  all_goals exact .inr ⟨_, rfl⟩

/-! ## Characters and places -/

def escapeChar (c : Char) : List Char := if c = '{' ∨ c = '}' then [c, c] else [c]

/-- A text as it is written in a template. -/
def escape (cs : List Char) : List Char := cs.flatMap escapeChar

/-- The template is a place for the next argument between two texts. -/
def IsPlaceBetween (front back template : String) : Prop :=
  template.toList = escape front.toList ++ '{' :: '}' :: escape back.toList ∨
    template.toList = escape front.toList ++ '{' :: ':' :: '}' :: escape back.toList

theorem pieces_escapeChar (c : Char) (rest : List Char) :
    pieces (escapeChar c ++ rest) = .char c :: pieces rest := by
  by_cases hopen : c = '{'
  · subst hopen
    show pieces ('{' :: '{' :: rest) = .char '{' :: pieces rest
    rw [pieces]
  · by_cases hclose : c = '}'
    · subst hclose
      show pieces ('}' :: '}' :: rest) = .char '}' :: pieces rest
      rw [pieces]
    · rw [escapeChar, if_neg (not_or.mpr ⟨hopen, hclose⟩), List.singleton_append, pieces]
      all_goals simp [hopen, hclose]

theorem pieces_field {c : Char} (h : c ≠ '{') (rest : List Char) :
    pieces ('{' :: c :: rest) =
      (takeField (c :: rest)).1 :: pieces (takeField (c :: rest)).2 := by
  rw [pieces]
  exact h

/-- What a template starts with, and the text of the pieces behind it. -/
theorem pieces_cases (cs : List Char) :
    (cs = [] ∧ pieces cs = []) ∨
      (∃ c rest, cs = escapeChar c ++ rest ∧ pieces cs = .char c :: pieces rest) ∨
      (∃ rest, cs = '{' :: rest ∧ pieces cs = (takeField rest).1 :: pieces (takeField rest).2) ∨
      ∃ fault, pieces cs = [.broken fault] := by
  fun_cases pieces cs with
  | case1 => exact .inl ⟨rfl, rfl⟩
  | case2 rest => exact .inr (.inl ⟨'{', rest, rfl, rfl⟩)
  | case3 rest => exact .inr (.inl ⟨'}', rest, rfl, rfl⟩)
  | case4 => exact .inr (.inr (.inr ⟨_, rfl⟩))
  | case5 => exact .inr (.inr (.inr ⟨_, rfl⟩))
  | case6 c rest => exact .inr (.inr (.inl ⟨_, rfl, rfl⟩))
  | case7 c rest _ _ hend hclose hfield =>
    have hopen : c ≠ '{' := by
      intro hc
      cases rest with
      | nil => exact hend hc rfl
      | cons d rest => exact hfield d rest hc rfl
    refine .inr (.inl ⟨c, rest, ?_, rfl⟩)
    rw [escapeChar, if_neg (not_or.mpr ⟨hopen, hclose⟩), List.singleton_append]

theorem takeField_ne_char (cs : List Char) (c : Char) : (takeField cs).1 ≠ .char c := by
  rcases takeField_cases cs with ⟨key, mark, format, written, rest, hfield, -⟩ | ⟨fault, hfield⟩
  all_goals
    rw [hfield]
    exact nofun

theorem pieces_eq_nil_iff {cs : List Char} : pieces cs = [] ↔ cs = [] := by
  constructor
  · intro h
    rcases pieces_cases cs with ⟨hcs, -⟩ | ⟨c, rest, -, hpieces⟩ | ⟨rest, -, hpieces⟩ |
      ⟨fault, hpieces⟩
    · exact hcs
    all_goals
      rw [hpieces] at h
      cases h
  · intro h
    rw [h, pieces]

theorem pieces_eq_char_cons_iff {cs : List Char} {c : Char} {ps : List Piece} :
    pieces cs = .char c :: ps ↔ ∃ rest, cs = escapeChar c ++ rest ∧ pieces rest = ps := by
  constructor
  · intro h
    rcases pieces_cases cs with ⟨-, hpieces⟩ | ⟨d, rest, hcs, hpieces⟩ | ⟨rest, -, hpieces⟩ |
      ⟨fault, hpieces⟩
    · rw [hpieces] at h
      cases h
    · rw [hpieces] at h
      obtain ⟨hchar, hrest⟩ := List.cons.inj h
      obtain rfl := Piece.char.inj hchar
      exact ⟨rest, hcs, hrest⟩
    · rw [hpieces] at h
      exact absurd (List.cons.inj h).1 (takeField_ne_char rest c)
    · rw [hpieces] at h
      cases h
  · rintro ⟨rest, rfl, rfl⟩
    exact pieces_escapeChar c rest

theorem pieces_eq_place_cons_iff {cs : List Char} {ps : List Piece} :
    pieces cs = .field [] none [] :: ps ↔
      ∃ rest, (cs = '{' :: '}' :: rest ∨ cs = '{' :: ':' :: '}' :: rest) ∧ pieces rest = ps := by
  constructor
  · intro h
    rcases pieces_cases cs with ⟨-, hpieces⟩ | ⟨d, rest, -, hpieces⟩ | ⟨cs, rfl, hpieces⟩ |
      ⟨fault, hpieces⟩
    · rw [hpieces] at h
      cases h
    · rw [hpieces] at h
      cases h
    · rw [hpieces] at h
      obtain ⟨hplace, hrest⟩ := List.cons.inj h
      rcases takeField_cases cs with ⟨key, mark, format, written, rest, hfield, rfl, hwritten, -⟩ |
        ⟨fault, hfield⟩
      · rw [hfield] at hplace hrest
        obtain ⟨rfl, rfl, rfl⟩ := Piece.field.inj hplace
        cases hwritten with
        | key => exact ⟨rest, .inl rfl, hrest⟩
        | format => exact ⟨rest, .inr rfl, hrest⟩
      · rw [hfield] at hplace
        cases hplace
    · rw [hpieces] at h
      cases h
  · rintro ⟨rest, rfl | rfl, rfl⟩
    · exact pieces_field (by decide) rest
    · exact pieces_field (by decide) ('}' :: rest)

theorem pieces_eq_chars_append_iff {cs front : List Char} {ps : List Piece} :
    pieces cs = front.map .char ++ ps ↔ ∃ rest, cs = escape front ++ rest ∧ pieces rest = ps := by
  induction front generalizing cs with
  | nil => exact ⟨fun h => ⟨cs, rfl, h⟩, fun ⟨_, hcs, h⟩ => hcs ▸ h⟩
  | cons c front ih =>
    rw [List.map_cons, List.cons_append, pieces_eq_char_cons_iff, escape, List.flatMap_cons]
    constructor
    · rintro ⟨behind, rfl, hbehind⟩
      obtain ⟨rest, rfl, hrest⟩ := ih.mp hbehind
      exact ⟨rest, (List.append_assoc _ _ _).symm, hrest⟩
    · rintro ⟨rest, rfl, hrest⟩
      exact ⟨escape front ++ rest, List.append_assoc _ _ _, ih.mpr ⟨rest, rfl, hrest⟩⟩

theorem pieces_eq_chars_iff {cs back : List Char} :
    pieces cs = back.map .char ↔ cs = escape back := by
  rw [← List.append_nil (back.map Piece.char), pieces_eq_chars_append_iff]
  simp only [pieces_eq_nil_iff, exists_eq_right, List.append_nil]

/-- A template is read as a place between two texts just if it is written as one. -/
theorem isPlaceBetween_iff {front back template : String} :
    IsPlaceBetween front back template ↔
      pieces template.toList =
        front.toList.map .char ++ .field [] none [] :: back.toList.map .char := by
  simp only [pieces_eq_chars_append_iff, pieces_eq_place_cons_iff, pieces_eq_chars_iff,
    exists_eq_right]
  constructor
  · rintro (h | h)
    · exact ⟨_, h, .inl rfl⟩
    · exact ⟨_, h, .inr rfl⟩
  · rintro ⟨rest, h, rfl | rfl⟩
    · exact .inl h
    · exact .inr h

end Template
end TypeStub
