import TypeStub.Proofs.Outcome
import TypeStub.Template.Basic

/-!
# Filling a template

What the pieces of a template add to its text.  A field that has a key and nothing else adds
its argument as it is.
-/

namespace TypeStub

namespace Template

theorem Format.layOut_plain (value : List Char) :
    (⟨' ', .left, none, false, false, 0, none, none, 's'⟩ : Format).layOut value = value := by
  simp [Format.layOut, Format.cut]

variable [Members] {expand : Expansion} {arguments : Arguments} {numbering next last : Numbering}
  {rest : List Piece} {text : List Char}

theorem Value.layOut_text (value : String) :
    (Value.text value).layOut [] = .ok value.toList := by
  have hplain : Format.ofList? [] =
      .ok ⟨' ', .left, none, false, false, 0, none, none, 's'⟩ := rfl
  rw [layOut, hplain]
  exact congrArg _ (Format.layOut_plain _)

theorem fill_chars (cs : List Char) (h : fill expand arguments numbering rest = .ok (text, next)) :
    fill expand arguments numbering (cs.map .char ++ rest) = .ok (cs ++ text, next) := by
  induction cs with
  | nil => exact h
  | cons c cs ih =>
    rw [List.map_cons, List.cons_append, fill, ih]
    rfl

theorem fillField_plain {key : List Char} {reference : Reference} {value : String}
    (hplain : key.dropWhile (!startsLookup ·) = []) (hkey : Reference.ofKey key = .ok reference)
    (hvalue : arguments.resolve numbering reference = .ok (value, next)) :
    fillField expand arguments numbering key none [] = .ok (value.toList, next) := by
  have hfront : key.takeWhile (!startsLookup ·) = key := by
    have happend := List.takeWhile_append_dropWhile (p := (!startsLookup ·)) (l := key)
    rwa [hplain, List.append_nil] at happend
  have hfollow : (Value.text value).follow (lookups []) = .ok (.text value) := by
    rw [lookups]
    rfl
  have hconvert : (Value.text value).convert none = .ok (.text value) := rfl
  have hformat : expand.ofFormat next [] = .ok ([], next) := if_neg List.not_mem_nil
  rw [fillField, hfront, hplain, hkey]
  simp only [bind, Except.bind, hvalue, hfollow, hconvert, hformat, Value.layOut_text, pure,
    Except.pure]

theorem fill_field {key : List Char} {mark : Option Char} {format shown : List Char}
    (hfield : fillField expand arguments numbering key mark format = .ok (shown, next))
    (h : fill expand arguments next rest = .ok (text, last)) :
    fill expand arguments numbering (.field key mark format :: rest) =
      .ok (shown ++ text, last) := by
  rw [fill, hfield]
  simp only [bind, Except.bind, h, pure, Except.pure]

theorem fill_named (key : List Char) {name value : String}
    (hplain : key.dropWhile (!startsLookup ·) = []) (hkey : Reference.ofKey key = .ok (.key name))
    (hvalue : arguments.named.lookup name = some value)
    (h : fill expand arguments numbering rest = .ok (text, last)) :
    fill expand arguments numbering (.field key none [] :: rest) =
      .ok (value.toList ++ text, last) := by
  refine fill_field (fillField_plain hplain hkey ?_) h
  cases numbering <;> simp only [Arguments.resolve, hvalue]

theorem render_of_fill {template : String}
    (h : fill (expandFormat arguments) arguments .undecided (pieces template.toList) =
      .ok (text, next)) :
    render template arguments = .ok (String.ofList text) := by
  rw [render, h]
  rfl

/-- A template with one place and no other braces. -/
theorem render_place {template front back : String}
    (hpieces : pieces template.toList =
      front.toList.map .char ++ .field [] none [] :: back.toList.map .char)
    (value : String) : render template ⟨[value], []⟩ = .ok (front ++ value ++ back) := by
  have hback : fill (expandFormat ⟨[value], []⟩) ⟨[value], []⟩ (.automatic 1)
      (back.toList.map .char ++ []) = .ok (back.toList ++ [], .automatic 1) :=
    fill_chars back.toList rfl
  rw [List.append_nil, List.append_nil] at hback
  have hkey : Reference.ofKey [] = .ok .next := rfl
  have hvalue : Arguments.resolve ⟨[value], []⟩ .undecided .next = .ok (value, .automatic 1) := rfl
  have hplace := fill_field (fillField_plain List.dropWhile_nil hkey hvalue) hback
  have hfront := fill_chars front.toList hplace
  have htext : String.ofList (front.toList ++ (value.toList ++ back.toList)) =
      front ++ value ++ back := by
    rw [← String.toList_inj]
    simp
  rw [← hpieces] at hfront
  rw [render_of_fill hfront, htext]

/-- A template with places for a name and for types, in this order, and no other braces. -/
theorem render_collection {template front back : String}
    (hpieces : pieces template.toList = .field "name".toList none [] ::
      (front.toList.map .char ++ .field "types".toList none [] :: back.toList.map .char))
    (name types : String) :
    render template ⟨[], [("name", name), ("types", types)]⟩ =
      .ok (name ++ front ++ types ++ back) := by
  have hback : fill (expandFormat ⟨[], [("name", name), ("types", types)]⟩)
      ⟨[], [("name", name), ("types", types)]⟩ .undecided (back.toList.map .char ++ []) =
      .ok (back.toList ++ [], .undecided) := fill_chars back.toList rfl
  rw [List.append_nil, List.append_nil] at hback
  have htypes := fill_named "types".toList rfl rfl rfl hback
  have hfront := fill_chars front.toList htypes
  have hfill := fill_named "name".toList rfl rfl rfl hfront
  have htext : String.ofList (name.toList ++ (front.toList ++ (types.toList ++ back.toList))) =
      name ++ front ++ types ++ back := by
    rw [← String.toList_inj]
    simp
  rw [← hpieces] at hfill
  rw [render_of_fill hfill, htext]

end Template
end TypeStub
