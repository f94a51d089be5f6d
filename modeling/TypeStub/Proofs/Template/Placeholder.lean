import TypeStub.Proofs.Template.Filling
import TypeStub.Proofs.Template.Written

/-!
# The place of a template

A template that has a place for one argument can be filled with it just if there is nothing
else to fill.  A second field finds no argument, and a brace that stands alone breaks the
template (`exists_split_of_fill`).

A place shows in the text as `{}`.  But `{}` in a text need not be a place.  In the format of
a field it is a field that finds no argument, since the argument is taken by the field around
it.  Between the brackets of a lookup it is a key that no text has, though a member may have
it.  Its opening brace may also be the second of a doubled one.  If there is `{}` in a text,
but never behind one more opening brace or as a key of a member, the template has a place or
cannot be filled (`place_mem_of_fill`).  Together these say which templates with `{}` in their
text can be filled (`render_eq_ok_iff`).
-/

namespace TypeStub
namespace Template

/-! ## What filling leaves behind -/

section

variable [Members] {expand : Expansion} {arguments : Arguments} {numbering last : Numbering}
  {ps : List Piece} {text : List Char} {value : String}

theorem exists_of_fill_char {c : Char}
    (h : fill expand arguments numbering (.char c :: ps) = .ok (text, last)) :
    ∃ rest, fill expand arguments numbering ps = .ok (rest, last) := by
  rw [fill] at h
  obtain ⟨⟨rest, next⟩, hrest, heq⟩ := bind_eq_ok_iff.mp h
  obtain ⟨-, rfl⟩ := Prod.mk.inj (Except.ok.inj heq)
  exact ⟨rest, hrest⟩

theorem exists_of_fill_field {key format : List Char} {mark : Option Char}
    (h : fill expand arguments numbering (.field key mark format :: ps) = .ok (text, last)) :
    ∃ shown next rest, fillField expand arguments numbering key mark format = .ok (shown, next) ∧
      fill expand arguments next ps = .ok (rest, last) := by
  rw [fill] at h
  obtain ⟨⟨shown, next⟩, hfield, h⟩ := bind_eq_ok_iff.mp h
  obtain ⟨⟨rest, behind⟩, hrest, heq⟩ := bind_eq_ok_iff.mp h
  obtain ⟨-, rfl⟩ := Prod.mk.inj (Except.ok.inj heq)
  exact ⟨shown, next, rest, hfield, hrest⟩

/-- A field that is filled finds something in its argument, it has a conversion that there is,
and its format can be expanded. -/
theorem exists_of_fillField {key format shown : List Char} {mark : Option Char}
    (h : fillField expand arguments numbering key mark format = .ok (shown, last)) :
    ∃ reference argument next found expanded,
      Reference.ofKey (key.takeWhile (!startsLookup ·)) = .ok reference ∧
        arguments.resolve numbering reference = .ok (argument, next) ∧
        (Value.text argument).follow (lookups (key.dropWhile (!startsLookup ·))) = .ok found ∧
        mark ≠ some '{' ∧ expand.ofFormat next format = .ok (expanded, last) := by
  rw [fillField] at h
  obtain ⟨reference, hreference, h⟩ := bind_eq_ok_iff.mp h
  obtain ⟨⟨argument, next⟩, hargument, h⟩ := bind_eq_ok_iff.mp h
  obtain ⟨found, hfound, h⟩ := bind_eq_ok_iff.mp h
  obtain ⟨converted, hconverted, h⟩ := bind_eq_ok_iff.mp h
  obtain ⟨⟨expanded, behind⟩, hexpanded, h⟩ := bind_eq_ok_iff.mp h
  obtain ⟨laidOut, -, heq⟩ := bind_eq_ok_iff.mp h
  obtain ⟨-, rfl⟩ := Prod.mk.inj (Except.ok.inj heq)
  refine ⟨reference, argument, next, found, expanded, hreference, hargument, hfound, ?_,
    hexpanded⟩
  rintro rfl
  cases hconverted

end

/-! ## Numberings that have settled -/

/-- No field can take the next argument, and the numbering stays as it is. -/
def Settled (arguments : Arguments) (numbering : Numbering) : Prop :=
  ∀ reference argument next, arguments.resolve numbering reference = .ok (argument, next) →
    reference ≠ .next ∧ next = numbering

theorem settled_manual (arguments : Arguments) : Settled arguments .manual := by
  intro reference argument next h
  cases reference with
  | next => cases h
  | index n =>
    obtain ⟨_, -, hnext⟩ := bind_eq_ok_iff.mp h
    exact ⟨Reference.noConfusion, (Prod.mk.inj (Except.ok.inj hnext)).2.symm⟩
  | key name =>
    rw [Arguments.resolve] at h
    split at h
    · exact ⟨Reference.noConfusion, (Prod.mk.inj (Except.ok.inj h)).2.symm⟩
    · cases h

theorem settled_automatic (value : String) : Settled ⟨[value], []⟩ (.automatic 1) := by
  intro reference argument next h
  cases reference <;> cases h

/-- The first field that takes the one argument settles the numbering. -/
theorem settled_of_resolve {value argument : String} {numbering next : Numbering}
    {reference : Reference}
    (h : Arguments.resolve ⟨[value], []⟩ numbering reference = .ok (argument, next)) :
    Settled ⟨[value], []⟩ next := by
  have hmanual : ∀ n, (Arguments.atIndex ⟨[value], []⟩ n >>= fun found =>
      pure (found, Numbering.manual)) = .ok (argument, next) → Settled ⟨[value], []⟩ next := by
    intro n h
    obtain ⟨_, -, heq⟩ := bind_eq_ok_iff.mp h
    obtain ⟨-, rfl⟩ := Prod.mk.inj (Except.ok.inj heq)
    exact settled_manual _
  have hautomatic : ∀ n, (Arguments.atIndex ⟨[value], []⟩ n >>= fun found =>
      pure (found, Numbering.automatic (n + 1))) = .ok (argument, next) →
        Settled ⟨[value], []⟩ next := by
    intro n h
    obtain ⟨_, hfound, heq⟩ := bind_eq_ok_iff.mp h
    obtain ⟨-, rfl⟩ := Prod.mk.inj (Except.ok.inj heq)
    cases n with
    | zero => exact settled_automatic value
    | succ n => cases hfound
  cases reference with
  | next =>
    cases numbering with
    | undecided => exact hautomatic 0 h
    | automatic n => exact hautomatic n h
    | manual => cases h
  | index n =>
    cases numbering with
    | undecided => exact hmanual n h
    | automatic _ => cases h
    | manual => exact hmanual n h
  | key name => cases numbering <;> cases h

/-- What expands formats keeps the numbering. -/
def Expansion.Keeps (expand : Expansion) (numbering : Numbering) : Prop :=
  ∀ format expanded next, expand numbering format = .ok (expanded, next) → next = numbering

theorem Expansion.Keeps.ofFormat {expand : Expansion} {numbering next : Numbering}
    {format expanded : List Char} (hkeeps : expand.Keeps numbering)
    (h : expand.ofFormat numbering format = .ok (expanded, next)) : next = numbering := by
  rw [Expansion.ofFormat] at h
  split at h
  · exact hkeeps _ _ _ h
  · exact (Prod.mk.inj (Except.ok.inj h)).2.symm

/-- A field in a format has no fields in its own. -/
theorem keeps_nestedTooDeep (numbering : Numbering) :
    Expansion.Keeps (fun _ _ => .error .nestedTooDeep) numbering :=
  fun _ _ _ => nofun

section

variable [Members] {expand : Expansion} {arguments : Arguments} {numbering last : Numbering}
  {ps : List Piece} {text : List Char} {value : String}

/-- What is filled from a settled numbering on has no place. -/
theorem of_fill_settled (hsettled : Settled arguments numbering) (hkeeps : expand.Keeps numbering)
    (h : fill expand arguments numbering ps = .ok (text, last)) :
    last = numbering ∧ .field [] none [] ∉ ps := by
  induction ps generalizing text with
  | nil =>
    obtain ⟨-, rfl⟩ := Prod.mk.inj (Except.ok.inj h)
    exact ⟨rfl, List.not_mem_nil⟩
  | cons piece ps ih =>
    rw [List.mem_cons, not_or]
    cases piece with
    | char c =>
      obtain ⟨rest, hrest⟩ := exists_of_fill_char h
      exact ⟨(ih hrest).1, nofun, (ih hrest).2⟩
    | field key mark format =>
      obtain ⟨shown, next, rest, hfield, hrest⟩ := exists_of_fill_field h
      obtain ⟨reference, argument, taken, _, _, hreference, hargument, -, -, hformat⟩ :=
        exists_of_fillField hfield
      obtain ⟨hne, rfl⟩ := hsettled _ _ _ hargument
      obtain rfl := hkeeps.ofFormat hformat
      refine ⟨(ih hrest).1, fun heq => ?_, (ih hrest).2⟩
      obtain ⟨rfl, -⟩ := Piece.field.inj heq
      exact hne (Except.ok.inj hreference).symm
    | broken fault => cases h

theorem keeps_expandFormat (hsettled : Settled arguments numbering) :
    (expandFormat arguments).Keeps numbering :=
  fun _ _ _ h => (of_fill_settled hsettled (keeps_nestedTooDeep _) h).1

/-! ## Filling a single place -/

/-- Once the one argument is taken, no field finds any. -/
theorem exists_chars_of_automatic
    (h : fill expand ⟨[value], []⟩ (.automatic 1) ps = .ok (text, last)) :
    ∃ cs : List Char, ps = cs.map .char := by
  induction ps generalizing text with
  | nil => exact ⟨[], rfl⟩
  | cons piece ps ih =>
    cases piece with
    | char c =>
      obtain ⟨rest, hrest⟩ := exists_of_fill_char h
      obtain ⟨cs, rfl⟩ := ih hrest
      exact ⟨c :: cs, rfl⟩
    | field key mark format =>
      obtain ⟨_, _, _, hfield, -⟩ := exists_of_fill_field h
      obtain ⟨reference, _, _, _, _, -, hargument, -⟩ := exists_of_fillField hfield
      cases reference <;> cases hargument
    | broken fault => cases h

theorem exists_split_of_fill
    (h : fill (expandFormat ⟨[value], []⟩) ⟨[value], []⟩ .undecided ps = .ok (text, last))
    (hplace : .field [] none [] ∈ ps) :
    ∃ front back : List Char,
      ps = front.map .char ++ .field [] none [] :: back.map .char := by
  induction ps generalizing text with
  | nil => exact absurd hplace List.not_mem_nil
  | cons piece ps ih =>
    cases piece with
    | char c =>
      obtain ⟨rest, hrest⟩ := exists_of_fill_char h
      obtain ⟨front, back, rfl⟩ := ih hrest ((List.mem_cons.mp hplace).resolve_left nofun)
      exact ⟨c :: front, back, rfl⟩
    | field key mark format =>
      obtain ⟨shown, next, rest, hfield, hrest⟩ := exists_of_fill_field h
      obtain ⟨reference, argument, taken, _, _, hreference, hargument, -, -, hformat⟩ :=
        exists_of_fillField hfield
      have hsettled := settled_of_resolve hargument
      obtain rfl := (keeps_expandFormat hsettled).ofFormat hformat
      -- Behind the field there is no place, so the field is the place.
      have hnot := (of_fill_settled hsettled (keeps_expandFormat hsettled) hrest).2
      obtain ⟨rfl, rfl, rfl⟩ := Piece.field.inj ((List.mem_cons.mp hplace).resolve_right hnot)
      obtain rfl := Except.ok.inj hreference
      obtain ⟨-, rfl⟩ := Prod.mk.inj (Except.ok.inj hargument)
      obtain ⟨back, rfl⟩ := exists_chars_of_automatic hrest
      exact ⟨[], back, rfl⟩
    | broken fault => cases h

end

/-! ## The place in the text -/

/-- Two characters in a row, of which the first may end one part and the second begin the
other. -/
theorem pair_infix_append {x y : Char} {front back : List Char}
    (h : [x, y] <:+: front ++ back) :
    [x, y] <:+: front ∨ [x, y] <:+: back ∨ front.getLast? = some x ∧ back.head? = some y := by
  induction front with
  | nil => exact .inr (.inl h)
  | cons c front ih =>
    rcases List.infix_cons_iff.mp h with ⟨behind, hprefix⟩ | h
    · obtain ⟨rfl, htail⟩ := List.cons.inj hprefix
      cases front with
      | nil =>
        have hback : y :: behind = back := htail
        exact .inr (.inr ⟨rfl, congrArg List.head? hback.symm⟩)
      | cons d front =>
        obtain ⟨rfl, -⟩ := List.cons.inj htail
        exact .inl ⟨[], front, rfl⟩
    · rcases ih h with h | h | ⟨hlast, hhead⟩
      · exact .inl (List.infix_cons h)
      · exact .inr (.inl h)
      · refine .inr (.inr ⟨?_, hhead⟩)
        rw [List.getLast?_cons, hlast]
        rfl

theorem pair_infix_cons {x y c : Char} {cs : List Char} (hne : c ≠ x)
    (h : [x, y] <:+: c :: cs) : [x, y] <:+: cs := by
  refine (List.infix_cons_iff.mp h).resolve_left ?_
  rintro ⟨behind, hprefix⟩
  exact hne (List.cons.inj hprefix).1.symm

/-- Empty braces from the opening brace of a field on are those of the field, with nothing
between them, or they stand in its key or behind it. -/
theorem KeepsBraces.placeholder_cases {key format cs : List Char} {c : Char}
    (hkeeps : KeepsBraces key format) (h : ['{', '}'] <:+: '{' :: (key ++ c :: cs)) :
    (key = [] ∧ c = '}') ∨ ['{', '}'] <:+: key ∨ ['{', '}'] <:+: c :: cs := by
  rw [← List.cons_append] at h
  rcases pair_infix_append h with h | h | ⟨hlast, hhead⟩
  · rcases List.infix_cons_iff.mp h with ⟨behind, hprefix⟩ | h
    · obtain ⟨-, rfl⟩ := List.cons.inj hprefix
      exact absurd rfl hkeeps.keyFront
    · exact .inr (.inl h)
  · exact .inr (.inr h)
  · cases key with
    | nil => exact .inl ⟨rfl, Option.some.inj hhead⟩
    | cons d key => exact absurd hlast hkeeps.keyBack

/-- Where there are empty braces from the opening brace of a field on. -/
inductive PlaceholderIn (key : List Char) (mark : Option Char) (format rest : List Char) : Prop
  | field : key = [] → mark = none → format = [] → PlaceholderIn key mark format rest
  | key : ['{', '}'] <:+: key → PlaceholderIn key mark format rest
  /-- The mark is the opening brace. -/
  | mark : mark = some '{' → PlaceholderIn key mark format rest
  | format : ['{', '}'] <:+: format → PlaceholderIn key mark format rest
  | behind : ['{', '}'] <:+: rest → PlaceholderIn key mark format rest

theorem PlaceholderIn.of_format {key format rest : List Char} {mark : Option Char}
    (hformat : format.getLast? ≠ some '{') (h : ['{', '}'] <:+: format ++ ['}'] ++ rest) :
    PlaceholderIn key mark format rest := by
  rw [List.append_assoc] at h
  rcases pair_infix_append h with h | h | ⟨hlast, -⟩
  · exact .format h
  · exact .behind (pair_infix_cons (by decide) h)
  · exact absurd hlast hformat

theorem FieldWritten.placeholderIn {key format written rest : List Char} {mark : Option Char}
    (hwritten : FieldWritten key mark format written) (hkeeps : KeepsBraces key format)
    (h : ['{', '}'] <:+: '{' :: (written ++ rest)) : PlaceholderIn key mark format rest := by
  cases hwritten with
  | key =>
    rw [List.append_assoc] at h
    rcases hkeeps.placeholder_cases h with ⟨rfl, -⟩ | h | h
    · exact .field rfl rfl rfl
    · exact .key h
    · exact .behind (pair_infix_cons (by decide) h)
  | format =>
    rw [List.append_assoc] at h
    rcases hkeeps.placeholder_cases h with ⟨-, hc⟩ | h | h
    · cases hc
    · exact .key h
    · exact .of_format hkeeps.formatBack (pair_infix_cons (by decide) h)
  | @mark mark =>
    rw [List.append_assoc] at h
    rcases hkeeps.placeholder_cases h with ⟨-, hc⟩ | h | h
    · cases hc
    · exact .key h
    · by_cases hmark : mark = '{'
      · exact .mark (congrArg some hmark)
      · have h := pair_infix_cons hmark (pair_infix_cons (by decide) h)
        exact .behind (pair_infix_cons (by decide) h)
  | @markAndFormat mark =>
    rw [List.append_assoc] at h
    rcases hkeeps.placeholder_cases h with ⟨-, hc⟩ | h | h
    · cases hc
    · exact .key h
    · by_cases hmark : mark = '{'
      · exact .mark (congrArg some hmark)
      · have h := pair_infix_cons hmark (pair_infix_cons (by decide) h)
        exact .of_format hkeeps.formatBack (pair_infix_cons (by decide) h)

theorem FieldWritten.format_infix {key format written : List Char} {mark : Option Char}
    (hwritten : FieldWritten key mark format written) : format <:+: written := by
  cases hwritten with
  | key => exact List.nil_infix
  | format => exact ⟨key ++ [':'], ['}'], by simp⟩
  | mark => exact List.nil_infix
  | @markAndFormat mark => exact ⟨key ++ ['!', mark, ':'], ['}'], by simp⟩

theorem not_infix_of_infix {part inner cs : List Char} (h : ¬part <:+: cs)
    (hinner : inner <:+: cs) : ¬part <:+: inner :=
  fun hpart => h (hpart.trans hinner)

/-- No field of the template that looks up a member has empty braces in its key. -/
def MembersWithoutBraces (cs : List Char) : Prop :=
  ∀ key mark format, .field key mark format ∈ pieces cs → LooksUpMember key →
    ¬['{', '}'] <:+: key

/-- The format is not expanded once the argument of its field is found. -/
def Expansion.Rejects (expand : Expansion) (arguments : Arguments) (format : List Char) : Prop :=
  ∀ numbering reference argument next,
    arguments.resolve numbering reference = .ok (argument, next) →
      ∀ filled, expand next format ≠ .ok filled

section

variable [Members] {expand : Expansion} {arguments : Arguments} {numbering last : Numbering}
  {cs text : List Char}

/-- A text with empty braces in it has a place or cannot be filled, unless one more opening
brace stands in front of them, or they stand in a key that looks up a member or in a format
that is expanded. -/
theorem place_mem_of_fill
    (hfields : ∀ key mark format, .field key mark format ∈ pieces cs →
      (LooksUpMember key → ¬['{', '}'] <:+: key) ∧ (['{', '}'] <:+: format →
        ¬['{', '{', '}'] <:+: format → expand.Rejects arguments format))
    (hsingle : ¬['{', '{', '}'] <:+: cs) (hplace : ['{', '}'] <:+: cs)
    (h : fill expand arguments numbering (pieces cs) = .ok (text, last)) :
    .field [] none [] ∈ pieces cs := by
  fun_induction pieces cs generalizing numbering text with
  | case1 => exact absurd hplace (by simp)
  | case2 rest ih =>
    obtain ⟨behind, hbehind⟩ := exists_of_fill_char h
    have hrest : ['{', '}'] <:+: rest := by
      rcases List.infix_cons_iff.mp hplace with ⟨after, hprefix⟩ | hplace
      · cases hprefix
      refine (List.infix_cons_iff.mp hplace).resolve_left ?_
      rintro ⟨after, hprefix⟩
      exact hsingle ⟨[], after, congrArg ('{' :: ·) hprefix⟩
    have hsingle := not_infix_of_infix hsingle (List.suffix_append ['{', '{'] rest).isInfix
    exact .tail _ (ih (fun _ _ _ hmem => hfields _ _ _ (.tail _ hmem)) hsingle hrest hbehind)
  | case3 rest ih =>
    obtain ⟨behind, hbehind⟩ := exists_of_fill_char h
    have hrest : ['{', '}'] <:+: rest := by
      simpa [List.infix_cons_iff, List.cons_prefix_cons] using hplace
    have hsingle := not_infix_of_infix hsingle (List.suffix_append ['}', '}'] rest).isInfix
    exact .tail _ (ih (fun _ _ _ hmem => hfields _ _ _ (.tail _ hmem)) hsingle hrest hbehind)
  | case4 => cases h
  | case5 => cases h
  | case6 c rest _ _ ih =>
    rcases takeField_cases (c :: rest) with
      ⟨key, mark, format, written, behind, hfield, hcs, hwritten, hkeeps⟩ | ⟨fault, hfield⟩
    · rw [hfield] at h hfields ih ⊢
      rw [hcs] at hplace hsingle
      obtain ⟨hkey, hformat⟩ := hfields key mark format List.mem_cons_self
      obtain ⟨_, next, _, hfilled, hbehind⟩ := exists_of_fill_field h
      obtain ⟨_, _, taken, _, expanded, -, hargument, hfound, hmark, hexpanded⟩ :=
        exists_of_fillField hfilled
      have hwhole : written <:+: '{' :: (written ++ behind) := ⟨['{'], behind, rfl⟩
      cases hwritten.placeholderIn hkeeps hplace with
      | field hnokey hnomark hnoformat =>
        subst hnokey hnomark hnoformat
        exact List.mem_cons_self
      | key hinner =>
        have hbrace : '{' ∈ key := hinner.subset List.mem_cons_self
        exact absurd hinner (hkey (looksUpMember_of_follow hkeeps.name hbrace hfound))
      | mark hinner => exact absurd hinner hmark
      | format hinner =>
        have hbrace : '{' ∈ format := hinner.subset List.mem_cons_self
        rw [Expansion.ofFormat, if_pos hbrace] at hexpanded
        have hsingle := not_infix_of_infix hsingle (hwritten.format_infix.trans hwhole)
        exact absurd hexpanded (hformat hinner hsingle _ _ _ _ hargument _)
      | behind hrest =>
        have hsingle := not_infix_of_infix hsingle
          (List.suffix_append ('{' :: written) behind).isInfix
        exact .tail _ (ih (fun _ _ _ hmem => hfields _ _ _ (.tail _ hmem)) hsingle hrest hbehind)
    · rw [hfield] at h
      cases h
  | case7 c rest _ _ _ _ hopen ih =>
    obtain ⟨behind, hbehind⟩ := exists_of_fill_char h
    have hrest : ['{', '}'] <:+: rest := by
      refine (List.infix_cons_iff.mp hplace).resolve_left ?_
      rintro ⟨after, hprefix⟩
      obtain ⟨hc, hrest⟩ := List.cons.inj hprefix
      exact hopen _ _ hc.symm hrest.symm
    have hsingle := not_infix_of_infix hsingle (List.suffix_cons c rest).isInfix
    exact .tail _ (ih (fun _ _ _ hmem => hfields _ _ _ (.tail _ hmem)) hsingle hrest hbehind)

/-- Once the one argument is taken, a format with empty braces makes a field that finds
none. -/
theorem rejects_expandFormat {value : String} {format : List Char}
    (hkeys : MembersWithoutBraces format) (hplace : ['{', '}'] <:+: format)
    (hsingle : ¬['{', '{', '}'] <:+: format) :
    (expandFormat ⟨[value], []⟩).Rejects ⟨[value], []⟩ format := by
  rintro numbering reference argument next hargument ⟨expanded, last⟩ hfill
  have hsettled := settled_of_resolve hargument
  have hnever : ∀ inner, Expansion.Rejects (fun _ _ => .error .nestedTooDeep) ⟨[value], []⟩
      inner := fun _ _ _ _ _ _ _ => nofun
  have hmem := place_mem_of_fill (fun _ _ _ hmem => ⟨hkeys _ _ _ hmem, fun _ _ => hnever _⟩)
    hsingle hplace hfill
  exact (of_fill_settled hsettled (keeps_nestedTooDeep next) hfill).2 hmem

end

/-! ## Templates that can be filled -/

/-- The template has a place, or no `{}` in it stands behind one more opening brace or in the
key of a field that looks up a member. -/
def HasOpenPlace (template : String) : Prop :=
  .field [] none [] ∈ pieces template.toList ∨
    (¬['{', '{', '}'] <:+: template.toList ∧ MembersWithoutBraces template.toList ∧
      ∀ key mark format, .field key mark format ∈ pieces template.toList →
        MembersWithoutBraces format)

/-- A template with `{}` in its text can be filled just if a place is all there is to
fill. -/
theorem render_eq_ok_iff [Members] {template : String}
    (hplaceholder : ['{', '}'] <:+: template.toList) (hopen : HasOpenPlace template)
    (value text : String) :
    render template ⟨[value], []⟩ = .ok text ↔
      ∃ front back, IsPlaceBetween front back template ∧ text = front ++ value ++ back := by
  constructor
  · intro h
    obtain ⟨⟨cs, last⟩, hfill, -⟩ := bind_eq_ok_iff.mp h
    have hplace : .field [] none [] ∈ pieces template.toList := by
      rcases hopen with hmem | ⟨hsingle, hkeys, hformats⟩
      · exact hmem
      · refine place_mem_of_fill (fun key mark format hmem => ?_) hsingle hplaceholder hfill
        exact ⟨hkeys _ _ _ hmem, rejects_expandFormat (hformats _ _ _ hmem)⟩
    obtain ⟨front, back, hpieces⟩ := exists_split_of_fill hfill hplace
    have hbetween : IsPlaceBetween (String.ofList front) (String.ofList back) template := by
      rw [isPlaceBetween_iff, hpieces, String.toList_ofList, String.toList_ofList]
    rw [render_place (isPlaceBetween_iff.mp hbetween)] at h
    exact ⟨_, _, hbetween, (Except.ok.inj h).symm⟩
  · rintro ⟨front, back, hbetween, rfl⟩
    exact render_place (isPlaceBetween_iff.mp hbetween) value

end Template
end TypeStub
