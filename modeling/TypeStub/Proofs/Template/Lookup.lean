import TypeStub.Proofs.Outcome
import TypeStub.Template.Basic

/-!
# Lookups in templates

A brace in the key of a field stands between brackets, so it is part of a lookup.  Between
brackets a text is looked up by an index, which has digits only.  So a field with a brace in
its key finds nothing, unless it leaves the texts and looks up a member first
(`looksUpMember_of_follow`).

Without members a field never leaves the texts.  So the account of members matters to those
templates alone that look one up: `render_eq_of_withoutMembers`.
-/

namespace TypeStub
namespace Template

open TypeStub.Text

/-- The part of a key that names the argument has no opening brace in it. -/
theorem brace_not_mem_takeKey (cs : List Char) :
    '{' ∉ (takeKey false cs).1.takeWhile (!startsLookup ·) := by
  induction cs with
  | nil => exact List.not_mem_nil
  | cons c cs ih =>
    rw [takeKey]
    by_cases hends : endsKey c = true
    · rw [if_pos (by simp [hends])]
      exact List.not_mem_nil
    · rw [if_neg (by simp [hends])]
      by_cases hlookup : startsLookup c = true
      · simp [hlookup]
      · have hbracket : (c == '[') = false := by
          rw [beq_eq_false_iff_ne]
          rintro rfl
          exact hlookup rfl
        have hbrace : c ≠ '{' := by
          rintro rfl
          exact hends rfl
        simp only [Bool.false_eq_true, if_false, hbracket, List.takeWhile_cons, hlookup,
          Bool.not_false, if_true]
        exact List.not_mem_cons_of_ne_of_not_mem hbrace.symm ih

/-! ## Lookups between brackets -/

theorem brace_not_mem_of_takeDigits {cs : List Char} (h : (takeDigits cs).2 = []) : '{' ∉ cs := by
  fun_induction takeDigits cs with
  | case1 => exact List.not_mem_nil
  | case2 c cs value hvalue ih =>
    have hbrace : c ≠ '{' := by
      rintro rfl
      have hnone : digitValue? '{' = none := by decide
      cases hnone.symm.trans hvalue
    exact List.not_mem_cons_of_ne_of_not_mem hbrace.symm (ih h)
  | case3 => cases h

theorem takeDigits_of_takeNumber {cs rest : List Char} {number : Option Nat}
    (h : Format.takeNumber cs = .ok (number, rest)) : (takeDigits cs).2 = rest := by
  rw [Format.takeNumber] at h
  split at h
  · rename_i heq
    rw [heq]
    exact (Prod.mk.inj (Except.ok.inj h)).2
  · rename_i heq
    rw [heq]
    split at h
    · exact (Prod.mk.inj (Except.ok.inj h)).2
    · cases h

/-- What stands between brackets is an index, a key or a fault. -/
theorem ofBrackets_cases {cs : List Char} {lookup : Lookup}
    (h : Lookup.ofBrackets cs = .ok lookup) :
    (∃ n, lookup = .index n ∧ '{' ∉ cs) ∨ ∃ name, lookup = .key name := by
  rw [Lookup.ofBrackets] at h
  obtain ⟨⟨number, rest⟩, hnumber, h⟩ := bind_eq_ok_iff.mp h
  split at h
  · rename_i n heq
    obtain ⟨rfl, rfl⟩ := Prod.mk.inj heq
    have hbrace := brace_not_mem_of_takeDigits (takeDigits_of_takeNumber hnumber)
    exact .inl ⟨n, (Except.ok.inj h).symm, hbrace⟩
  · split at h
    · cases h
    · exact .inr ⟨_, (Except.ok.inj h).symm⟩

/-! ## Lookups one after another -/

/-- The key looks up a member that texts have. -/
def LooksUpMember (key : List Char) : Prop :=
  ∃ name ∈ memberNames, .ok (.member name) ∈ lookups (key.dropWhile (!startsLookup ·))

section

variable [Members] {rest : List (Except Fault Lookup)} {cs : List Char} {value : String}
  {found : Value Members.Object}

theorem exists_of_follow_cons {value : Value Members.Object} {lookup : Lookup}
    (h : value.follow (.ok lookup :: rest) = .ok found) :
    ∃ next, value.lookUp lookup = .ok next ∧ next.follow rest = .ok found := by
  rw [Value.follow] at h
  obtain ⟨_, hlookup, h⟩ := bind_eq_ok_iff.mp h
  obtain rfl := Except.ok.inj hlookup
  exact bind_eq_ok_iff.mp h

/-- An index leads from a text to a text. -/
theorem exists_text_of_index {n : Nat} {next : Value Members.Object}
    (h : (Value.text value).lookUp (.index n) = .ok next) : ∃ text, next = .text text := by
  rw [Value.lookUp] at h
  split at h
  · exact ⟨_, (Except.ok.inj h).symm⟩
  · cases h

/-- A text with a brace in its lookups leads to something only by a member. -/
theorem exists_member_of_follow (h : (Value.text value).follow (lookups cs) = .ok found)
    (hbrace : '{' ∈ cs) : ∃ name ∈ memberNames, .ok (.member name) ∈ lookups cs := by
  fun_induction lookups cs generalizing value with
  | case1 => exact absurd hbrace List.not_mem_nil
  | case2 => cases h
  | case3 rest =>
    obtain ⟨next, hnext, -⟩ := exists_of_follow_cons h
    rw [Value.lookUp] at hnext
    split at hnext
    · rename_i hname
      exact ⟨_, List.contains_iff_mem.mp hname, List.mem_cons_self⟩
    · cases hnext
  | case4 => cases h
  | case5 rest _ d behind hrest lookup hlookup ih =>
    obtain ⟨next, hnext, hbehind⟩ := exists_of_follow_cons h
    rcases ofBrackets_cases hlookup with ⟨n, rfl, hindex⟩ | ⟨name, rfl⟩
    · obtain ⟨text, rfl⟩ := exists_text_of_index hnext
      have hclosed : d = ']' := by
        have hhead := List.head?_dropWhile_not (· != ']') rest
        rw [hrest] at hhead
        simpa using hhead
      have hin : '{' ∈ behind := by
        have happend := List.takeWhile_append_dropWhile (p := (· != ']')) (l := rest)
        rw [← happend, hrest, hclosed] at hbrace
        simpa [hindex] using hbrace
      obtain ⟨name, hname, hmem⟩ := ih hbehind hin
      exact ⟨name, hname, List.mem_cons_of_mem _ hmem⟩
    · cases hnext
  | case6 => cases h
  | case7 => cases h

end

/-- A key with a brace in it that leads to something looks up a member. -/
theorem looksUpMember_of_follow [Members] {key : List Char} {value : String}
    {found : Value Members.Object}
    (hname : '{' ∉ key.takeWhile (!startsLookup ·)) (hbrace : '{' ∈ key)
    (h : (Value.text value).follow (lookups (key.dropWhile (!startsLookup ·))) = .ok found) :
    LooksUpMember key := by
  refine exists_member_of_follow h ?_
  rw [← List.takeWhile_append_dropWhile (p := (!startsLookup ·)) (l := key)] at hbrace
  exact (List.mem_append.mp hbrace).resolve_left hname

/-! ## Templates without members -/

/-- Texts lead to texts by anything but a member, and to the same under every account. -/
theorem exists_follow_text {rest : List (Except Fault Lookup)}
    (h : ∀ name ∈ memberNames, .ok (.member name) ∉ rest) (value : String) :
    ∃ outcome : Except Fault String,
      ∀ [Members], (Value.text value).follow rest = outcome.map Value.text := by
  induction rest generalizing value with
  | nil => exact ⟨.ok value, fun {_} => rfl⟩
  | cons step rest ih =>
    have hrest : ∀ name ∈ memberNames, .ok (.member name) ∉ rest :=
      fun name hname hmem => h name hname (List.mem_cons_of_mem _ hmem)
    cases step with
    | error fault => exact ⟨.error fault, fun {_} => rfl⟩
    | ok lookup =>
      cases lookup with
      | member name =>
        have hname : name ∉ memberNames := fun hname => h name hname List.mem_cons_self
        refine ⟨.error (.noMember name), fun {_} => ?_⟩
        have hnone : (Value.text value).lookUp (.member name) = .error (.noMember name) :=
          if_neg (by simpa using hname)
        simp only [Value.follow, bind, Except.bind, hnone, Except.map]
      | index n =>
        cases hfound : value.toList[n]? with
        | none =>
          refine ⟨.error .noCharacter, fun {_} => ?_⟩
          simp only [Value.follow, Value.lookUp, bind, Except.bind, hfound, Except.map]
        | some c =>
          obtain ⟨outcome, houtcome⟩ := ih hrest c.toString
          refine ⟨outcome, fun {_} => ?_⟩
          simp only [Value.follow, Value.lookUp, bind, Except.bind, hfound, houtcome]
      | key name => exact ⟨.error .keyInText, fun {_} => rfl⟩

theorem exists_convert_text (value : String) (mark : Option Char) :
    ∃ outcome : Except Fault String,
      ∀ [Members], (Value.text value).convert mark = outcome.map Value.text := by
  rcases mark with - | c
  · exact ⟨.ok value, fun {_} => rfl⟩
  · by_cases hzero : c = '\x00'
    · subst hzero
      exact ⟨.ok value, fun {_} => rfl⟩
    · cases hmark : Conversion.ofChar? c with
      | none =>
        refine ⟨.error (.unknownConversion c), fun {_} => ?_⟩
        simp only [Value.convert, hmark, Except.map]
      | some conversion =>
        have hshown : ∃ shown : String,
            ∀ [Members], (Value.text value).shown conversion = .ok shown := by
          cases conversion with
          | plain => exact ⟨_, fun {_} => rfl⟩
          | quoted => exact ⟨_, fun {_} => rfl⟩
          | quotedAscii => exact ⟨_, fun {_} => rfl⟩
        obtain ⟨shown, hshown⟩ := hshown
        refine ⟨.ok shown, fun {_} => ?_⟩
        simp only [Value.convert, hmark, hshown, bind, Except.bind, pure, Except.pure, Except.map]

/-- No field looks up a member that texts have. -/
def WithoutMembers (ps : List Piece) : Prop :=
  ∀ key mark format, .field key mark format ∈ ps → ¬LooksUpMember key

theorem fillField_of_withoutMembers (account account' : Members) {expand expand' : Expansion}
    {key format : List Char} (hkey : ¬LooksUpMember key)
    (hexpand : ∀ numbering, expand.ofFormat numbering format = expand'.ofFormat numbering format)
    (arguments : Arguments) (numbering : Numbering) (mark : Option Char) :
    @fillField account expand arguments numbering key mark format =
      @fillField account' expand' arguments numbering key mark format := by
  have hrest : ∀ name ∈ memberNames,
      .ok (.member name) ∉ lookups (key.dropWhile (!startsLookup ·)) :=
    fun name hname hmem => hkey ⟨name, hname, hmem⟩
  simp only [fillField, hexpand]
  -- The argument is found alike, so what is done with it is compared.
  refine congrArg _ (funext fun reference => congrArg _ (funext fun taken => ?_))
  obtain ⟨outcome, hfollow⟩ := exists_follow_text hrest taken.1
  rw [@hfollow account, @hfollow account']
  cases outcome with
  | error fault => rfl
  | ok text =>
    obtain ⟨converted, hconvert⟩ := exists_convert_text text mark
    simp only [Except.map, bind, Except.bind, @hconvert account, @hconvert account']
    cases converted <;> rfl

theorem fill_of_withoutMembers (account account' : Members) {expand expand' : Expansion}
    {ps : List Piece} (hps : WithoutMembers ps)
    (hexpand : ∀ key mark format, .field key mark format ∈ ps →
      ∀ numbering, expand.ofFormat numbering format = expand'.ofFormat numbering format)
    (arguments : Arguments) (numbering : Numbering) :
    @fill account expand arguments numbering ps =
      @fill account' expand' arguments numbering ps := by
  induction ps generalizing numbering with
  | nil => rfl
  | cons piece ps ih =>
    have ih := ih (fun _ _ _ hmem => hps _ _ _ (List.mem_cons_of_mem _ hmem))
      (fun _ _ _ hmem => hexpand _ _ _ (List.mem_cons_of_mem _ hmem))
    cases piece with
    | char c => simp only [fill, ih]
    | field key mark format =>
      have hfield := fillField_of_withoutMembers account account' (hps _ _ _ List.mem_cons_self)
        (hexpand _ _ _ List.mem_cons_self) arguments numbering mark
      simp only [fill, hfield, ih]
    | broken fault => rfl

theorem expandFormat_of_withoutMembers (account account' : Members) {format : List Char}
    (h : WithoutMembers (pieces format)) (arguments : Arguments) (numbering : Numbering) :
    @expandFormat account arguments numbering format =
      @expandFormat account' arguments numbering format :=
  fill_of_withoutMembers account account' h (fun _ _ _ _ _ => rfl) arguments numbering

/-- A template that looks up no member, neither in its fields nor in those of their formats, is
filled alike under every account of members. -/
theorem render_eq_of_withoutMembers (account account' : Members) {template : String}
    (h : WithoutMembers (pieces template.toList))
    (hformats : ∀ key mark format, .field key mark format ∈ pieces template.toList →
      WithoutMembers (pieces format)) (arguments : Arguments) :
    @render account template arguments = @render account' template arguments := by
  have hexpand : ∀ key mark format, .field key mark format ∈ pieces template.toList →
      ∀ numbering, Expansion.ofFormat (@expandFormat account arguments) numbering format =
        Expansion.ofFormat (@expandFormat account' arguments) numbering format := by
    intro key mark format hmem numbering
    rw [Expansion.ofFormat, Expansion.ofFormat,
      expandFormat_of_withoutMembers account account' (hformats _ _ _ hmem)]
  simp only [render, fill_of_withoutMembers account account' h hexpand]

end Template
end TypeStub
