import TypeStub.Proofs.Annotation.Name
import TypeStub.Proofs.Dialect.NormalForm

/-!
# Decoding written types

A name holds none of the characters that stand around it, so a written type can be told
from the text behind it, and its members from one another.  From this both grammars
give a text to a single term and to a single form.
-/

namespace TypeStub

open TypeStub.Annotation TypeStub.Text

/-! ## Names -/

def isNameChar (c : Char) : Bool := isWord c || c = ':' || c = '#'

theorem isNameChar_of_isWord {c : Char} (h : isWord c = true) : isNameChar c = true := by
  simp [isNameChar, h]

theorem isNameChar_of_isAlphanum {c : Char} (h : c.isAlphanum = true) : isNameChar c = true :=
  isNameChar_of_isWord (isWord_of_isAlphanum h)

theorem Annotation.IsPath.nameChars {cs : List Char} (h : IsPath cs) :
    ∀ c ∈ cs, isNameChar c = true := by
  have hrun : ∀ {word : List Char}, IsRun word → ∀ c ∈ ':' :: ':' :: word, isNameChar c = true := by
    intro word hword c hc
    simp only [List.mem_cons] at hc
    rcases hc with rfl | rfl | hc
    · rfl
    · rfl
    · exact isNameChar_of_isWord (hword.2 c hc)
  induction h with
  | run hword => exact fun c hc => isNameChar_of_isWord (hword.2 c hc)
  | rooted hword => exact hrun hword
  | member _ hword ih =>
    intro c hc
    rcases List.mem_append.mp hc with hc | hc
    · exact ih c hc
    · exact hrun hword c hc

theorem Annotation.IsName.nameChars {cs : List Char} (h : IsName cs) :
    ∀ c ∈ cs, isNameChar c = true := by
  cases h with
  | path hpath => exact hpath.nameChars
  | hash hword =>
    intro c hc
    rcases List.mem_cons.mp hc with rfl | hc
    · rfl
    · exact isNameChar_of_isWord (hword.2 c hc)

theorem IsWrittenName.nameChars {name : String} (h : IsWrittenName name) :
    name.toList ≠ [] ∧ ∀ c ∈ name.toList, isNameChar c = true := by
  have hspellings : ∀ entry ∈ Dialect.standard.spellings,
      entry.2.toList ≠ [] ∧ entry.2.toList.all (fun c => c.isAlphanum || c = ':') = true := by
    decide +kernel
  obtain ⟨source, hsource, rfl⟩ := h
  rw [Dialect.spell]
  cases hlookup : Dialect.standard.spellings.lookup source with
  | none => exact ⟨hsource.ne_nil, hsource.nameChars⟩
  | some spelling =>
    obtain ⟨front, back, hentry, -⟩ := List.lookup_eq_some_iff.mp hlookup
    have hmem : (source, spelling) ∈ Dialect.standard.spellings := by
      rw [hentry]
      exact List.mem_append_right front List.mem_cons_self
    obtain ⟨hne, hchars⟩ := hspellings (source, spelling) hmem
    refine ⟨hne, fun c hc => ?_⟩
    rcases Bool.or_eq_true_iff.mp (List.all_eq_true.mp hchars c hc) with halnum | hcolon
    · exact isNameChar_of_isAlphanum halnum
    · rw [of_decide_eq_true hcolon]
      rfl

theorem class_head?_cons {p : Char → Bool} {b : Bool} {c : Char} (hc : p c = b) (cs : List Char) :
    ∀ d ∈ (c :: cs).head?, p d = b := by
  intro d hd
  obtain rfl : c = d := by simpa using hd
  exact hc

theorem isNameChar_head?_cons {c : Char} (hc : isNameChar c = false) (cs : List Char) :
    ∀ d ∈ (c :: cs).head?, isNameChar d = false := class_head?_cons hc cs

/-- What is made of one class of characters is told from the text behind it by the first
character of no such class. -/
theorem append_inj_of_class {p : Char → Bool} {as bs cs ds : List Char}
    (has : ∀ c ∈ as, p c = true) (hbs : ∀ c ∈ bs, p c = true)
    (hcs : ∀ c ∈ cs.head?, p c = false) (hds : ∀ c ∈ ds.head?, p c = false)
    (h : as ++ cs = bs ++ ds) : as = bs ∧ cs = ds := by
  have hfront : ∀ {front rest : List Char}, (∀ c ∈ front, p c = true) →
      (∀ c ∈ rest.head?, p c = false) → (front ++ rest).takeWhile p = front := by
    intro front rest hfront hrest
    rw [List.takeWhile_append_of_pos hfront]
    rcases rest with - | ⟨c, rest⟩
    · simp
    · rw [List.takeWhile_cons_of_neg (by simp [hrest c rfl]), List.append_nil]
  have heq : as = bs := by
    rw [← hfront has hcs, h, hfront hbs hds]
  subst heq
  exact ⟨rfl, List.append_cancel_left h⟩

/-- A name is told from the text behind it by the first character that is in no name. -/
theorem append_inj_of_isNameChar {as bs cs ds : List Char}
    (has : ∀ c ∈ as, isNameChar c = true) (hbs : ∀ c ∈ bs, isNameChar c = true)
    (hcs : ∀ c ∈ cs.head?, isNameChar c = false) (hds : ∀ c ∈ ds.head?, isNameChar c = false)
    (h : as ++ cs = bs ++ ds) : as = bs ∧ cs = ds :=
  append_inj_of_class has hbs hcs hds h

/-! ## Members -/

/-- The members behind the first one, each with a comma in front. -/
def furtherMembers (texts : List String) : List Char :=
  texts.flatMap fun text => ',' :: ' ' :: text.toList

theorem toList_listTypes_cons (text : String) (texts : List String) :
    (listTypes (text :: texts)).toList = text.toList ++ furtherMembers texts := by
  induction texts generalizing text with
  | nil => simp [listTypes, furtherMembers]
  | cons next texts ih =>
    have hrest := ih next
    rw [listTypes] at hrest ⊢
    rw [String.intercalate_cons_cons, String.toList_append, hrest]
    simp [furtherMembers]

/-- The text behind a member: none, a comma, or the end of the members. -/
def EndsMember (rest : List Char) : Prop := ∀ c ∈ rest.head?, c = ',' ∨ c = ']' ∨ c = ')'

/-- The text behind the last member begins with the end of a bracket or a wrapper. -/
def EndsMembers (rest : List Char) : Prop := ∃ c cs, rest = c :: cs ∧ (c = ']' ∨ c = ')')

theorem EndsMember.isNameChar {rest : List Char} (h : EndsMember rest) :
    ∀ c ∈ rest.head?, isNameChar c = false := by
  intro c hc
  rcases h c hc with rfl | rfl | rfl
  all_goals decide +kernel

theorem EndsMembers.bracket (cs : List Char) : EndsMembers (']' :: cs) := ⟨']', cs, rfl, .inl rfl⟩

theorem EndsMembers.paren (cs : List Char) : EndsMembers (')' :: cs) := ⟨')', cs, rfl, .inr rfl⟩

theorem EndsMembers.endsMember {rest : List Char} (h : EndsMembers rest) (texts : List String) :
    EndsMember (furtherMembers texts ++ rest) := by
  intro d hd
  cases texts with
  | nil =>
    obtain ⟨c, cs, rfl, hc⟩ := h
    obtain rfl : c = d := by simpa [furtherMembers] using hd
    exact .inr hc
  | cons text texts =>
    obtain rfl : ',' = d := by simpa [furtherMembers] using hd
    exact .inl rfl

theorem EndsMembers.ne_furtherMembers {rest : List Char} (h : EndsMembers rest) (text : String)
    (texts : List String) (cs : List Char) : rest ≠ furtherMembers (text :: texts) ++ cs := by
  intro heq
  subst heq
  obtain ⟨c, ds, hcons, hc⟩ := h
  obtain ⟨rfl, -⟩ := List.cons.inj hcons
  rcases hc with hc | hc <;> cases hc

/-- The text of the member is told from what stands behind it, and from that of every other
member. -/
def Decodes {α : Type} (Written : α → String → Prop) (member : α) : Prop :=
  ∀ (other : α) (text text' : String) (rest rest' : List Char),
    Written member text → Written other text' → EndsMember rest → EndsMember rest' →
      text.toList ++ rest = text'.toList ++ rest' → member = other ∧ rest = rest'

section Members

variable {α : Type} {Written : α → String → Prop} {members others : List α}
  {texts texts' : List String} {rest rest' : List Char}

theorem furtherMembers_unique (hdecodes : ∀ member ∈ members, Decodes Written member)
    (h : List.Forall₂ Written members texts) (h' : List.Forall₂ Written others texts')
    (hrest : EndsMembers rest) (hrest' : EndsMembers rest')
    (heq : furtherMembers texts ++ rest = furtherMembers texts' ++ rest') :
    members = others ∧ rest = rest' := by
  induction h generalizing others texts' with
  | nil =>
    cases h' with
    | nil => exact ⟨rfl, heq⟩
    | cons => exact absurd heq (hrest.ne_furtherMembers _ _ _)
  | @cons member text members texts hmember _ ih =>
    cases h' with
    | nil => exact absurd heq.symm (hrest'.ne_furtherMembers _ _ _)
    | @cons other text' others texts' hother hothers =>
      simp only [furtherMembers, List.flatMap_cons, List.cons_append, List.append_assoc,
        List.cons.injEq, true_and] at heq
      obtain ⟨rfl, hbehind⟩ := hdecodes member List.mem_cons_self other text text' _ _ hmember
        hother (hrest.endsMember texts) (hrest'.endsMember texts') heq
      obtain ⟨rfl, rfl⟩ :=
        ih (fun m hm => hdecodes m (List.mem_cons_of_mem member hm)) hothers hbehind
      exact ⟨rfl, rfl⟩

theorem members_unique (hdecodes : ∀ member ∈ members, Decodes Written member)
    (hne : members ≠ []) (hne' : others ≠ []) (h : List.Forall₂ Written members texts)
    (h' : List.Forall₂ Written others texts') (hrest : EndsMembers rest)
    (hrest' : EndsMembers rest')
    (heq : (listTypes texts).toList ++ rest = (listTypes texts').toList ++ rest') :
    members = others ∧ rest = rest' := by
  -- With a comma in front the first member is one of several.
  cases h with
  | nil => exact absurd rfl hne
  | @cons member text members texts hmember hmembers =>
    cases h' with
    | nil => exact absurd rfl hne'
    | @cons other text' others texts' hother hothers =>
      rw [toList_listTypes_cons, toList_listTypes_cons] at heq
      refine furtherMembers_unique hdecodes (.cons hmember hmembers) (.cons hother hothers)
        hrest hrest' ?_
      simpa [furtherMembers] using heq

end Members

/-! ## Terms -/

namespace Term

/-- The written form of the term is told from what stands behind it, and from that of
every other term. -/
def Decodes (term : Term) : Prop :=
  ∀ (other : Term) (text text' : String) (rest rest' : List Char),
    term.WrittenAs text → other.WrittenAs text' → EndsMember rest → EndsMember rest' →
      text.toList ++ rest = text'.toList ++ rest' → term = other ∧ rest = rest'

theorem toList_generic (name text : String) (rest : List Char) :
    (name ++ "[" ++ text ++ "]").toList ++ rest =
      name.toList ++ '[' :: (text.toList ++ ']' :: rest) := by
  simp

/-- Written types are told from one another and from what stands behind them. -/
theorem decodes (term : Term) : term.Decodes := by
  induction term using Term.induction with
  | node name members ih =>
    intro other text text' rest rest' h h' hrest hrest' heq
    have hopens := isNameChar_head?_cons (c := '[') (by decide +kernel)
    cases h with
    | bare hname =>
      cases h' with
      | bare hname' =>
        obtain ⟨hnames, rfl⟩ := append_inj_of_isNameChar hname.nameChars.2 hname'.nameChars.2
          hrest.isNameChar hrest'.isNameChar heq
        obtain rfl := String.toList_inj.mp hnames
        exact ⟨rfl, rfl⟩
      | generic hname' hne' hmembers' hnil' =>
        rw [toList_generic] at heq
        obtain ⟨-, rfl⟩ := append_inj_of_isNameChar hname.nameChars.2 hname'.nameChars.2
          hrest.isNameChar (hopens _) heq
        have hopen := hrest '[' rfl
        exact absurd hopen (by decide)
    | generic hname hne hmembers hnil =>
      rw [toList_generic] at heq
      cases h' with
      | bare hname' =>
        obtain ⟨-, rfl⟩ := append_inj_of_isNameChar hname.nameChars.2 hname'.nameChars.2
          (hopens _) hrest'.isNameChar heq
        have hopen := hrest' '[' rfl
        exact absurd hopen (by decide)
      | generic hname' hne' hmembers' hnil' =>
        rw [toList_generic] at heq
        obtain ⟨hnames, hbracket⟩ := append_inj_of_isNameChar hname.nameChars.2
          hname'.nameChars.2 (hopens _) (hopens _) heq
        obtain rfl := String.toList_inj.mp hnames
        obtain ⟨rfl, hbehind⟩ := members_unique ih hne hne' hmembers hmembers' (.bracket _)
          (.bracket _) (List.cons.inj hbracket).2
        exact ⟨rfl, (List.cons.inj hbehind).2⟩

theorem WrittenAs.unique {term other : Term} {text : String} (h : term.WrittenAs text)
    (h' : other.WrittenAs text) : term = other :=
  (term.decodes other text text [] [] h h' (by simp [EndsMember]) (by simp [EndsMember]) rfl).1

theorem texts_unique {members : List Term} {texts texts' : List String}
    (hunique : ∀ member ∈ members, ∀ text text',
      member.WrittenAs text → member.WrittenAs text' → text = text')
    (h : List.Forall₂ WrittenAs members texts) (h' : List.Forall₂ WrittenAs members texts') :
    texts = texts' := by
  induction h generalizing texts' with
  | nil =>
    cases h'
    rfl
  | @cons member text members texts hmember _ ih =>
    cases h' with
    | @cons _ text' _ texts' hmember' hmembers' =>
      rw [hunique member List.mem_cons_self text text' hmember hmember',
        ih (fun m hm => hunique m (List.mem_cons_of_mem member hm)) hmembers']

theorem WrittenAs.text_unique {term : Term} {text text' : String} (h : term.WrittenAs text)
    (h' : term.WrittenAs text') : text = text' := by
  induction term using Term.induction generalizing text text' with
  | node name members ih =>
    cases h with
    | bare =>
      cases h' with
      | bare => rfl
      | generic _ hne => exact absurd rfl hne
    | generic _ hne hmembers =>
      cases h' with
      | bare => exact absurd rfl hne
      | generic _ _ hmembers' =>
        rw [texts_unique (fun member hmember _ _ h h' => ih member hmember h h') hmembers
          hmembers']

theorem isWrittenName_nilClass : IsWrittenName "NilClass" :=
  ⟨"nil", isName_of_isAlphanum (List.cons_ne_nil _ _) (by decide), rfl⟩

theorem WrittenAs.eq_nilClass_iff {term : Term} {text : String} (h : term.WrittenAs text) :
    text = "NilClass" ↔ term.isNil = true := by
  rw [isNil_iff]
  constructor
  · intro heq
    subst heq
    exact h.unique (.bare isWrittenName_nilClass)
  · intro heq
    subst heq
    exact h.text_unique (.bare isWrittenName_nilClass)

theorem WrittenAs.ne_empty {term : Term} {text : String} (h : term.WrittenAs text) : text ≠ "" := by
  cases h with
  | bare hname => exact fun hempty => hname.nameChars.1 (by rw [hempty]; rfl)
  | generic => simp

/-- No type is written with a dot behind its first letter, as the wrappers are. -/
theorem WrittenAs.ne_dotted {term : Term} {text : String} {rest : List Char}
    (h : term.WrittenAs text) (hrest : EndsMember rest) (cs : List Char) :
    text.toList ++ rest ≠ 'T' :: '.' :: cs := by
  intro htext
  have hopens := isNameChar_head?_cons (c := '[') (by decide +kernel)
  have hdot := isNameChar_head?_cons (c := '.') (by decide +kernel) cs
  have hletter : ∀ c ∈ ['T'], isNameChar c = true :=
    List.forall_mem_singleton.mpr (isNameChar_of_isAlphanum (by decide))
  have hchars : text.toList ++ rest = ['T'] ++ '.' :: cs := htext
  cases h with
  | bare hname =>
    obtain ⟨-, rfl⟩ :=
      append_inj_of_isNameChar hname.nameChars.2 hletter hrest.isNameChar hdot hchars
    have hbehind := hrest '.' rfl
    exact absurd hbehind (by decide)
  | generic hname =>
    rw [toList_generic] at hchars
    obtain ⟨-, hbracket⟩ :=
      append_inj_of_isNameChar hname.nameChars.2 hletter (hopens _) hdot hchars
    cases (List.cons.inj hbracket).1

theorem WrittenAs.ne_wrapped {term : Term} {text : String} (h : term.WrittenAs text)
    (wrapper members : String) : text ≠ "T." ++ wrapper ++ members ++ ")" := by
  rintro rfl
  have hend : EndsMember [] := by simp [EndsMember]
  have hdotted := h.ne_dotted hend
  simp at hdotted

end Term

/-! ## Forms -/

namespace Form

theorem WrittenAs.text_unique {form : Form} {text text' : String} (h : form.WrittenAs text)
    (h' : form.WrittenAs text') : text = text' := by
  have htexts : ∀ {members : List Term} {texts texts' : List String},
      List.Forall₂ Term.WrittenAs members texts → List.Forall₂ Term.WrittenAs members texts' →
      texts = texts' :=
    Term.texts_unique fun _ _ _ _ h h' => h.text_unique h'
  cases h with
  | nothing =>
    cases h'
    rfl
  | single hterm =>
    cases h' with
    | single hterm' => exact hterm.text_unique hterm'
  | union _ hmembers =>
    cases h' with
    | union _ hmembers' => rw [htexts hmembers hmembers']
  | nilable _ hmembers =>
    cases h' with
    | nilable _ hmembers' => rw [htexts hmembers hmembers']

theorem members_unique {members others : List Term} {texts texts' : List String} {front : String}
    (hne : members ≠ []) (hne' : others ≠ [])
    (h : List.Forall₂ Term.WrittenAs members texts)
    (h' : List.Forall₂ Term.WrittenAs others texts')
    (heq : front ++ listTypes texts ++ ")" = front ++ listTypes texts' ++ ")") :
    members = others := by
  rw [← String.toList_inj] at heq
  simp only [String.toList_append, List.append_assoc, List.append_cancel_left_eq] at heq
  exact (TypeStub.members_unique (fun member _ => member.decodes) hne hne' h h' (.paren _)
    (.paren _) heq).1

theorem union_ne_nilable (texts texts' : String) :
    "T.any(" ++ texts ++ ")" ≠ "T.nilable(" ++ texts' ++ ")" := by
  intro h
  rw [← String.toList_inj] at h
  simp at h

theorem WrittenAs.unique {form other : Form} {text : String} (h : form.WrittenAs text)
    (h' : other.WrittenAs text) : form = other := by
  have hne : ∀ {members : List Term}, 2 ≤ members.length → members ≠ [] := by
    rintro _ hlength rfl
    exact absurd hlength (by decide)
  generalize htext : text = text' at h'
  cases h with
  | nothing =>
    cases h' with
    | nothing => rfl
    | single hterm => exact absurd htext.symm hterm.ne_empty
    | union => simp at htext
    | nilable => simp at htext
  | single hterm =>
    cases h' with
    | nothing => exact absurd htext hterm.ne_empty
    | single hterm' =>
      subst htext
      rw [hterm.unique hterm']
    | union => exact absurd htext (hterm.ne_wrapped "any(" _)
    | nilable => exact absurd htext (hterm.ne_wrapped "nilable(" _)
  | union hlength hmembers =>
    cases h' with
    | nothing => simp at htext
    | single hterm => exact absurd htext.symm (hterm.ne_wrapped "any(" _)
    | union hlength' hmembers' =>
      rw [members_unique (hne hlength) (hne hlength') hmembers hmembers' htext]
    | nilable => exact absurd htext (union_ne_nilable _ _)
  | nilable hmembers_ne hmembers =>
    cases h' with
    | nothing => simp at htext
    | single hterm => exact absurd htext.symm (hterm.ne_wrapped "nilable(" _)
    | union => exact absurd htext.symm (union_ne_nilable _ _)
    | nilable hmembers_ne' hmembers' =>
      rw [members_unique hmembers_ne hmembers_ne' hmembers hmembers' htext]

end Form

end TypeStub
