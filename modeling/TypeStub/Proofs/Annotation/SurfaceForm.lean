import Mathlib.Logic.Relation
import TypeStub.Proofs.Annotation.Image
import TypeStub.Proofs.Annotation.Lossless
import TypeStub.Proofs.Annotation.Succession
import TypeStub.Proofs.Annotation.Visible

/-!
# The surface of a text

Blanks may be put wherever a token begins or ends, and the two separators may stand for one
another (`SurfaceEdit`).  Neither changes what a reader sees of a text, since the text in
front of such a place is cut into whole tokens (`exists_cuts_of_isBoundary`).

A name that its bracket implies may be left out as well (`DropsImpliedName`), but only of a
text that is read: the name could be one too many, and without it the group would go to the
name in front.

The main statement is `surface_form_irrelevant`.
-/

namespace TypeStub
namespace Annotation

open TypeStub.Text TokenStream

/-- A place of a text where one of its tokens begins or ends, or the character of no token
begins. -/
def IsBoundary (text : String) (place : Nat) : Prop :=
  place ∈ (tokenize text).places.map Prod.snd ∨ place ∈ (tokenize text).tokens.map Token.stop

/-- An edit that no reader notices. -/
inductive SurfaceEdit : String → String → Prop
  | blanks {front blanks back : String} :
    IsBoundary (front ++ back) front.length → (∀ c ∈ blanks.toList, isBlank c = true) →
      SurfaceEdit (front ++ back) (front ++ blanks ++ back)
  | semicolon {front back : String} : SurfaceEdit (front ++ "," ++ back) (front ++ ";" ++ back)
  | comma {front back : String} : SurfaceEdit (front ++ ";" ++ back) (front ++ "," ++ back)

/-- A name in front of a bracket is left out, where the bracket implies it. -/
inductive DropsImpliedName : String → String → Prop
  | drop {front back : String} {w ws : List Token} {name next : Token} {ending : StreamEnd}
    {bracket : Bracket} :
    tokenize (front ++ name.lexeme ++ back) = ⟨w ++ name :: next :: ws, ending⟩ →
      name.position = front.length → name.kind = .name → name.lexeme = bracket.defaultName →
      next.kind = .opening bracket →
      DropsImpliedName (front ++ name.lexeme ++ back) (front ++ back)

/-! ## Boundaries -/

/-- The token of the end is the last, so it is not in front of anything. -/
theorem TokenStream.Complete.kind_ne_finish {w more : List Token} {ending : StreamEnd}
    (h : Complete ⟨w ++ more, ending⟩) (hplaces : (TokenStream.mk more ending).places ≠ []) :
    ∀ token ∈ w, token.kind ≠ .closing .finish := by
  intro token htoken hfinish
  obtain ⟨front, back, rfl⟩ := List.append_of_mem htoken
  rw [List.append_assoc, List.cons_append] at h
  rcases h.behind with ⟨hne, -⟩ | ⟨-, hspent⟩
  · exact hne hfinish
  · obtain ⟨hnil, rfl⟩ := TokenStream.mk.inj hspent
    obtain ⟨-, rfl⟩ := List.append_eq_nil_iff.mp hnil
    exact hplaces rfl

theorem position_of_scan {cs : List Char} {position : Nat} {item : String × Nat}
    (hhead : ∀ c ∈ cs.head?, isBlank c = false)
    (hitem : (scan TokenKind.all position cs).places.head? = some item) : item.2 = position := by
  induction cs using scan_induction with
  | nil =>
    rw [scan_nil] at hitem
    exact congrArg Prod.snd (Option.some.inj hitem).symm
  | blank c cs hc =>
    rw [hhead c rfl] at hc
    cases hc
  | lexeme kind c cs rest hlexeme _ hblank hfinish =>
    rw [scan_lexeme hlexeme hblank hfinish] at hitem
    exact congrArg Prod.snd (Option.some.inj hitem).symm
  | invalid c cs hnone =>
    rw [scan_invalid hnone] at hitem
    exact congrArg Prod.snd (Option.some.inj hitem).symm

variable {text other : String} {front back : List Char} {w more : List Token} {ending : StreamEnd}

theorem kind_ne_finish_in_front {token : Token}
    (h : tokenize text = ⟨w ++ token :: more, ending⟩) :
    ∀ other ∈ w, other.kind ≠ .closing .finish := by
  have hcomplete : Complete ⟨w ++ token :: more, ending⟩ := h ▸ complete_scan 0 text.toList
  exact hcomplete.kind_ne_finish (List.cons_ne_nil (token.lexeme, token.position) _)

/-- A text is cut into whole tokens in front of the place where one begins. -/
theorem cuts_of_position {item : String × Nat} (htokens : tokenize text = ⟨w ++ more, ending⟩)
    (hitem : (TokenStream.mk more ending).places.head? = some item)
    (htext : text.toList = front ++ back) (hplace : item.2 = front.length) :
    Cuts back 0 front w := by
  have hcomplete : Complete ⟨w ++ more, ending⟩ := htokens ▸ complete_scan 0 text.toList
  have hplaces : (TokenStream.mk more ending).places ≠ [] := by
    intro hnil
    rw [hnil] at hitem
    cases hitem
  obtain ⟨segment, rest, hcs, hcuts, hscan, hhead⟩ :=
    exists_cuts htokens (hcomplete.kind_ne_finish hplaces)
  rw [← hscan] at hitem
  have hposition := position_of_scan hhead hitem
  rw [hplace, Nat.zero_add] at hposition
  obtain ⟨rfl, rfl⟩ := List.append_inj (htext.symm.trans hcs) hposition
  exact hcuts

theorem exists_cuts_of_isBoundary (h : IsBoundary text front.length)
    (htext : text.toList = front ++ back) : ∃ w, Cuts back 0 front w := by
  rcases htokens : tokenize text with ⟨tokens, ending⟩
  rw [IsBoundary, htokens] at h
  have hstart : ∀ {w more : List Token} {token : Token}, tokens = w ++ token :: more →
      token.position = front.length → ∃ w, Cuts back 0 front w := by
    rintro w more token rfl hplace
    exact ⟨w, cuts_of_position htokens rfl htext hplace⟩
  rcases h with hplace | hplace
  · obtain ⟨item, hitem, hplace⟩ := List.mem_map.mp hplace
    rcases List.mem_append.mp hitem with htoken | hinvalid
    · obtain ⟨token, hmem, rfl⟩ := List.mem_map.mp htoken
      obtain ⟨w, more, hsplit⟩ := List.append_of_mem hmem
      exact hstart hsplit hplace
    · cases ending with
      | exhausted => exact absurd hinvalid List.not_mem_nil
      | invalid c position =>
        obtain rfl := List.mem_singleton.mp hinvalid
        rw [← List.append_nil tokens] at htokens
        exact ⟨tokens, cuts_of_position htokens rfl htext hplace⟩
  · obtain ⟨token, hmem, hstop⟩ := List.mem_map.mp hplace
    obtain ⟨w, more, rfl⟩ := List.append_of_mem hmem
    have hw := kind_ne_finish_in_front htokens
    by_cases hfinish : token.kind = .closing .finish
    · obtain ⟨-, htoken, -, -⟩ := cuts_of_finish htokens hw hfinish
      rw [htoken] at hstop
      refine hstart rfl ?_
      rw [htoken]
      exact hstop
    · obtain ⟨segment, lexeme, rest, hcs, hcuts, hblank, hlexeme, htoken⟩ :=
        exists_cuts_of_token htokens hw hfinish
      have hlast : Cuts rest (0 + segment.length) (lexeme ++ []) _ :=
        .lexeme hlexeme hblank hfinish .nil
      rw [List.append_nil] at hlast
      rw [htoken, Token.stop, String.length_ofList, Nat.zero_add] at hstop
      rw [← List.append_assoc] at hcs
      obtain ⟨rfl, rfl⟩ :=
        List.append_inj (htext.symm.trans hcs) (by rw [List.length_append, hstop])
      exact ⟨_, hcuts.append hlast⟩

/-! ## Edits -/

/-- Behind a segment that is cut into whole tokens only what a reader sees counts. -/
theorem visible_scan_of_cuts {back' : List Char} (hcuts : Cuts back 0 front w)
    (hcuts' : Cuts back' 0 front w)
    (h : (scan TokenKind.all front.length back).visible =
      (scan TokenKind.all front.length back').visible) :
    (scan TokenKind.all 0 (front ++ back)).visible =
      (scan TokenKind.all 0 (front ++ back')).visible := by
  rw [scan_of_cuts hcuts, scan_of_cuts hcuts', visible_prepend, visible_prepend, Nat.zero_add, h]

theorem visible_of_blanks {front blanks back : String}
    (hplace : IsBoundary (front ++ back) front.length)
    (hblanks : ∀ c ∈ blanks.toList, isBlank c = true) :
    (tokenize (front ++ back)).visible = (tokenize (front ++ blanks ++ back)).visible := by
  rw [← String.length_toList] at hplace
  obtain ⟨w, hcuts⟩ := exists_cuts_of_isBoundary hplace String.toList_append
  have hcuts' : Cuts (blanks.toList ++ back.toList) 0 front.toList w := by
    refine hcuts.congr _ fun name hname => ?_
    rcases hlist : blanks.toList with - | ⟨c, cs⟩
    · exact hname
    · have hc : isBlank c = true := hblanks c (by rw [hlist]; exact List.mem_cons_self)
      exact Name.continuation_eq_nil (Name.scanPath_blank hc _) name
  have hskip : Cuts back.toList front.toList.length (blanks.toList ++ []) [] := .blanks hblanks .nil
  rw [List.append_nil] at hskip
  rw [tokenize, tokenize, String.toList_append, String.toList_append, String.toList_append,
    List.append_assoc]
  refine visible_scan_of_cuts hcuts hcuts' ?_
  rw [scan_of_cuts hskip, visible_prepend]
  exact visible_scan_position _ _ _

theorem visible_of_interchangeable {front mark mark' back : String}
    (h : List.Forall₂ Interchangeable mark.toList mark'.toList) :
    (tokenize (front ++ mark ++ back)).visible = (tokenize (front ++ mark' ++ back)).visible := by
  have hsame : ∀ cs : List Char, List.Forall₂ Interchangeable cs cs :=
    fun cs => List.forall₂_same.mpr fun _ _ => .inl rfl
  rw [tokenize, tokenize]
  simp only [String.toList_append, List.append_assoc]
  exact visible_scan_of_interchangeable
    (List.rel_append (hsame _) (List.rel_append h (hsame _))) 0

theorem SurfaceEdit.visible (h : SurfaceEdit text other) :
    (tokenize text).visible = (tokenize other).visible := by
  cases h with
  | blanks hplace hblanks => exact visible_of_blanks hplace hblanks
  | semicolon => exact visible_of_interchangeable (by simp [Interchangeable])
  | comma => exact visible_of_interchangeable (by simp [Interchangeable])

theorem visible_of_surfaceEdits (h : Relation.EqvGen SurfaceEdit text other) :
    (tokenize text).visible = (tokenize other).visible := by
  induction h with
  | rel _ _ hedit => exact hedit.visible
  | refl _ => rfl
  | symm _ _ _ ih => exact ih.symm
  | trans _ _ _ _ _ ih ih' => exact ih.trans ih'

/-! ## Implied names -/

/-- A reading that succeeds reads on over all tokens in front of the end. -/
theorem exists_advance_of_run_eq_ok {reader : Reader} {nodes : List TypeNode}
    (hw : ∀ token ∈ w, token.kind ≠ .closing .finish)
    (h : (Cursor.run (.closing .finish) text ending reader (w ++ more)).1 = .ok nodes) :
    ∃ next, reader.advance (.closing .finish) w = some next ∧
      (Cursor.run (.closing .finish) text ending next more).1 = .ok nodes := by
  induction w generalizing reader with
  | nil => exact ⟨reader, rfl, h⟩
  | cons token w ih =>
    obtain ⟨htoken, hw⟩ := List.forall_mem_cons.mp hw
    rw [List.cons_append, Cursor.run] at h
    cases hstep : reader.step (.closing .finish) token with
    | reading next =>
      rw [hstep] at h
      rw [Reader.advance_cons hstep]
      exact ih hw h
    | finished types =>
      cases Reader.stepOf_of_eq hstep with
      | finish hfinish => exact absurd hfinish htoken
    | stopped reason =>
      rw [hstep] at h
      cases h

theorem entry_eq_empty_of_run_eq_ok {goal : TokenKind} {reader : Reader} {name : Token}
    {tokens : List Token} {nodes : List TypeNode} (hname : name.kind = .name)
    (h : (Cursor.run goal text ending reader (name :: tokens)).1 = .ok nodes) :
    reader.entry = .empty := by
  by_contra hne
  have hstep : reader.step goal name = .stopped (.fault .secondName) := by
    rw [Reader.step, hname]
    cases hentry : reader.entry with
    | empty => exact absurd hentry hne
    | named _ => rfl
    | grouped _ _ => rfl
  rw [Cursor.run, hstep] at h
  cases h

/-- A reader that has begun no entry comes to the same with an implied name. -/
theorem run_of_implied {goal : TokenKind} {reader : Reader} {name next : Token}
    {bracket : Bracket} (hempty : reader.entry = .empty) (hname : name.kind = .name)
    (hlexeme : name.lexeme = bracket.defaultName) (hnext : next.kind = .opening bracket)
    (tokens : List Token) :
    Cursor.run goal text ending reader (name :: next :: tokens) =
      Cursor.run goal text ending reader (next :: tokens) := by
  obtain ⟨outer, done, entry⟩ := reader
  obtain rfl : entry = .empty := hempty
  rw [Cursor.run, Reader.step_name hname]
  simp only [Cursor.run, Reader.step_opening hnext]
  rw [hlexeme]
  rfl

theorem scanPath_eq_nil_of_token {cs : List Char} {position : Nat} {token : Token}
    (h : scan TokenKind.all position cs = ⟨token :: more, ending⟩) (htoken : token.kind ≠ .name) :
    Name.scanPath cs = [] := by
  induction cs using scan_induction with
  | nil => rfl
  | blank c cs hc => exact Name.scanPath_blank hc cs
  | lexeme kind c cs rest hlexeme _ hblank hfinish =>
    rw [scan_lexeme hlexeme hblank hfinish] at h
    obtain ⟨rfl, -⟩ := cons_eq_mk_iff.mp h
    exact scanPath_eq_nil_of_lexeme? hlexeme htoken
  | invalid c cs hnone =>
    exact Name.scanPath_eq_nil_of_scan (scan_eq_nil_of_name_lexeme? (hnone .name))

/-- At a token the text is cut into the tokens in front of it, and behind it the scan goes on
with the tokens that are left. -/
theorem cuts_of_token {lexeme : List Char} {token : Token}
    (htokens : tokenize text = ⟨w ++ token :: more, ending⟩)
    (htext : text.toList = front ++ (lexeme ++ back)) (hposition : token.position = front.length)
    (hlexeme : token.lexeme.toList = lexeme) (hfinish : token.kind ≠ .closing .finish) :
    Cuts (lexeme ++ back) 0 front w ∧
      scan TokenKind.all (0 + front.length + lexeme.length) back = ⟨more, ending⟩ := by
  have hw := kind_ne_finish_in_front htokens
  obtain ⟨segment, found, rest, hcs, hcuts, hblank, hfound, htoken⟩ :=
    exists_cuts_of_token htokens hw hfinish
  -- What is found at the token is what stands there.
  rw [htoken, Nat.zero_add] at hposition
  rw [htoken, String.toList_ofList] at hlexeme
  subst hlexeme
  obtain ⟨rfl, hbehind⟩ := List.append_inj (hcs.symm.trans htext) hposition
  obtain rfl := List.append_cancel_left hbehind
  refine ⟨hcuts, ?_⟩
  rw [tokenize, hcs, scan_of_cuts hcuts, scan_lexeme hfound hblank hfinish] at htokens
  obtain ⟨hsplit, hending⟩ := TokenStream.mk.inj htokens
  obtain ⟨-, hmore⟩ := List.cons.inj (List.append_cancel_left hsplit)
  rw [← hmore, ← hending]
  rfl

theorem DropsImpliedName.parse_eq_ok {nodes : List TypeNode} (h : DropsImpliedName text other)
    (hparse : parse text = .ok nodes) : parse other = .ok nodes := by
  cases h with
  | @drop front back w ws name next ending bracket htokens hposition hname hlexeme hnext =>
  have htext : (front ++ name.lexeme ++ back).toList =
      front.toList ++ (name.lexeme.toList ++ back.toList) := by
    rw [String.toList_append, String.toList_append, List.append_assoc]
  have hw := kind_ne_finish_in_front htokens
  have hfinish : name.kind ≠ .closing .finish := by
    rw [hname]
    decide
  rw [← String.length_toList] at hposition
  obtain ⟨hcuts, hrest⟩ := cuts_of_token htokens htext hposition rfl hfinish
  -- The reader in front of the name has begun no entry.
  rw [parse, Cursor.read, Cursor.ofText, htokens] at hparse
  obtain ⟨reader, hadvance, hrun⟩ := exists_advance_of_run_eq_ok hw hparse
  have hempty := entry_eq_empty_of_run_eq_ok hname hrun
  rw [run_of_implied hempty hname hlexeme hnext] at hrun
  -- Without the name the front keeps its tokens.
  have hpath : Name.scanPath back.toList = [] :=
    scanPath_eq_nil_of_token hrest (by simp [hnext])
  have hcuts' := hcuts.congr back.toList fun name _ => Name.continuation_eq_nil hpath name
  have hvisible := visible_scan_position back.toList (0 + front.toList.length)
    (0 + front.toList.length + name.lexeme.toList.length)
  rw [hrest] at hvisible
  rw [Reader.parse_eq_readOn, String.toList_append, Reader.readOn_of_cuts hcuts' hadvance]
  exact Cursor.run_eq_ok_of_visible (congrArg Prod.fst hvisible).symm hrun

/-- Texts that differ in their surface are read alike, and a text that is read is read into
the same nodes without names that their brackets imply. -/
theorem surface_form_irrelevant (text : String) :
    (∀ other, Relation.EqvGen SurfaceEdit text other → SameOutcome text other) ∧
      ∀ nodes, parse text = .ok nodes → ∀ other,
        Relation.ReflTransGen
          (fun before after => SurfaceEdit before after ∨ DropsImpliedName before after)
          text other →
        parse other = .ok nodes := by
  refine ⟨fun other h => sameOutcome_of_visible (visible_of_surfaceEdits h), ?_⟩
  intro nodes hparse other h
  induction h with
  | refl => exact hparse
  | tail _ hedit ih =>
    rcases hedit with hsurface | hdrops
    · exact parse_eq_ok_of_visible hsurface.visible ih
    · exact hdrops.parse_eq_ok ih

set_option maxRecDepth 2000 in
/-- A text with the other separator, with a blank behind a name, and without this name. -/
theorem surface_form_irrelevant_of_array :
    SurfaceEdit "Array<A>,B" "Array<A>;B" ∧ SurfaceEdit "Array<A>;B" "Array <A>;B" ∧
      SameOutcome "Array<A>,B" "Array <A>;B" ∧
      parse "Array<A>,B" = .ok [.collection "Array" [.simple "A"], .simple "B"] ∧
      DropsImpliedName "Array <A>;B" " <A>;B" ∧
      parse " <A>;B" = .ok [.collection "Array" [.simple "A"], .simple "B"] := by
  have hsemicolon : SurfaceEdit "Array<A>,B" "Array<A>;B" := @SurfaceEdit.semicolon "Array<A>" "B"
  have hplace : IsBoundary "Array<A>;B" 5 := by
    refine .inr ?_
    cbv
    exact .head _
  have hblank : SurfaceEdit "Array<A>;B" "Array <A>;B" :=
    @SurfaceEdit.blanks "Array" " " "<A>;B" hplace (List.forall_mem_singleton.mpr (by decide))
  have htokens : tokenize "Array <A>;B" = ⟨⟨.name, "Array", 0⟩ ::
      ⟨.opening .angle, "<", 6⟩ :: [⟨.name, "A", 7⟩, ⟨.closing .angle, ">", 8⟩,
        ⟨.separator, ";", 9⟩, ⟨.name, "B", 10⟩, ⟨.closing .finish, "", 11⟩], .exhausted⟩ := by
    cbv
  have hdrop : DropsImpliedName "Array <A>;B" " <A>;B" :=
    @DropsImpliedName.drop "" " <A>;B" [] _ ⟨.name, "Array", 0⟩ _ _ .angle htokens rfl rfl rfl rfl
  have hparse : parse "Array<A>,B" = .ok [.collection "Array" [.simple "A"], .simple "B"] := by
    cbv
  obtain ⟨hsame, hread⟩ := surface_form_irrelevant "Array<A>,B"
  refine ⟨hsemicolon, hblank, hsame _ ?_, hparse, hdrop, hread _ hparse _ ?_⟩
  · exact .trans _ _ _ (.rel _ _ hsemicolon) (.rel _ _ hblank)
  · exact ((Relation.ReflTransGen.single (.inl hsemicolon)).tail (.inl hblank)).tail (.inr hdrop)

end Annotation
end TypeStub
