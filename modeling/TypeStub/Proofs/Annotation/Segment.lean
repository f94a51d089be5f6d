import TypeStub.Proofs.Annotation.Lexeme

/-!
# Segments of a text

The scan restated by what stands at the front of a text, and from that by segments.
`Cuts rest position cs tokens` says that the characters `cs`, with `rest` behind
them, are cut into just these tokens and blanks.  The text behind is part of the
statement because a name at the end of the segment could go on into it.

A stream can be split in front of any of its tokens, which splits the text
(`exists_cuts`), and a segment keeps its tokens when the text behind it changes, as
long as no name goes on there (`Cuts.congr`).
-/

namespace TypeStub
namespace Annotation

open TypeStub.Text

namespace TokenStream

def prepend (tokens : List Token) (stream : TokenStream) : TokenStream :=
  { stream with tokens := tokens ++ stream.tokens }

@[simp] theorem tokens_prepend (tokens : List Token) (stream : TokenStream) :
    (stream.prepend tokens).tokens = tokens ++ stream.tokens := rfl

@[simp] theorem ending_prepend (tokens : List Token) (stream : TokenStream) :
    (stream.prepend tokens).ending = stream.ending := rfl

@[simp] theorem tokens_cons (token : Token) (stream : TokenStream) :
    (stream.cons token).tokens = token :: stream.tokens := rfl

@[simp] theorem ending_cons (token : Token) (stream : TokenStream) :
    (stream.cons token).ending = stream.ending := rfl

theorem cons_eq_mk_iff {token first : Token} {stream : TokenStream} {tokens : List Token}
    {ending : StreamEnd} :
    stream.cons token = ⟨first :: tokens, ending⟩ ↔ token = first ∧ stream = ⟨tokens, ending⟩ := by
  cases stream
  simp [cons, and_assoc]

/-! ## The scan of a text by its front -/

theorem scan_nil (position : Nat) :
    scan TokenKind.all position [] = ⟨[⟨.closing .finish, "", position⟩], .exhausted⟩ := by
  have hfinish : firstLexeme? TokenKind.all [] = some (.closing .finish, []) :=
    firstLexeme?_all rfl
  exact scan_of_finish hfinish position

theorem scan_invalid {c : Char} {cs : List Char}
    (h : ∀ kind : TokenKind, kind.lexeme? (c :: cs) = none) (position : Nat) :
    scan TokenKind.all position (c :: cs) = ⟨[], .invalid c position⟩ :=
  scan_of_none (firstLexeme?_all_eq_none h) position

theorem scan_lexeme {kind : TokenKind} {lexeme rest : List Char}
    (h : kind.lexeme? (lexeme ++ rest) = some lexeme) (hblank : kind ≠ .blank)
    (hfinish : kind ≠ .closing .finish) (position : Nat) :
    scan TokenKind.all position (lexeme ++ rest) =
      (scan TokenKind.all (position + lexeme.length) rest).cons
        ⟨kind, String.ofList lexeme, position⟩ := by
  rw [scan_of_some (firstLexeme?_all h) hfinish hblank, List.drop_left]

theorem scan_blank {c : Char} (hc : isBlank c = true) (cs : List Char) (position : Nat) :
    scan TokenKind.all position (c :: cs) = scan TokenKind.all (position + 1) cs := by
  have hfirst : TokenKind.blank.lexeme? (c :: cs) = some (c :: cs.takeWhile isBlank) := by
    rw [TokenKind.lexeme?, List.takeWhile_cons_of_pos hc]
    rfl
  rw [scan_of_blank (firstLexeme?_all hfirst), List.length_cons, List.drop_succ_cons]
  cases htake : cs.takeWhile isBlank with
  | nil => rfl
  | cons d ds =>
    have hrest : TokenKind.blank.lexeme? cs = some (d :: ds) := by
      rw [TokenKind.lexeme?, htake]
      rfl
    rw [scan_of_blank (firstLexeme?_all hrest)]
    congr 1
    omega

end TokenStream

theorem blank_lexeme?_eq_none {c : Char} (hc : isBlank c = false) (cs : List Char) :
    TokenKind.blank.lexeme? (c :: cs) = none := by
  rw [TokenKind.lexeme?, List.takeWhile_cons_of_neg (by simp [hc])]
  rfl

@[elab_as_elim]
theorem scan_induction {motive : List Char → Prop} (nil : motive [])
    (blank : ∀ c cs, isBlank c = true → motive cs → motive (c :: cs))
    (lexeme : ∀ kind c cs rest, TokenKind.lexeme? kind (c :: cs ++ rest) = some (c :: cs) →
      isBlank c = false → kind ≠ .blank → kind ≠ .closing .finish → motive rest →
      motive (c :: cs ++ rest))
    (invalid : ∀ c cs, (∀ kind : TokenKind, kind.lexeme? (c :: cs) = none) → motive (c :: cs))
    (cs : List Char) : motive cs := by
  match cs with
  | [] => exact nil
  | c :: rest =>
    by_cases hc : isBlank c = true
    · exact blank c rest hc (scan_induction nil blank lexeme invalid rest)
    rw [Bool.not_eq_true] at hc
    by_cases hsome : ∃ kind lexeme, TokenKind.lexeme? kind (c :: rest) = some lexeme
    · obtain ⟨kind, found, hfound⟩ := hsome
      have hblank : kind ≠ .blank := by
        intro heq
        subst heq
        rw [blank_lexeme?_eq_none hc] at hfound
        cases hfound
      have hfinish : kind ≠ .closing .finish := by
        intro heq
        subst heq
        cases hfound
      have hne := lexeme?_ne_nil hfound hfinish
      obtain ⟨behind, hbehind⟩ := isPrefix_of_lexeme? hfound
      rcases found with - | ⟨d, ds⟩
      · exact absurd rfl hne
      obtain ⟨rfl, rfl⟩ := List.cons.inj hbehind
      exact lexeme kind d ds behind hfound hc hblank hfinish
        (scan_induction nil blank lexeme invalid behind)
    · refine invalid c rest fun kind => ?_
      by_contra hne
      obtain ⟨found, hfound⟩ := Option.ne_none_iff_exists'.mp hne
      exact hsome ⟨kind, found, hfound⟩
termination_by cs.length

theorem kind_ne_blank (cs : List Char) (position : Nat) :
    ∀ token ∈ (TokenStream.scan TokenKind.all position cs).tokens, token.kind ≠ .blank := by
  induction cs using scan_induction generalizing position with
  | nil =>
    rw [TokenStream.scan_nil]
    intro token htoken
    obtain rfl := List.mem_singleton.mp htoken
    exact nofun
  | blank c cs hc ih =>
    rw [TokenStream.scan_blank hc]
    exact ih (position + 1)
  | lexeme kind c cs rest hlexeme _ hblank hfinish ih =>
    rw [TokenStream.scan_lexeme hlexeme hblank hfinish]
    intro token htoken
    rcases List.mem_cons.mp htoken with rfl | htoken
    · exact hblank
    · exact ih _ token htoken
  | invalid c cs hnone =>
    rw [TokenStream.scan_invalid hnone]
    exact fun _ htoken => absurd htoken List.not_mem_nil

/-! ## Segments -/

/-- The characters, which stand behind `position` others and in front of `rest`, are
cut into these tokens and blanks. -/
inductive Cuts (rest : List Char) : Nat → List Char → List Token → Prop
  | nil {position : Nat} : Cuts rest position [] []
  | blank {position : Nat} {c : Char} {cs : List Char} {tokens : List Token} :
    isBlank c = true → Cuts rest (position + 1) cs tokens → Cuts rest position (c :: cs) tokens
  | lexeme {position : Nat} {kind : TokenKind} {lexeme cs : List Char} {tokens : List Token} :
    kind.lexeme? (lexeme ++ (cs ++ rest)) = some lexeme → kind ≠ .blank →
      kind ≠ .closing .finish → Cuts rest (position + lexeme.length) cs tokens →
      Cuts rest position (lexeme ++ cs) (⟨kind, String.ofList lexeme, position⟩ :: tokens)

open TokenStream

theorem scan_of_cuts {rest cs : List Char} {position : Nat} {tokens : List Token}
    (h : Cuts rest position cs tokens) :
    scan TokenKind.all position (cs ++ rest) =
      (scan TokenKind.all (position + cs.length) rest).prepend tokens := by
  induction h with
  | nil => rfl
  | @blank position c cs tokens hc _ ih =>
    rw [List.cons_append, scan_blank hc, ih, List.length_cons]
    congr 2
    omega
  | @lexeme position kind lexeme cs tokens hlexeme hblank hfinish _ ih =>
    rw [List.append_assoc, scan_lexeme hlexeme hblank hfinish, ih, List.length_append,
      Nat.add_assoc]
    rfl

/-- A scan cuts its text up to the end or up to a character of no token. -/
theorem exists_cuts_scan (position : Nat) (cs : List Char) :
    (∃ w, Cuts [] position cs w ∧ scan TokenKind.all position cs =
        ⟨w ++ [⟨.closing .finish, "", position + cs.length⟩], .exhausted⟩) ∨
      ∃ w segment c rest, cs = segment ++ c :: rest ∧ Cuts (c :: rest) position segment w ∧
        (∀ kind : TokenKind, kind.lexeme? (c :: rest) = none) ∧
        scan TokenKind.all position cs = ⟨w, .invalid c (position + segment.length)⟩ := by
  induction cs using scan_induction generalizing position with
  | nil => exact .inl ⟨[], .nil, scan_nil position⟩
  | blank c cs hc ih =>
    rw [scan_blank hc, List.length_cons, Nat.add_comm cs.length, ← Nat.add_assoc]
    rcases ih (position + 1) with ⟨w, hcuts, hscan⟩ | ⟨w, segment, d, rest, rfl, hcuts, hnone, hscan⟩
    · exact .inl ⟨w, .blank hc hcuts, hscan⟩
    · refine .inr ⟨w, c :: segment, d, rest, rfl, .blank hc hcuts, hnone, ?_⟩
      rw [hscan, List.length_cons, Nat.add_comm segment.length, ← Nat.add_assoc]
  | lexeme kind c cs rest hlexeme _ hblank hfinish ih =>
    rw [scan_lexeme hlexeme hblank hfinish, List.length_append, ← Nat.add_assoc]
    rcases ih (position + (c :: cs).length) with
      ⟨w, hcuts, hscan⟩ | ⟨w, segment, d, behind, rfl, hcuts, hnone, hscan⟩
    · exact .inl ⟨_ :: w, .lexeme (by rwa [List.append_nil]) hblank hfinish hcuts, by rw [hscan]; rfl⟩
    · refine .inr ⟨_ :: w, c :: cs ++ segment, d, behind, by simp,
        .lexeme hlexeme hblank hfinish hcuts, hnone, ?_⟩
      rw [hscan, List.length_append, ← Nat.add_assoc]
      rfl
  | invalid c cs hnone =>
    exact .inr ⟨[], [], c, cs, rfl, .nil, hnone, scan_invalid hnone position⟩

theorem Cuts.append {rest cs ds : List Char} {position : Nat} {tokens more : List Token}
    (h : Cuts (ds ++ rest) position cs tokens) (hmore : Cuts rest (position + cs.length) ds more) :
    Cuts rest position (cs ++ ds) (tokens ++ more) := by
  induction h with
  | nil => simpa using hmore
  | @blank position c cs tokens hc _ ih =>
    refine .blank hc (ih ?_)
    rwa [List.length_cons, Nat.add_comm cs.length, ← Nat.add_assoc] at hmore
  | @lexeme position kind lexeme cs tokens hlexeme hblank hfinish _ ih =>
    rw [List.append_assoc]
    refine .lexeme (by rwa [List.append_assoc]) hblank hfinish (ih ?_)
    rwa [List.length_append, ← Nat.add_assoc] at hmore

/-- What a segment is made of decides whether a name in front of it goes on, so the
text behind the segment may change. -/
theorem Cuts.continuation_congr {rest behind cs name : List Char} {position : Nat}
    {tokens : List Token} (h : Cuts rest position cs tokens) (hne : cs ≠ [])
    (hname : Name.continuation name (cs ++ rest) = []) :
    Name.continuation name (cs ++ behind) = [] := by
  cases h with
  | nil => exact absurd rfl hne
  | @blank _ c cs _ hc _ =>
    have hcolon : c ≠ ':' := by
      intro heq
      subst heq
      exact absurd hc (by decide)
    exact Name.continuation_congr hname (fun h => absurd h hcolon) (cs ++ behind)
  | @lexeme _ kind lexeme cs _ hlexeme hblank hfinish _ =>
    rcases lexeme with - | ⟨c, lexeme⟩
    · exact absurd rfl (lexeme?_ne_nil hlexeme hfinish)
    rw [List.append_assoc] at hname
    refine Name.continuation_congr hname ?_ _
    -- A token that begins with a colon is a name.
    intro heq
    subst heq
    have hkind : kind = .name := (TokenKind.ofFront_of_lexeme? hlexeme).symm
    subst hkind
    obtain ⟨hscan, hlexeme⟩ := eq_of_nonempty?_eq_some hlexeme
    rw [← hscan] at hlexeme
    exact hlexeme

/-- A segment keeps its tokens when the text behind it changes, unless a name at the
end of the segment could go on. -/
theorem Cuts.congr_of_suffix {rest cs : List Char} {position : Nat} {tokens : List Token}
    (h : Cuts rest position cs tokens) (behind : List Char)
    (hbehind : ∀ name, name <:+ cs → IsName name →
      Name.continuation name rest = [] → Name.continuation name behind = []) :
    Cuts behind position cs tokens := by
  induction h with
  | nil => exact .nil
  | @blank _ c cs _ hc _ ih =>
    exact .blank hc (ih fun name hname => hbehind name (hname.trans (List.suffix_cons c cs)))
  | @lexeme position kind lexeme cs tokens hlexeme hblank hfinish hcuts ih =>
    refine .lexeme ?_ hblank hfinish
      (ih fun name hname => hbehind name (hname.trans (List.suffix_append lexeme cs)))
    by_cases hkind : kind = .name
    · subst hkind
      obtain ⟨hne, hscan, hname⟩ := name_lexeme?_iff.mp hlexeme
      refine name_lexeme?_iff.mpr ⟨hne, hscan, ?_⟩
      by_cases hcs : cs = []
      · subst hcs
        have hlast : IsName lexeme := hscan ▸ Name.isName_scan (by rwa [hscan])
        exact hbehind lexeme (by simp) hlast hname
      · exact hcuts.continuation_congr hcs hname
    · exact lexeme?_append hlexeme hkind hblank hfinish _

theorem Cuts.congr {rest cs : List Char} {position : Nat} {tokens : List Token}
    (h : Cuts rest position cs tokens) (behind : List Char)
    (hbehind : ∀ name, Name.continuation name rest = [] → Name.continuation name behind = []) :
    Cuts behind position cs tokens :=
  h.congr_of_suffix behind fun name _ _ => hbehind name

/-! ## Splitting a stream

The tokens in front of the split must not hold the token of the end, behind which
there is no text. -/

/-- A stream may be split in front of any of its tokens, with the blanks there in
the first segment. -/
theorem exists_cuts {cs : List Char} {position : Nat} {tokens more : List Token}
    {ending : StreamEnd} (h : scan TokenKind.all position cs = ⟨tokens ++ more, ending⟩)
    (hfinish : ∀ token ∈ tokens, token.kind ≠ .closing .finish) :
    ∃ segment rest, cs = segment ++ rest ∧ Cuts rest position segment tokens ∧
      scan TokenKind.all (position + segment.length) rest = ⟨more, ending⟩ ∧
      ∀ c ∈ rest.head?, isBlank c = false := by
  induction cs using scan_induction generalizing position tokens with
  | nil =>
    rw [scan_nil] at h
    rcases tokens with - | ⟨token, tokens⟩
    · exact ⟨[], [], rfl, .nil, by simpa [scan_nil] using h, by simp⟩
    · obtain ⟨rfl, -⟩ := List.cons.inj (congrArg TokenStream.tokens h)
      exact absurd rfl (hfinish _ List.mem_cons_self)
  | blank c cs hc ih =>
    rw [scan_blank hc] at h
    obtain ⟨segment, rest, rfl, hcuts, hrest, hhead⟩ := ih h hfinish
    refine ⟨c :: segment, rest, rfl, .blank hc hcuts, ?_, hhead⟩
    rw [List.length_cons, Nat.add_comm segment.length, ← Nat.add_assoc, hrest]
  | lexeme kind c cs rest hlexeme hc hblank hend ih =>
    rcases tokens with - | ⟨token, tokens⟩
    · exact ⟨[], c :: cs ++ rest, rfl, .nil, h, by simpa using hc⟩
    · rw [scan_lexeme hlexeme hblank hend] at h
      obtain ⟨rfl, hrest⟩ := cons_eq_mk_iff.mp h
      obtain ⟨segment, behind, rfl, hcuts, hbehind, hhead⟩ :=
        ih hrest fun token htoken => hfinish token (List.mem_cons_of_mem _ htoken)
      refine ⟨c :: cs ++ segment, behind, by simp, .lexeme hlexeme hblank hend hcuts, ?_, hhead⟩
      rw [List.length_append, ← Nat.add_assoc, hbehind]
  | invalid c cs hnone =>
    rw [scan_invalid hnone] at h
    rcases tokens with - | ⟨token, tokens⟩
    · refine ⟨[], c :: cs, rfl, .nil, (scan_invalid hnone position).trans h, ?_⟩
      intro d hd
      obtain rfl : c = d := by simpa using hd
      by_contra hblank
      rw [Bool.not_eq_false] at hblank
      have hlexeme := hnone .blank
      rw [TokenKind.lexeme?, List.takeWhile_cons_of_pos hblank] at hlexeme
      cases hlexeme
    · cases congrArg TokenStream.tokens h

theorem exists_cuts_of_token {cs : List Char} {position : Nat} {tokens more : List Token}
    {token : Token} {ending : StreamEnd}
    (h : scan TokenKind.all position cs = ⟨tokens ++ token :: more, ending⟩)
    (hfinish : ∀ token ∈ tokens, token.kind ≠ .closing .finish)
    (htoken : token.kind ≠ .closing .finish) :
    ∃ segment lexeme rest, cs = segment ++ (lexeme ++ rest) ∧
      Cuts (lexeme ++ rest) position segment tokens ∧ token.kind ≠ .blank ∧
      token.kind.lexeme? (lexeme ++ rest) = some lexeme ∧
      token = ⟨token.kind, String.ofList lexeme, position + segment.length⟩ := by
  obtain ⟨segment, rest, rfl, hcuts, hrest, hhead⟩ := exists_cuts h hfinish
  induction rest using scan_induction with
  | nil =>
    rw [scan_nil] at hrest
    obtain ⟨rfl, -⟩ := List.cons.inj (congrArg TokenStream.tokens hrest)
    exact absurd rfl htoken
  | blank c cs hc _ =>
    rw [hhead c rfl] at hc
    cases hc
  | lexeme kind c cs rest hlexeme _ hblank hend _ =>
    rw [scan_lexeme hlexeme hblank hend] at hrest
    obtain ⟨rfl, -⟩ := cons_eq_mk_iff.mp hrest
    exact ⟨segment, c :: cs, rest, rfl, hcuts, hblank, hlexeme, rfl⟩
  | invalid c cs hnone =>
    rw [scan_invalid hnone] at hrest
    cases congrArg TokenStream.tokens hrest

/-- The last token stands at the end of the text, and nothing follows it. -/
theorem cuts_of_finish {cs : List Char} {position : Nat} {tokens more : List Token}
    {token : Token} {ending : StreamEnd}
    (h : scan TokenKind.all position cs = ⟨tokens ++ token :: more, ending⟩)
    (hfinish : ∀ token ∈ tokens, token.kind ≠ .closing .finish)
    (htoken : token.kind = .closing .finish) :
    Cuts [] position cs tokens ∧ token = ⟨.closing .finish, "", position + cs.length⟩ ∧
      more = [] ∧ ending = .exhausted := by
  obtain ⟨segment, rest, rfl, hcuts, hrest, hhead⟩ := exists_cuts h hfinish
  induction rest using scan_induction with
  | nil =>
    rw [scan_nil] at hrest
    obtain ⟨rfl, rfl⟩ := List.cons.inj (congrArg TokenStream.tokens hrest)
    rw [List.append_nil]
    exact ⟨hcuts, rfl, rfl, (congrArg TokenStream.ending hrest).symm⟩
  | blank c cs hc _ =>
    rw [hhead c rfl] at hc
    cases hc
  | lexeme kind c cs rest hlexeme _ hblank hend _ =>
    rw [scan_lexeme hlexeme hblank hend] at hrest
    obtain ⟨rfl, -⟩ := cons_eq_mk_iff.mp hrest
    exact absurd htoken hend
  | invalid c cs hnone =>
    rw [scan_invalid hnone] at hrest
    cases congrArg TokenStream.tokens hrest

theorem exists_cuts_of_invalid {cs : List Char} {position : Nat} {tokens : List Token}
    {ending : StreamEnd} (h : scan TokenKind.all position cs = ⟨tokens, ending⟩)
    (hfinish : ∀ token ∈ tokens, token.kind ≠ .closing .finish) :
    ∃ segment c rest, cs = segment ++ c :: rest ∧ Cuts (c :: rest) position segment tokens ∧
      (∀ kind : TokenKind, kind.lexeme? (c :: rest) = none) ∧
      ending = .invalid c (position + segment.length) := by
  rw [← List.append_nil tokens] at h
  obtain ⟨segment, rest, rfl, hcuts, hrest, hhead⟩ := exists_cuts h hfinish
  induction rest using scan_induction with
  | nil =>
    rw [scan_nil] at hrest
    cases congrArg TokenStream.tokens hrest
  | blank c cs hc _ =>
    rw [hhead c rfl] at hc
    cases hc
  | lexeme kind c cs rest hlexeme _ hblank hend _ =>
    rw [scan_lexeme hlexeme hblank hend] at hrest
    cases congrArg TokenStream.tokens hrest
  | invalid c cs hnone =>
    rw [scan_invalid hnone] at hrest
    exact ⟨segment, c, cs, rfl, hcuts, hnone, (congrArg TokenStream.ending hrest).symm⟩

end Annotation
end TypeStub
