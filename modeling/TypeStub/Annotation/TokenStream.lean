import TypeStub.Annotation.Name
import TypeStub.Annotation.Token

/-!
# Token streams

A text is cut into tokens from left to right.  At each place the kinds of a table
are tried in order, and the first one with a lexeme there decides.  Blanks are cut
like any other token and then dropped.  A stream ends after its `finish` token or
at the first character that starts no token.

The table is an argument, so that the order of the kinds can be varied; `tokenize`
uses `TokenKind.all`.
-/

namespace TypeStub
namespace Annotation

open TypeStub.Text

def nonempty? : List Char → Option (List Char)
  | [] => none
  | c :: cs => some (c :: cs)

/-- The lexeme of a kind at the front of a text.  The end of the text is the one
lexeme that is empty. -/
def TokenKind.lexeme? : TokenKind → List Char → Option (List Char)
  | .opening .angle, '<' :: _ => some ['<']
  | .closing .angle, '>' :: _ => some ['>']
  | .opening .paren, '(' :: _ => some ['(']
  | .closing .paren, ')' :: _ => some [')']
  | .opening .brace, '{' :: _ => some ['{']
  | .closing .brace, '}' :: _ => some ['}']
  | .closing .arrow, '=' :: '>' :: _ => some ['=', '>']
  | .closing .finish, [] => some []
  | .separator, c :: _ => if c = ',' || c = ';' then some [c] else none
  | .name, cs => nonempty? (Name.scan cs)
  | .blank, cs => nonempty? (cs.takeWhile isBlank)
  | _, _ => none

theorem eq_of_nonempty?_eq_some {cs lexeme : List Char} (h : nonempty? cs = some lexeme) :
    cs = lexeme ∧ lexeme ≠ [] := by
  cases cs with
  | nil => simp [nonempty?] at h
  | cons c cs =>
    simp only [nonempty?, Option.some.injEq] at h
    exact ⟨h, h ▸ List.cons_ne_nil c cs⟩

theorem isPrefix_of_lexeme? {kind : TokenKind} {cs lexeme : List Char}
    (h : kind.lexeme? cs = some lexeme) : lexeme <+: cs := by
  fun_cases TokenKind.lexeme? kind cs
  case case10 => simp [TokenKind.lexeme?, *] at h
  case case11 => exact (eq_of_nonempty?_eq_some h).1 ▸ Name.scan_prefix cs
  case case12 => exact (eq_of_nonempty?_eq_some h).1 ▸ List.takeWhile_prefix isBlank
  case case13 => simp [TokenKind.lexeme?, *] at h
  case case9 c rest hc =>
    rw [TokenKind.lexeme?, if_pos hc] at h
    obtain rfl := Option.some.inj h
    exact List.prefix_append [c] rest
  all_goals
    obtain rfl := Option.some.inj h
    simp

/-- Only the end of the text has an empty lexeme. -/
theorem lexeme?_ne_nil {kind : TokenKind} {cs lexeme : List Char}
    (h : kind.lexeme? cs = some lexeme) (hkind : kind ≠ .closing .finish) : lexeme ≠ [] := by
  fun_cases TokenKind.lexeme? kind cs
  case case8 => exact absurd rfl hkind
  case case10 => simp [TokenKind.lexeme?, *] at h
  case case11 => exact (eq_of_nonempty?_eq_some h).2
  case case12 => exact (eq_of_nonempty?_eq_some h).2
  case case13 => simp [TokenKind.lexeme?, *] at h
  case case9 c rest hc =>
    rw [TokenKind.lexeme?, if_pos hc] at h
    exact Option.some.inj h ▸ List.cons_ne_nil c []
  all_goals
    obtain rfl := Option.some.inj h
    simp

/-- The first kind of the table that has a lexeme at the front of the text. -/
def firstLexeme? (table : List TokenKind) (cs : List Char) : Option (TokenKind × List Char) :=
  table.findSome? fun kind => (kind.lexeme? cs).map (kind, ·)

theorem lexeme?_of_firstLexeme? {table : List TokenKind} {cs lexeme : List Char} {kind : TokenKind}
    (h : firstLexeme? table cs = some (kind, lexeme)) :
    kind ∈ table ∧ kind.lexeme? cs = some lexeme := by
  obtain ⟨found, hmem, hfound⟩ := List.exists_of_findSome?_eq_some h
  simp only [Option.map_eq_some_iff, Prod.mk.injEq] at hfound
  obtain ⟨_, hlexeme, rfl, rfl⟩ := hfound
  exact ⟨hmem, hlexeme⟩

/-- A lexeme other than the end of the text leaves less text to scan. -/
theorem length_sub_lt_of_firstLexeme? {table : List TokenKind} {cs lexeme : List Char}
    {kind : TokenKind} (h : firstLexeme? table cs = some (kind, lexeme))
    (hkind : kind ≠ .closing .finish) : cs.length - lexeme.length < cs.length := by
  obtain ⟨_, hlexeme⟩ := lexeme?_of_firstLexeme? h
  have hpos := List.length_pos_iff.mpr (lexeme?_ne_nil hlexeme hkind)
  have hle := (isPrefix_of_lexeme? hlexeme).length_le
  omega

inductive StreamEnd
  | exhausted
  /-- A character that starts no token, after which nothing follows. -/
  | invalid (c : Char) (position : Nat)
  deriving DecidableEq, Repr

/-- The tokens of a text up to its end or to a character that starts none. -/
structure TokenStream where
  tokens : List Token
  ending : StreamEnd
  deriving DecidableEq, Repr

namespace TokenStream

def cons (token : Token) (stream : TokenStream) : TokenStream :=
  { stream with tokens := token :: stream.tokens }

/-- The tokens of `cs`, which stands behind `position` characters, by the kinds of
the table. -/
def scan (table : List TokenKind) (position : Nat) (cs : List Char) : TokenStream :=
  match h : firstLexeme? table cs with
  | none =>
    match cs with
    | [] => ⟨[], .exhausted⟩
    | c :: _ => ⟨[], .invalid c position⟩
  | some (kind, lexeme) =>
    if hkind : kind = .closing .finish then ⟨[⟨kind, "", position⟩], .exhausted⟩
    else
      have := length_sub_lt_of_firstLexeme? h hkind
      let rest := scan table (position + lexeme.length) (cs.drop lexeme.length)
      if kind = .blank then rest else rest.cons ⟨kind, String.ofList lexeme, position⟩
termination_by cs.length

/-! The four things a scan can meet. -/

theorem scan_of_none {table : List TokenKind} {c : Char} {cs : List Char}
    (h : firstLexeme? table (c :: cs) = none) (position : Nat) :
    scan table position (c :: cs) = ⟨[], .invalid c position⟩ := by
  unfold scan
  split
  · rfl
  · rename_i hsome
    rw [h] at hsome
    cases hsome

theorem scan_of_finish {table : List TokenKind} {cs lexeme : List Char}
    (h : firstLexeme? table cs = some (.closing .finish, lexeme)) (position : Nat) :
    scan table position cs = ⟨[⟨.closing .finish, "", position⟩], .exhausted⟩ := by
  unfold scan
  split
  · rename_i hnone
    rw [h] at hnone
    cases hnone
  · rename_i hsome
    rw [h] at hsome
    cases hsome
    rw [dif_pos rfl]

theorem scan_of_blank {table : List TokenKind} {cs lexeme : List Char}
    (h : firstLexeme? table cs = some (.blank, lexeme)) (position : Nat) :
    scan table position cs = scan table (position + lexeme.length) (cs.drop lexeme.length) := by
  rw [scan]
  split
  · rename_i hnone
    rw [h] at hnone
    cases hnone
  · rename_i hsome
    rw [h] at hsome
    cases hsome
    rw [dif_neg nofun, if_pos rfl]

theorem scan_of_some {table : List TokenKind} {cs lexeme : List Char} {kind : TokenKind}
    (h : firstLexeme? table cs = some (kind, lexeme)) (hfinish : kind ≠ .closing .finish)
    (hblank : kind ≠ .blank) (position : Nat) :
    scan table position cs =
      (scan table (position + lexeme.length) (cs.drop lexeme.length)).cons
        ⟨kind, String.ofList lexeme, position⟩ := by
  rw [scan]
  split
  · rename_i hnone
    rw [h] at hnone
    cases hnone
  · rename_i hsome
    rw [h] at hsome
    cases hsome
    rw [dif_neg hfinish, if_neg hblank]

end TokenStream

def tokenize (text : String) : TokenStream := TokenStream.scan TokenKind.all 0 text.toList

end Annotation
end TypeStub
