import TypeStub.Template.Value

/-!
# Templates

A template is a text with fields between braces, which are replaced by arguments.
Doubled braces stand for braces.  A field is written `{key!conversion:format}`, and
every part may be missing.  The key names an argument by position or by name, or takes
the next positional argument if it names none, and goes on with lookups in it.  The
format may have fields of its own, but these may not have any in theirs.  All of this is
here, and only what the members of texts are is left to an account of them (`Members`).

Reading a template and filling it are apart: `pieces` says what a template is made
of, and `fill` puts the arguments in.  A fault in the writing of a template is the
last of its pieces.  So the fault that is met first is the one that is reported,
whether it lies in the writing or in the arguments.
-/

namespace TypeStub
namespace Template

open TypeStub.Text

structure Arguments where
  positional : List String
  named : List (String × String)

inductive Piece
  | char (c : Char)
  /-- A field with its key, the mark of its conversion and its format. -/
  | field (key : List Char) (mark : Option Char) (format : List Char)
  /-- The place from which the template cannot be read. -/
  | broken (fault : Fault)
  deriving DecidableEq, Repr

/-! ## Reading -/

def endsKey (c : Char) : Bool := c = '{' || c = '}' || c = ':' || c = '!'

/-- The key of a field, and what follows it.  Between brackets, every character is part
of the key. -/
def takeKey : (bracketed : Bool) → List Char → List Char × List Char
  | _, [] => ([], [])
  | bracketed, c :: cs =>
    if !bracketed && endsKey c then ([], c :: cs)
    else
      let (key, rest) := takeKey (if bracketed then c != ']' else c == '[') cs
      (c :: key, rest)

/-- The format of a field with so many braces open in it, and what follows the brace that
closes the field. -/
def takeFormat? : (depth : Nat) → List Char → Option (List Char × List Char)
  | _, [] => none
  | depth, c :: cs =>
    if c = '}' && depth = 0 then some ([], cs)
    else
      (takeFormat? (if c = '{' then depth + 1 else if c = '}' then depth - 1 else depth) cs).map
        fun taken => (c :: taken.1, taken.2)

/-- A field from its format on, or the fault in it, and what follows the field. -/
def takeFormatted (key : List Char) (mark : Option Char) (cs : List Char) : Piece × List Char :=
  match takeFormat? 0 cs with
  | some (format, rest) => (.field key mark format, rest)
  | none => (.broken .unclosedFormat, [])

/-- The field that follows an opening brace, or the fault in it, and what follows
the field. -/
def takeField (cs : List Char) : Piece × List Char :=
  let (key, rest) := takeKey false cs
  match rest with
  | '}' :: rest => (.field key none [], rest)
  | ':' :: rest => takeFormatted key none rest
  | ['!'] => (.broken .missingConversion, [])
  | '!' :: mark :: '}' :: rest => (.field key (some mark) [], rest)
  | '!' :: mark :: ':' :: rest => takeFormatted key (some mark) rest
  | ['!', _] => (.broken .unclosedFormat, [])
  | '!' :: _ => (.broken .textBehindConversion, [])
  | _ :: _ => (.broken .braceInKey, [])
  | [] => (.broken .unclosedKey, [])

theorem takeKey_append (bracketed : Bool) (cs : List Char) :
    (takeKey bracketed cs).1 ++ (takeKey bracketed cs).2 = cs := by
  fun_induction takeKey bracketed cs with
  | case1 => rfl
  | case2 => rfl
  | case3 bracketed c cs _ key rest hrest ih =>
    rw [hrest] at ih
    exact congrArg _ ih

theorem append_of_takeFormat? {depth : Nat} {cs format rest : List Char}
    (h : takeFormat? depth cs = some (format, rest)) : cs = format ++ '}' :: rest := by
  fun_induction takeFormat? depth cs generalizing format with
  | case1 => cases h
  | case2 depth c cs hend =>
    obtain ⟨rfl, rfl⟩ := Prod.mk.inj (Option.some.inj h)
    obtain ⟨rfl, -⟩ : c = '}' ∧ depth = 0 := by simpa using hend
    rfl
  | case3 depth c cs _ ih =>
    obtain ⟨taken, htaken, heq⟩ := Option.map_eq_some_iff.mp h
    obtain ⟨rfl, rfl⟩ := Prod.mk.inj heq
    exact congrArg _ (ih htaken)

theorem length_takeFormatted_le (key : List Char) (mark : Option Char) (cs : List Char) :
    (takeFormatted key mark cs).2.length ≤ cs.length := by
  rw [takeFormatted]
  split
  · rename_i format rest h
    show rest.length ≤ cs.length
    rw [append_of_takeFormat? h, List.length_append, List.length_cons]
    omega
  · exact Nat.zero_le _

theorem length_takeField_le (cs : List Char) : (takeField cs).2.length ≤ cs.length := by
  have hkey := congrArg List.length (takeKey_append false cs)
  rw [List.length_append] at hkey
  unfold takeField
  generalize takeKey false cs = taken at hkey ⊢
  obtain ⟨key, rest⟩ := taken
  refine Nat.le_trans ?_ (Nat.le.intro (Nat.add_comm _ _ ▸ hkey))
  dsimp only
  split
  · exact Nat.le_succ _
  · exact Nat.le_succ_of_le (length_takeFormatted_le _ _ _)
  · exact Nat.zero_le _
  · simp only [List.length_cons]
    omega
  · refine Nat.le_trans (length_takeFormatted_le _ _ _) ?_
    simp only [List.length_cons]
    omega
  all_goals exact Nat.zero_le _

def pieces : List Char → List Piece
  | [] => []
  | '{' :: '{' :: rest => .char '{' :: pieces rest
  | '}' :: '}' :: rest => .char '}' :: pieces rest
  | ['{'] => [.broken .singleOpening]
  | '}' :: _ => [.broken .singleClosing]
  | '{' :: c :: rest =>
    have : (takeField (c :: rest)).2.length ≤ rest.length + 1 := length_takeField_le (c :: rest)
    (takeField (c :: rest)).1 :: pieces (takeField (c :: rest)).2
  | c :: rest => .char c :: pieces rest
termination_by cs => cs.length

/-! ## Filling -/

/-- How the fields of a template have named positional arguments so far.  One
template cannot use both ways. -/
inductive Numbering
  | undecided
  | automatic (next : Nat)
  | manual
  deriving DecidableEq, Repr

inductive Reference
  | next
  | index (n : Nat)
  | key (name : String)
  deriving DecidableEq, Repr

/-- A key of digits alone is an index.  A number that is too large is a fault even
if the key goes on. -/
def Reference.ofKey (key : List Char) : Except Fault Reference := do
  match ← Format.takeNumber key with
  | (some n, []) => return .index n
  | _ => return if key.isEmpty then .next else .key (String.ofList key)

namespace Arguments

def atIndex (arguments : Arguments) (n : Nat) : Except Fault String :=
  match arguments.positional[n]? with
  | some value => .ok value
  | none => .error (.outOfRange n)

/-- The argument that a reference means, and the numbering from there on. -/
def resolve (arguments : Arguments) :
    Numbering → Reference → Except Fault (String × Numbering)
  | .manual, .next => .error .manualThenAutomatic
  | .undecided, .next => return (← arguments.atIndex 0, .automatic 1)
  | .automatic n, .next => return (← arguments.atIndex n, .automatic (n + 1))
  | .automatic _, .index _ => .error .automaticThenManual
  | _, .index n => return (← arguments.atIndex n, .manual)
  | numbering, .key name =>
    match arguments.named.lookup name with
    | some value => .ok (value, numbering)
    | none => .error (.unknownKey name)

end Arguments

/-- How a format with braces in it becomes one without fields.  The fields in it go on with
the numbering of the template. -/
abbrev Expansion := Numbering → List Char → Except Fault (List Char × Numbering)

/-- A format without braces needs no expansion. -/
def Expansion.ofFormat (expand : Expansion) : Expansion := fun numbering format =>
  if '{' ∈ format then expand numbering format else .ok (format, numbering)

section

variable [Members]

/-- The text that a field is replaced by, and the numbering behind it. -/
def fillField (expand : Expansion) (arguments : Arguments) (numbering : Numbering)
    (key : List Char) (mark : Option Char) (format : List Char) :
    Except Fault (List Char × Numbering) := do
  let reference ← Reference.ofKey (key.takeWhile (!startsLookup ·))
  let (argument, numbering) ← arguments.resolve numbering reference
  let found ← (Value.text argument).follow (lookups (key.dropWhile (!startsLookup ·)))
  let value ← found.convert mark
  let (format, numbering) ← expand.ofFormat numbering format
  return (← value.layOut format, numbering)

/-- The text of pieces with the arguments put in, and the numbering behind them. -/
def fill (expand : Expansion) (arguments : Arguments) :
    Numbering → List Piece → Except Fault (List Char × Numbering)
  | numbering, [] => .ok ([], numbering)
  | numbering, .char c :: rest => do
    let (text, numbering) ← fill expand arguments numbering rest
    return (c :: text, numbering)
  | numbering, .field key mark format :: rest => do
    let (shown, numbering) ← fillField expand arguments numbering key mark format
    let (text, numbering) ← fill expand arguments numbering rest
    return (shown ++ text, numbering)
  | _, .broken fault :: _ => .error fault

/-- A format with its fields filled, which have formats without fields. -/
def expandFormat (arguments : Arguments) : Expansion := fun numbering format =>
  fill (fun _ _ => .error .nestedTooDeep) arguments numbering (pieces format)

def render (template : String) (arguments : Arguments) : Except Fault String := do
  let (text, _) ← fill (expandFormat arguments) arguments .undecided (pieces template.toList)
  return String.ofList text

end

/-- Whether an empty pair of braces stands somewhere in a text. -/
def hasPlaceholder : List Char → Bool
  | '{' :: '}' :: _ => true
  | _ :: rest => hasPlaceholder rest
  | [] => false

theorem hasPlaceholder_eq_true_iff (cs : List Char) :
    hasPlaceholder cs = true ↔ ['{', '}'] <:+: cs := by
  fun_induction hasPlaceholder cs with
  | case1 rest => exact ⟨fun _ => ⟨[], rest, rfl⟩, fun _ => rfl⟩
  | case2 c rest h ih =>
    rw [ih, List.infix_cons_iff, or_iff_right]
    rintro ⟨behind, hbehind⟩
    obtain ⟨rfl, rfl⟩ := List.cons.inj hbehind
    exact h behind rfl rfl
  | case3 => simp

end Template
end TypeStub
