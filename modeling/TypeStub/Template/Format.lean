import TypeStub.Template.Fault
import TypeStub.Text.Digit

/-!
# Formats

A field of a template may say how its value is laid out: cut to a precision, then
padded to a width at one side or at both.  A format is written
`[[fill]align][sign][z][#][width][grouping][.precision][code]`, and every part may
be missing.

This is how all values write their formats, and some parts of it are for numbers only.
What stands in the way of a text is told in a fixed order: first what no format can
have, then a code that is not one of texts, then the parts that are for numbers.

A text is padded to any width.  Whether there is room for so much of it is not asked.
-/

namespace TypeStub
namespace Template

open TypeStub.Text

/-- The side of its field that a value keeps to. -/
inductive Align
  | left
  | right
  | center
  /-- The padding stands behind the sign of a number. -/
  | behindSign
  deriving DecidableEq, Repr

def Align.ofChar? : Char → Option Align
  | '<' => some .left
  | '>' => some .right
  | '^' => some .center
  | '=' => some .behindSign
  | _ => none

structure Format where
  fill : Char
  align : Align
  sign : Option Char
  coercesZero : Bool
  alternate : Bool
  width : Nat
  /-- What stands between groups of digits. -/
  grouping : Option Char
  precision : Option Nat
  code : Char
  deriving DecidableEq, Repr

namespace Format

/-- The largest number a template may name, one less than the 63rd power of two. -/
def maxNumber : Nat := 0x7FFFFFFFFFFFFFFF

/-- The number at the front of a text, if there is one, and what follows it. -/
def takeNumber (cs : List Char) : Except Fault (Option Nat × List Char) :=
  match takeDigits cs with
  | ([], rest) => .ok (none, rest)
  | (digits, rest) =>
    if ofDigits digits ≤ maxNumber then .ok (some (ofDigits digits), rest)
    else .error .numberTooLarge

/-- The alignment at the front of a format, with the fill if one stands before
it. -/
def takeAlign : List Char → Option Char × Option Align × List Char
  | [] => (none, none, [])
  | [c] =>
    match Align.ofChar? c with
    | some align => (none, some align, [])
    | none => (none, none, [c])
  | c :: d :: rest =>
    match Align.ofChar? d with
    | some align => (some c, some align, rest)
    | none =>
      match Align.ofChar? c with
      | some align => (none, some align, d :: rest)
      | none => (none, none, c :: d :: rest)

/-- A character of a class at the front of a text, if one stands there, and what
follows it. -/
def takeOne (admits : Char → Bool) : List Char → Option Char × List Char
  | [] => (none, [])
  | c :: rest => if admits c then (some c, rest) else (none, c :: rest)

def isSign (c : Char) : Bool := c = ' ' || c = '+' || c = '-'

/-- The fill of a format.  Without one of its own, a width with a leading zero
fills with zeros, and any other with spaces. -/
def fillOf : Option Char → List Char → Char
  | some fill, _ => fill
  | none, '0' :: _ => '0'
  | none, _ => ' '

/-- The grouping at the front of a format, and what follows it.  There cannot be
one behind another. -/
def takeGrouping (cs : List Char) : Except Fault (Option Char × List Char) :=
  let (comma, behindComma) := takeOne (· = ',') cs
  let (underscore, rest) := takeOne (· = '_') behindComma
  if underscore.isSome && (comma.isSome || rest.head? = some ',') then .error .bothGroupings
  else .ok (comma.or underscore, rest)

/-- The precision at the front of a format, and what follows it. -/
def takePrecision : List Char → Except Fault (Option Nat × List Char)
  | '.' :: rest =>
    match takeNumber rest with
    | .ok (none, _) => .error .missingPrecision
    | result => result
  | rest => .ok (none, rest)

/-- The code at the end of a format.  The format itself is for the message. -/
def takeCode (format : List Char) : List Char → Except Fault Char
  | [] => .ok 's'
  | [code] => .ok code
  | _ => .error (.malformedFormat (String.ofList format))

/-- Whether numbers with this code have groups of digits. -/
def admitsGrouping (grouping code : Char) : Bool :=
  "defgEG%F\x00".toList.contains code || grouping = '_' && "boxX".toList.contains code

/-- Checks that the digits of a number with the code of the format can be grouped. -/
def checkGrouping (format : Format) : Except Fault Unit :=
  match format.grouping with
  | none => .ok ()
  | some grouping =>
    if admitsGrouping grouping format.code then .ok ()
    else .error (.groupingWithCode grouping format.code)

def read (cs : List Char) : Except Fault Format := do
  let (fill, align, rest) := takeAlign cs
  let (sign, rest) := takeOne isSign rest
  let (coercion, rest) := takeOne (· = 'z') rest
  let (alternate, rest) := takeOne (· = '#') rest
  let (width, afterWidth) ← takeNumber rest
  let (grouping, afterGrouping) ← takeGrouping afterWidth
  let (precision, afterPrecision) ← takePrecision afterGrouping
  let code ← takeCode cs afterPrecision
  let format :=
    { fill := fillOf fill rest, align := align.getD .left, sign, coercesZero := coercion.isSome,
      alternate := alternate.isSome, width := width.getD 0, grouping, precision, code }
  checkGrouping format
  return format

/-- Checks that a format has nothing that is for numbers. -/
def checkText (format : Format) : Except Fault Unit :=
  if format.code ≠ 's' then .error (.unknownCode format.code)
  else if format.sign = some ' ' then .error .signedBySpace
  else if format.sign.isSome then .error .signed
  else if format.coercesZero then .error .zeroCoerced
  else if format.alternate then .error .alternateForm
  else if format.align = .behindSign then .error .paddedBehindSign
  else .ok ()

/-- The format of a text. -/
def ofList? (cs : List Char) : Except Fault Format := do
  let format ← read cs
  checkText format
  return format

def cut (precision : Option Nat) (value : List Char) : List Char :=
  match precision with
  | some length => value.take length
  | none => value

/-- Lays a text out.  Padding that cannot be shared equally by the two sides has
one character more at the right. -/
def layOut (format : Format) (value : List Char) : List Char :=
  let shown := cut format.precision value
  let missing := format.width - shown.length
  let before :=
    match format.align with
    | .right => missing
    | .center => missing / 2
    | _ => 0
  List.replicate before format.fill ++ shown ++ List.replicate (missing - before) format.fill

end Format

end Template
end TypeStub
