import TypeStub.Text.Printable

/-!
# Quoted text

The form in which a message shows a text: between quotation marks, on one line,
with every character that would not be seen written as an escape.  Single marks
are used unless the text holds a single mark and no double one, so that a text
with one kind of mark needs no escape for it.
-/

namespace TypeStub
namespace Text

/-- The last `width` digits of `n` in base sixteen, in lower case. -/
def hexDigits : Nat → Nat → List Char
  | 0, _ => []
  | width + 1, n => hexDigits width (n / 16) ++ [Nat.digitChar (n % 16)]

/-- A character written by its code point, in the shortest of the three forms
that holds it. -/
def numericEscape (c : Char) : List Char :=
  let n := c.toNat
  if n < 0x100 then '\\' :: 'x' :: hexDigits 2 n
  else if n < 0x10000 then '\\' :: 'u' :: hexDigits 4 n
  else '\\' :: 'U' :: hexDigits 8 n

def quotationMark (cs : List Char) : Char :=
  if cs.contains '\'' && !cs.contains '"' then '"' else '\''

/-- How a character stands inside a text quoted with `mark`. -/
def quotedChar (mark c : Char) : List Char :=
  if c = mark || c = '\\' then ['\\', c]
  else if c = '\n' then ['\\', 'n']
  else if c = '\r' then ['\\', 'r']
  else if c = '\t' then ['\\', 't']
  else if isPrintable c then [c]
  else numericEscape c

def quote (text : String) : String :=
  let cs := text.toList
  let mark := quotationMark cs
  String.ofList (mark :: cs.flatMap (quotedChar mark) ++ [mark])

/-- The quoted form in ASCII, with an escape for every other character. -/
def quoteAscii (text : String) : String :=
  String.ofList ((quote text).toList.flatMap fun c =>
    if c.toNat < 0x80 then [c] else numericEscape c)

def quoteAll (texts : List String) : String :=
  "[" ++ ", ".intercalate (texts.map quote) ++ "]"

end Text
end TypeStub
