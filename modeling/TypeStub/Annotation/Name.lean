import TypeStub.Text.Blank
import TypeStub.Text.Word

/-!
# Names

A name is either `#` and a run of word characters, as in `#each`, or a path of
such runs joined by `::`, which may also stand in front, as in `::Foo::Bar`.
`IsName` is the language of names, and `Name.scan` takes the name at the front of
a text in one pass, without going back.
-/

namespace TypeStub
namespace Annotation

open TypeStub.Text

/-- A run of one or more word characters. -/
def IsRun (cs : List Char) : Prop := cs ≠ [] ∧ ∀ c ∈ cs, isWord c = true

/-- Runs joined by `::`, with or without a leading `::`. -/
inductive IsPath : List Char → Prop
  | run {word : List Char} : IsRun word → IsPath word
  | rooted {word : List Char} : IsRun word → IsPath (':' :: ':' :: word)
  | member {path word : List Char} :
    IsPath path → IsRun word → IsPath (path ++ ':' :: ':' :: word)

inductive IsName : List Char → Prop
  | path {cs : List Char} : IsPath cs → IsName cs
  | hash {word : List Char} : IsRun word → IsName ('#' :: word)

namespace Name

/-- The path at the front of a text, empty if there is none.  A `::` belongs to
the path only if a word character follows it. -/
def scanPath : List Char → List Char
  | ':' :: ':' :: c :: rest => if isWord c then ':' :: ':' :: c :: scanPath rest else []
  | c :: rest => if isWord c then c :: scanPath rest else []
  | [] => []

/-- The name at the front of a text, empty if there is none. -/
def scan : List Char → List Char
  | '#' :: rest =>
    match rest.takeWhile isWord with
    | [] => []
    | c :: cs => '#' :: c :: cs
  | cs => scanPath cs

theorem scanPath_prefix (cs : List Char) : scanPath cs <+: cs := by
  fun_induction scanPath cs with
  | case1 c rest _ ih => simpa using ih
  | case2 => exact List.nil_prefix
  | case3 c rest _ _ ih => simpa using ih
  | case4 => exact List.nil_prefix
  | case5 => exact List.nil_prefix

/-- What is scanned stands at the front of the text. -/
theorem scan_prefix (cs : List Char) : scan cs <+: cs := by
  fun_cases scan cs with
  | case1 => exact List.nil_prefix
  | case2 rest c word h =>
    simpa [← h] using List.takeWhile_prefix (l := rest) isWord
  | case3 => exact scanPath_prefix cs

end Name

end Annotation
end TypeStub
