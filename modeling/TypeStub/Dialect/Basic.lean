import TypeStub.Template.Basic

/-!
# Dialects

A dialect is the syntax that types are written in: names that it calls otherwise,
the type of nil, and templates for nilable types, unions and collections.

Dialects are made in layers.  A layer gives some settings and takes the others
from the dialect below it, and every layer has to leave a usable dialect behind:
one that has a nil type and whose wrappers have a place for what they wrap.
-/

namespace TypeStub

structure Dialect where
  /-- Names that are written otherwise.  All others are written as they are. -/
  spellings : List (String × String)
  /-- The written form that marks a type as nilable. -/
  nilType : String
  nilableTemplate : String
  unionTemplate : String
  /-- Filled with a `name` and its `types`. -/
  collectionTemplate : String
  deriving DecidableEq, Repr

namespace Dialect

/-- The dialect that all others are layered upon. -/
def standard : Dialect where
  spellings :=
    [("Array", "T::Array"), ("Hash", "T::Hash"), ("Boolean", "T::Boolean"), ("nil", "NilClass")]
  nilType := "NilClass"
  nilableTemplate := "T.nilable(\x7b\x7d)"
  unionTemplate := "T.any(\x7b\x7d)"
  collectionTemplate := "\x7bname\x7d[\x7btypes\x7d]"

/-- Some settings of a dialect.  A setting that is given replaces the one below as a
whole. -/
structure Layer where
  spellings : Option (List (String × String))
  nilType : Option String
  nilableTemplate : Option String
  unionTemplate : Option String
  collectionTemplate : Option String

/-- The settings of a layer, with those it does not give taken from below. -/
def Layer.over (layer : Layer) (below : Dialect) : Dialect where
  spellings := layer.spellings.getD below.spellings
  nilType := layer.nilType.getD below.nilType
  nilableTemplate := layer.nilableTemplate.getD below.nilableTemplate
  unionTemplate := layer.unionTemplate.getD below.unionTemplate
  collectionTemplate := layer.collectionTemplate.getD below.collectionTemplate

inductive Fault
  | emptyNilType
  | nilableWithoutPlaceholder
  | unionWithoutPlaceholder
  deriving DecidableEq, Repr

/-- The wording of a fault, with the name of the dialect that has it. -/
def Fault.message (owner : String) : Fault → String
  | .emptyNilType => "Class '" ++ owner ++ "' must define a non-empty NIL_TYPE"
  | .nilableWithoutPlaceholder => withoutPlaceholder "NILABLE_TEMPLATE"
  | .unionWithoutPlaceholder => withoutPlaceholder "UNION_TEMPLATE"
where
  withoutPlaceholder (setting : String) : String :=
    "Class '" ++ owner ++ "' defines " ++ setting ++ " without a '\x7b\x7d' placeholder"

def fault? (dialect : Dialect) : Option Fault :=
  if dialect.nilType = "" then some .emptyNilType
  else if !Template.hasPlaceholder dialect.nilableTemplate.toList then
    some .nilableWithoutPlaceholder
  else if !Template.hasPlaceholder dialect.unionTemplate.toList then
    some .unionWithoutPlaceholder
  else none

/-- A dialect that a layer may leave behind. -/
def Usable (dialect : Dialect) : Prop :=
  dialect.nilType ≠ "" ∧ ['{', '}'] <:+: dialect.nilableTemplate.toList ∧
    ['{', '}'] <:+: dialect.unionTemplate.toList

theorem fault?_eq_none_iff (dialect : Dialect) : dialect.fault? = none ↔ dialect.Usable := by
  simp only [fault?, Usable, ← Template.hasPlaceholder_eq_true_iff]
  split
  · simp [*]
  · split
    · simp_all
    · split <;> simp_all

/-- A dialect with one more layer, unless that makes it unusable. -/
def extend (below : Dialect) (layer : Layer) : Except Fault Dialect :=
  match (layer.over below).fault? with
  | some fault => .error fault
  | none => .ok (layer.over below)

/-- The standard dialect under the given layers, the lowest first.  A layer that
makes it unusable is a fault even if a later one would repair it. -/
def ofLayers (layers : List Layer) : Except Fault Dialect := layers.foldlM extend standard

def spell (dialect : Dialect) (name : String) : String :=
  (dialect.spellings.lookup name).getD name

end Dialect

end TypeStub
