import TypeStub.Stub.Builder
import TypeStub.Text.Singular

/-!
# Slots of a component

A component has slots that are filled by a setter and read by the slot's name; a
method with a question mark tells whether a slot is filled.  The setter of a slot
for many things takes one of them at a time, so the singular names it.
-/

namespace TypeStub
namespace Stub

/-- A slot that a component declares. -/
structure Slot where
  name : String
  /-- Whether the slot is for many things. -/
  collection : Bool
  deriving DecidableEq, Repr

/-- The name of the method that fills a slot. -/
def Slot.setterName (slot : Slot) : String :=
  "with_" ++ if slot.collection then Text.singular slot.name else slot.name

namespace Builder

/-- The parameters of a setter, which passes all that it is given on. -/
def setterParameters (builder : Builder) : List TypedParameter :=
  [⟨"args", .rest, "T.nilable(T::Array[" ++ builder.fallback ++ "])"⟩,
    ⟨"_arg1", .keyrest, builder.fallback⟩,
    ⟨"block", .block, builder.fallback⟩]

/-- The methods of one slot: its setter, its getter and its predicate. -/
def methodsOfSlot (builder : Builder) (slot : Slot) : List MethodSignature :=
  [⟨slot.setterName, builder.setterParameters, builder.fallback⟩,
    ⟨slot.name, [], builder.fallback⟩,
    ⟨slot.name ++ "?", [], "T::Boolean"⟩]

/-- The methods of slots, with a record of their number. -/
def slotMethods (builder : Builder) (slots : List Slot) :
    Journaled Failure (List MethodSignature) := do
  let methods := slots.flatMap builder.methodsOfSlot
  Journaled.note ⟨.debug, .stubs, "Built " ++ methods.length.repr ++ " slot methods"⟩
  return methods

end Builder

end Stub
end TypeStub
