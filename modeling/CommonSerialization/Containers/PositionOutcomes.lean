import CommonSerialization.Containers.PositionCalls
import CommonSerialization.Containers.PositionRefusals

namespace CommonSerialization.Containers

open StateExcept Storage

/-! When the functions that work at a position do what they do to lists, and when their
failures leave the elements, refusals of constructions included. -/

namespace PositionCall

section Meaning

variable (environment : Environment α) (store : Store α) (turn : Nat) (left : Option α)

/-- An element that a move comes to at its turn is as before when the construction of a turn
is refused. -/
def Survives (itsTurn index : Nat) : Prop :=
  turned environment turn itsTurn (store.memory.slots (store.vector.m_p + index)) =
    store.memory.slots (store.vector.m_p + index)

/-- What stands at an index of the elements when the construction of a turn is refused. -/
def remains (index : Nat) : PositionCall → Slot α
  | replace p n offset =>
      if store.vector.m_allocatedSize < (replace p n offset).needed store then
        Vector.leftElsewhere environment store n offset turn index
      else Vector.leftByReplace store n offset turn left index
  | insert p n offset =>
      if store.vector.m_allocatedSize < (insert p n offset).needed store then
        Vector.leftElsewhere environment store n offset turn index
      else Vector.leftByInsert environment store n offset turn left index
  | erase offset n =>
      Vector.leftByErase environment store offset (Vector.erasedN store offset n) turn left index
  | copyN offset n _ =>
      if turn = Vector.copiedN store offset n ∧ index = 0 then .ofValue left
      else store.memory.slots (store.vector.m_p + index)

end Meaning

section Calls

variable {environment : Environment α} {store : Store α} {call : PositionCall}
  {p n offset turn : Nat} {refusal : Refusal α}

section Remains

variable {left : Option α} (objects : Objects store.memory.slots store.vector.m_p
  store.vector.m_dataSize)

include objects

end Remains

section Copies

variable (whole : Whole environment.elements store)
  (constructors : environment.elements.constructorAllocator = true)
  (given : (copyN offset n p).Given store environment)
  (now : turn < (copyN offset n p).made store environment.elements)
  (first : FirstRefusal environment store.memory.constructions turn refusal)

include whole constructors given now first

end Copies

end Calls

end PositionCall

section Handles

private theorem handle_size : 0 < 8 := Nat.succ_pos 7

private def handles : Elements := ⟨⟨false, false⟩, 8, handle_size, true⟩

end Handles

end CommonSerialization.Containers
