import CommonSerialization.Containers.PositionContents
import CommonSerialization.Containers.Refusals

namespace CommonSerialization.Containers

open StateExcept Storage

/-! When the functions that work at a position do what they do to lists. -/

section Makes

variable {environment : Environment α} {memory : Memory α} {dest src n : Nat}

def NoStatus (result : EStateM.Result Fault σ β) : Prop :=
  Ended (fun _ _ => True) (fun fault _ => ∀ status, fault ≠ .status status) result

theorem Makes.noStatus {made : Nat} {result : EStateM.Result Fault (Memory α) β}
    (steady : Makes memory made result) : NoStatus result :=
  steady.weaken (fun _ _ _ => trivial) fun _ _ other => other

theorem memcpy_noStatus (elements : Elements) :
    NoStatus (memcpy elements dest src n memory) := by
  have moved : NoStatus (memmove elements dest src n memory) := by
    unfold memmove
    rw [bind_of_ok (get_apply memory)]
    split
    · trivial
    · exact fun _ same => by cases same
  unfold memcpy
  split
  · exact fun _ same => by cases same
  · exact moved

end Makes

section Overlaps

variable {environment : Environment α} {store : Store α} {memory : Memory α}
  {dest src n p offset : Nat}

def Undefined (result : EStateM.Result Fault σ β) : Prop :=
  Ended (fun _ _ => False) (fun fault _ => fault = .undefinedBehaviour) result

theorem Undefined.bind {first : EStateM Fault σ β} {next : β → EStateM Fault σ γ} {state : σ}
    (undefined : Undefined (first state)) : Undefined ((first >>= next) state) :=
  Ended.bind undefined fun _ _ impossible => impossible.elim

theorem Undefined.onMemory {proc : MProc α β}
    (undefined : Undefined (proc store.memory)) :
    Undefined (Vector.onMemory proc store) :=
  (Vector.onMemory_ended undefined).weaken (fun _ _ holds => holds.1) fun _ _ holds => holds.1

variable (whole : Whole environment.elements store)

include whole

end Overlaps

inductive PositionCall
  | replace (p n offset : Nat)
  | insert (p n offset : Nat)
  | erase (offset n : Nat)
  | copyN (offset n p : Nat)
  deriving DecidableEq

namespace PositionCall

section Meaning

/-- Returns the out-parameter, where there is one. -/
def run (environment : Environment α) : PositionCall → VProc α (Option Nat)
  | replace p n offset => do return some (← Vector.replace environment p n offset)
  | insert p n offset => do return some (← Vector.insert environment p n offset)
  | erase offset n => do
      Vector.erase environment offset n
      return none
  | copyN offset n p => do return some (← Vector.copyN environment offset n p)

variable (store : Store α)

/-- The elements that a call has to leave; no sum is limited here. -/
def contents : PositionCall → List (Slot α)
  | replace p n offset =>
      store.contents.take offset ++ stretch store.memory.slots p n ++
        store.contents.drop (offset + n)
  | insert p n offset =>
      store.contents.take offset ++ stretch store.memory.slots p n ++
        store.contents.drop offset
  | erase offset n => store.contents.take offset ++ store.contents.drop (offset + n)
  | copyN _ _ _ => store.contents

def past : PositionCall → Option Nat
  | replace _ n offset => some (offset + n)
  | insert _ n offset => some (offset + n)
  | erase _ _ => none
  | copyN offset n p => some (p + Vector.copiedN store offset n)

def Copied (after : Store α) : PositionCall → Prop
  | copyN offset n p =>
      stretch after.memory.slots p (Vector.copiedN store offset n) =
        (store.contents.drop offset).take n
  | _ => True

def Written : PositionCall → Nat → Prop
  | copyN offset n p => Within p (Vector.copiedN store offset n)
  | _ => fun _ => False

def Used : PositionCall → Nat → Prop
  | replace p n _ => Within p n
  | insert p n _ => Within p n
  | erase _ _ => fun _ => False
  | copyN offset n p => Within p (Vector.copiedN store offset n)

/-- Nothing outside of the vector, the source and the destination has been read or
written. -/
structure Confined (elements : Elements) (call : PositionCall) (after : Store α) : Prop where
  slots : ∀ {address}, (store.memory.slots address).mapped →
    ¬store.own elements address → ¬call.Written store address →
    after.memory.slots address = store.memory.slots address
  events : Grown (Nearby elements store (call.Used store)) store.memory.log after.memory.log

/-- A call does to the elements what it does to lists, or returns a status and leaves
them. -/
def Meets (elements : Elements) (call : PositionCall)
    (result : EStateM.Result Fault (Store α) (Option Nat)) : Prop :=
  Ended (fun out after => out = call.past store ∧ after.contents = call.contents store ∧
      call.Copied store after ∧ Confined store elements call after)
    (fun fault after => (∃ status, fault = .status status) ∧
      after.contents = store.contents ∧ Confined store elements call after) result

/-- What callers give: numbers of the type `size_t`, and elements that are not in the
storage of the vector; as many as are copied, where `copyN` is to put them. -/
def Given (environment : Environment α) : PositionCall → Prop
  | replace p n offset | insert p n offset =>
      offset < environment.elements.sizeRange ∧ n < environment.elements.sizeRange ∧
        (p ≠ 0 ∨ n = 0 → Foreign environment store p n)
  | erase offset n =>
      offset < environment.elements.sizeRange ∧ n < environment.elements.sizeRange
  | copyN offset n p =>
      offset < environment.elements.sizeRange ∧ n < environment.elements.sizeRange ∧
        (p ≠ 0 ∨ n = 0 → Foreign environment store p (Vector.copiedN store offset n))

def needed : PositionCall → Nat
  | replace _ n offset => max store.vector.m_dataSize (offset + n)
  | insert _ n _ => store.vector.m_dataSize + n
  | _ => 0

/-- The constructions that a call makes for elements that have any, if it gets memory and
none of them is refused. -/
def made (elements : Elements) : PositionCall → Nat
  | replace p n offset =>
      if p = 0 ∧ n ≠ 0 ∨ store.vector.m_dataSize < offset then 0
      else Vector.replacedMade store n offset
  | insert p n offset =>
      if p = 0 ∧ n ≠ 0 ∨ store.vector.m_dataSize < offset then 0
      else Vector.insertedMade store n offset
  | erase offset n => Vector.erasedMade store offset n
  | copyN offset n p =>
      if p = 0 ∨ store.vector.m_dataSize ≤ offset then 0
      else if offset + n < elements.sizeRange then Vector.copiedN store offset n
      else n

/-- All storage is in the address space, where null is not, and twice of what is needed does
not wrap where a strategy asks for that. -/
structure Untroubled (environment : Environment α) (call : PositionCall) : Prop where
  addressable : ∀ {address}, (store.memory.slots address).mapped → address ≠ 0 ∧
    (address + 1) * environment.elements.size ≤ environment.elements.sizeRange
  doubled : ∀ allocator,
    store.vector.m_AllocationManager = .strategic allocator .doubleOfDataSize →
    store.vector.m_allocatedSize < call.needed store →
    call.needed store * 2 * environment.elements.size < environment.elements.sizeRange

/-- When a call of which no construction is refused does what it does to lists. -/
def Regular (elements : Elements) : PositionCall → Prop
  | replace _ _ _ => True
  | insert p n offset =>
      match store.vector.m_AllocationManager.allocator with
      | .heap => True
      | .keeper _ memorySize =>
          p = 0 ∨ store.vector.m_dataSize ≤ offset ∨
            store.vector.m_dataSize + n ≤ store.vector.m_allocatedSize ∨
            memorySize < store.vector.m_dataSize + n ∨
            store.vector.m_dataSize - offset ≤ n ∧
              (stretch store.memory.slots p n).take (store.vector.m_dataSize - offset) =
                store.contents.drop offset
  | erase offset n =>
      store.vector.m_dataSize ≤ offset ∨ n = 0 ∨
        store.vector.m_dataSize - (offset + Vector.erasedN store offset n) ≤
          Vector.erasedN store offset n
  | copyN offset n p =>
      p = 0 ∨ store.vector.m_dataSize ≤ offset ∨ offset + n < elements.sizeRange

end Meaning

section Calls

variable {environment : Environment α} {store after : Store α} {call : PositionCall}
  {p n offset : Nat} {reason : Status → Prop} {fault : Fault}

/-- Elements of the vector and elements elsewhere are not more than the address space
has. -/
theorem Untroubled.bytes (untroubled : Untroubled store environment call)
    (whole : Whole environment.elements store) (source : Foreign environment store p n) :
    (store.vector.m_dataSize + n) * environment.elements.size <
      environment.elements.sizeRange := by
  have standing := whole.standing
  have size := standing.fits.size
  have place {address : Nat} (mapped : (store.memory.slots address).mapped) :
      address ≠ 0 ∧
        address + 1 ≤ environment.elements.sizeRange / environment.elements.size := by
    obtain ⟨nonnull, inside⟩ := untroubled.addressable mapped
    exact ⟨nonnull, (Nat.le_div_iff_mul_le environment.elements.size_pos).mpr inside⟩
  by_cases some : 0 < store.vector.m_dataSize ∧ 0 < n
  · have apart := source.apart whole
      (show 0 + store.vector.m_dataSize ≤ store.vector.m_allocatedSize by omega)
    have first := apart p
    have second := apart store.vector.m_p
    unfold Within at first second
    have ownFirst := place (standing.elementsMapped 0 some.1)
    have ownLast := place (standing.elementsMapped (store.vector.m_dataSize - 1) (by omega))
    have otherFirst := place (source.mapped 0 some.2)
    have otherLast := place (source.mapped (n - 1) (by omega))
    have fewer : store.vector.m_dataSize + n <
        environment.elements.sizeRange / environment.elements.size := by omega
    exact Nat.lt_of_lt_of_le (Nat.mul_lt_mul_of_pos_right fewer environment.elements.size_pos)
      (Nat.div_mul_le_self _ _)
  · obtain noElements | noSource : store.vector.m_dataSize = 0 ∨ n = 0 := by omega
    · rw [noElements, Nat.zero_add]
      exact source.fits
    · rw [noSource, Nat.add_zero]
      exact Nat.lt_of_le_of_lt (Nat.mul_le_mul_right _ size) standing.small

theorem Untroubled.sum (untroubled : Untroubled store environment call)
    (whole : Whole environment.elements store) (source : Foreign environment store p n) :
    store.vector.m_dataSize + n < environment.elements.sizeRange :=
  Nat.lt_of_le_of_lt (Nat.le_mul_of_pos_right _ environment.elements.size_pos)
    (untroubled.bytes whole source)

theorem Untroubled.fits (untroubled : Untroubled store environment call)
    (whole : Whole environment.elements store) (source : Foreign environment store p n)
    (needed : call.needed store ≤ store.vector.m_dataSize + n)
    (grows : store.vector.m_allocatedSize < call.needed store) :
    store.vector.m_AllocationManager.RequestFits environment.elements (call.needed store) := by
  unfold AllocationManager.RequestFits
  split
  · rename_i allocator same
    exact untroubled.doubled allocator same grows
  · exact Nat.lt_of_le_of_lt (Nat.mul_le_mul_right _ needed) (untroubled.bytes whole source)

theorem inserted_of_regular (whole : Whole environment.elements store)
    (argument : p ≠ 0 ∨ n = 0)
    (regular : (insert p n offset).Regular store environment.elements)
    (available : store.vector.m_allocatedSize < store.vector.m_dataSize + n →
      Vector.Available store (store.vector.m_dataSize + n)) :
    Vector.inserted store p n offset = (insert p n offset).contents store := by
  have size := whole.standing.fits.size
  unfold Vector.inserted
  split
  · rename_i grows
    have tail : Vector.tailElsewhere store p n offset = store.contents.drop offset := by
      unfold Vector.tailElsewhere
      unfold Regular at regular
      cases allocator : store.vector.m_AllocationManager.allocator with
      | heap => rfl
      | keeper storage memorySize =>
          have room := available grows storage memorySize allocator
          rw [allocator] at regular
          obtain null | past | stays | short | ⟨_, same⟩ := regular
          · omega
          · dsimp only
            rw [Nat.sub_eq_zero_of_le past]
            exact (drop_stretch_of_le past).symm
          · omega
          · omega
          · exact same
    rw [tail]
    rfl
  · rfl

/-- A regular insertion does not move a longer tail within a keeper's storage. -/
theorem Regular.short (whole : Whole environment.elements store)
    (regular : (insert p n offset).Regular store environment.elements)
    (argument : p ≠ 0 ∨ n = 0)
    (grows : store.vector.m_allocatedSize < store.vector.m_dataSize + n)
    (other : store.vector.m_AllocationManager.allocator ≠ .heap)
    (available : Vector.Available store (store.vector.m_dataSize + n)) :
    store.vector.m_dataSize - offset ≤ n := by
  have size := whole.standing.fits.size
  unfold Regular at regular
  cases allocator : store.vector.m_AllocationManager.allocator with
  | heap => exact absurd allocator other
  | keeper storage memorySize =>
      have room := available storage memorySize allocator
      rw [allocator] at regular
      obtain null | past | stays | short | ⟨short, _⟩ := regular
      · omega
      · omega
      · omega
      · omega
      · exact short

end Calls

end PositionCall

end CommonSerialization.Containers
