import CommonSerialization.Containers.GenerousHeap
import CommonSerialization.Containers.RangeContents

namespace CommonSerialization.Containers

open StateExcept Storage Growth

/-! When a range is inserted: exactly when no request wraps that is made while all requests
are granted. -/

namespace Vector

section Requests

variable (elements : Elements) (vector : Vector) (k n : Nat)

/-- The numbers of elements the vector asks for when `n` elements are inserted at `k` and
everything is granted: at the cursor one more each time it meets the capacity, and after the
loop room for what has been displaced. -/
def vectorRequests : List Nat :=
  let granted := vector.m_AllocationManager.granted elements
  requests granted n k vector.m_allocatedSize ++
    if min n (vector.m_dataSize - k) ≠ 0 ∧
        capacityAfter granted n k vector.m_allocatedSize < vector.m_dataSize + n then
      [vector.m_dataSize + n]
    else
      []

/-- Those the local vector asks for when what the cursor has not reached is displaced, one by
one or all at once. -/
def tailRequests (granted : Nat → Nat) (tail displaced capacity : Nat) : List Nat :=
  if tail = 0 then
    []
  else if elements.constructorAllocator then
    requests granted tail displaced capacity
  else if capacity < displaced + tail then
    [displaced + tail]
  else
    []

/-- Those the local vector asks for: elements come one by one from under the cursor, and then
the others, if there is anything to put them behind. -/
def localRequests : List Nat :=
  let granted := vector.m_AllocationManager.fresh.granted elements
  let displaced := min n (vector.m_dataSize - k)
  requests granted displaced 0 0 ++
    if displaced ≠ 0 then
      tailRequests elements granted (vector.m_dataSize - (k + n)) displaced
        (capacityAfter granted displaced 0 0)
    else
      []

/-- No request wraps that the insertion makes while all its requests are granted. -/
structure RequestsFit : Prop where
  this : ∀ needed ∈ vectorRequests elements vector k n,
    vector.m_AllocationManager.RequestFits elements needed
  temp : ∀ needed ∈ localRequests elements vector k n,
    vector.m_AllocationManager.fresh.RequestFits elements needed

end Requests

section Sufficient

variable {environment : Environment α} {store : Store α} {sources : List Nat} {k n fuel : Nat}

theorem RequestsFit.stocked (fit : RequestsFit environment.elements store.vector k n) :
    RangeStocked environment
      (fun manager needed capacity => capacity = manager.granted environment.elements needed)
      store k n := by
  obtain ⟨this, temp⟩ := fit
  unfold vectorRequests at this
  unfold localRequests at temp
  dsimp only at this temp
  constructor
  · refine Supplied.of_requests
      (fun needed member => this needed (List.mem_append_left _ member))
      (fun _ _ same => same) ?_
    intro some old short
    apply this
    apply List.mem_append_right
    rw [if_pos ⟨by omega, short⟩]
    exact List.mem_singleton_self _
  · refine Supplied.of_requests
      (fun needed member => temp needed (List.mem_append_left _ member))
      (fun _ _ same => same) ?_
    intro some short
    have isMin : min n (store.vector.m_dataSize - k) = n := by omega
    have rest : store.vector.m_dataSize - (k + n) ≠ 0 := by omega
    unfold tailRequests at temp
    rw [isMin, if_pos some, if_neg rest] at temp
    show TailFits environment.elements _ _ _ n (capacityAfter _ (min n _) 0 0)
    rw [isMin]
    unfold TailFits
    split
    · rename_i constructors
      rw [if_pos constructors] at temp
      exact Supplied.of_requests
        (fun needed member => temp needed (List.mem_append_right _ member))
        (fun _ _ same => same) trivial
    · rename_i raw
      intro less
      apply temp
      apply List.mem_append_right
      rw [if_neg raw, if_pos less]
      exact List.mem_singleton_self _

/-- The insertion of a range before the element of an index ends with the elements in
their order and the position behind the inserted ones, or with a request in vain.  Nothing is
said of a run in which an allocator has refused something. -/
inductive InsertsRange (store : Store α) (sources : List Nat) (k : Nat) :
    EStateM.Result Fault (Store α) Nat → Prop
  | inserted {pDestEnd : Nat} {after : Store α}
      (contents : after.contents =
        store.contents.take k ++ sources.map store.memory.slots ++ store.contents.drop k)
      (destEnd : pDestEnd = after.vector.m_p + k + sources.length) :
      InsertsRange store sources k (.ok pDestEnd after)
  | denied {after : Store α} (denied : store.memory.denied < after.memory.denied) :
      InsertsRange store sources k (.error (.status .errorNoMemory) after)
  | refused {result : EStateM.Result Fault (Store α) Nat}
      (refused : store.memory.ungranted < (final result).memory.ungranted) :
      InsertsRange store sources k result

theorem RequestsFit.inserts (fit : RequestsFit environment.elements store.vector k sources.length)
    (whole : Whole environment.elements store)
    (inside : k ≤ store.vector.m_dataSize)
    (foreign : ∀ src ∈ sources, Foreign environment store src 1)
    (unrefused : Unrefused environment store.memory) (enough : 2 * sources.length ≤ fuel) :
    InsertsRange store sources k
      (insertRange environment fuel sources (store.vector.m_p + k) store) := by
  have position : store.vector.m_p + k - store.vector.m_p = k := Nat.add_sub_cancel_left _ _
  have stocked := fit.stocked
  rw [← position] at stocked
  have inserted := insertRange_stocked (Accounting.ungranted environment) whole foreign
    (Nat.le_add_right _ k) (Nat.add_le_add_left inside _) unrefused stocked enough
  rw [position] at inserted
  obtain refused | inserted := inserted
  · exact .refused refused
  cases ran : insertRange environment fuel sources (store.vector.m_p + k) store with
  | ok pDestEnd after =>
      rw [ran] at inserted
      obtain ⟨edited, _, last⟩ := inserted
      exact .inserted edited.contents (last.trans (Nat.add_assoc _ k _).symm)
  | error fault after =>
      rw [ran] at inserted
      rw [inserted.fault]
      exact .denied inserted.denied

end Sufficient

section Necessary

variable {elements : Elements} {bound : Nat} {store after : Store α} {sources : List Nat}
  {k n fuel last : Nat}

theorem withTemp_eq_ok {environment : Environment α} {body : Proc (Pair α) β} {value : β}
    (ran : withTemp environment body store = .ok value after) :
    ∃ result ended, body ⟨store.memory, store.vector,
      empty store.vector.m_AllocationManager.fresh⟩ = .ok result ended := by
  unfold withTemp at ran
  dsimp only at ran
  split at ran
  · rename_i result middle whole
    obtain ⟨value, ended, ranBody, _⟩ := bind_eq_ok whole
    exact ⟨value, ended, onFailure_eq_ok ranBody⟩
  · cases ran

theorem displaceRest_told {pair last : Pair α} {old current : Nat}
    (running : Running elements bound pair) (oldInRange : old < elements.sizeRange)
    (ran : onlyIf (current < old) (displaceTail (generous elements bound) current
      (old - current)) pair = .ok () last) :
    Running elements bound last ∧ last.vector = pair.vector ∧
      last.other.m_dataSize = pair.other.m_dataSize + (old - current) ∧
      ∀ needed ∈ tailRequests elements (pair.other.m_AllocationManager.granted elements)
          (old - current) pair.other.m_dataSize pair.other.m_allocatedSize,
        pair.other.m_AllocationManager.RequestFits elements needed := by
  unfold tailRequests
  obtain before | past := Nat.lt_or_ge current old
  · rw [onlyIf_pos before] at ran
    obtain ⟨runningNext, same, size, each, raw⟩ :=
      displaceTail_told running (by omega) (show old - current ≠ 0 by omega) ran
    refine ⟨runningNext, same, size, ?_⟩
    rw [if_neg (show old - current ≠ 0 by omega)]
    split
    · rename_i constructors
      exact (each constructors).fit
    · rename_i none
      split
      · rename_i short
        intro needed member
        rw [List.mem_singleton.mp member]
        exact raw (Bool.eq_false_iff.mpr none) short
      · exact fun _ none => absurd none List.not_mem_nil
  · rw [onlyIf_neg (Nat.not_lt.mpr past)] at ran
    cases ran
    rw [Nat.sub_eq_zero_of_le past, if_pos rfl]
    exact ⟨running, rfl, rfl, fun _ none => absurd none List.not_mem_nil⟩

theorem appendDisplaced_told {pair last : Pair α} {old current : Nat}
    (running : Running elements bound pair) (inRange : current < elements.sizeRange)
    (oldInRange : old < elements.sizeRange) (some : pair.other.m_dataSize ≠ 0)
    (ran : appendDisplaced (generous elements bound) old current pair = .ok () last) :
    (pair.vector.m_allocatedSize < current + (pair.other.m_dataSize + (old - current)) →
        pair.vector.m_AllocationManager.RequestFits elements
          (current + (pair.other.m_dataSize + (old - current)))) ∧
      ∀ needed ∈ tailRequests elements (pair.other.m_AllocationManager.granted elements)
          (old - current) pair.other.m_dataSize pair.other.m_allocatedSize,
        pair.other.m_AllocationManager.RequestFits elements needed := by
  obtain ⟨_, middle, ranTail, ran⟩ := bind_eq_ok ran
  obtain ⟨_, cut, ranCut, ran⟩ := bind_eq_ok ran
  cases ranCut
  obtain ⟨runningNext, same, size, fits⟩ := displaceRest_told running oldInRange ranTail
  refine ⟨fun short => ?_, fits⟩
  rw [← same, ← size] at short ⊢
  apply takeBack_told (runningNext.resized current) rfl inRange ?_ short ran
  show middle.other.m_dataSize ≠ 0
  omega

/-- An insertion that a generous heap lets through asks for nothing that wraps. -/
theorem insertRange_told (ahead : Ahead elements bound store.memory)
    (heap : store.vector.m_AllocationManager.allocator = .heap)
    (fits : store.vector.m_dataSize ≤ store.vector.m_allocatedSize)
    (capacity : store.vector.m_allocatedSize < elements.sizeRange)
    (inside : k ≤ store.vector.m_dataSize)
    (ran : insertRange (generous elements bound) fuel sources (store.vector.m_p + k) store =
      .ok last after) :
    RequestsFit elements store.vector k sources.length := by
  unfold insertRange at ran
  rw [bind_of_ok (get_apply store)] at ran
  split at ran
  · cases ran
  obtain ⟨result, ended, ranBody⟩ := withTemp_eq_ok ran
  obtain ⟨current, middle, ranLoop, ranRest⟩ := bind_eq_ok ranBody
  rw [bind_of_ok (get_apply middle)] at ranRest
  obtain ⟨_, appended, ranAppend, _⟩ := bind_eq_ok ranRest
  rw [Nat.add_sub_cancel_left] at ranLoop
  have running : Running elements bound ⟨store.memory, store.vector,
      empty store.vector.m_AllocationManager.fresh⟩ :=
    ⟨ahead, heap, (steady_framed (α := α) elements bound).fresh heap, capacity, elements.sizeRange_pos⟩
  obtain ⟨isLast, inRange, runningNext, looped⟩ := insertElements_told running (by omega)
    (show store.vector.m_dataSize = max store.vector.m_dataSize k by omega) ranLoop
  obtain ⟨manager, managerOther, _, taken, this, that⟩ := looped
  have taken : middle.other.m_dataSize = min sources.length (store.vector.m_dataSize - k) := by
    rw [taken]
    exact Nat.zero_add _
  have later (some : min sources.length (store.vector.m_dataSize - k) ≠ 0) :=
    appendDisplaced_told runningNext inRange (Nat.lt_of_le_of_lt fits capacity)
      (taken ▸ some) (onlyIf_pos (taken ▸ some) ▸ ranAppend)
  rw [isLast, taken, manager, managerOther, this.capacity, that.capacity] at later
  constructor
  · unfold vectorRequests
    intro needed member
    obtain early | late := List.mem_append.mp member
    · exact this.fit needed early
    · split at late
      · rename_i short
        obtain ⟨some, short⟩ := short
        rw [List.mem_singleton.mp late]
        have total : k + sources.length + (min sources.length (store.vector.m_dataSize - k) +
            (store.vector.m_dataSize - (k + sources.length))) =
              store.vector.m_dataSize + sources.length := by omega
        rw [total] at later
        exact (later some).1 short
      · exact absurd late List.not_mem_nil
  · unfold localRequests
    intro needed member
    obtain early | late := List.mem_append.mp member
    · exact that.fit needed early
    · split at late
      · rename_i some
        exact (later some).2 needed late
      · exact absurd late List.not_mem_nil

end Necessary

section Exactly

variable {environment : Environment α} {store : Store α} {sources : List Nat} {k bound : Nat}

/-- The insertion of a range ends as it should, whatever the heap grants, if no construction
is refused. -/
def AlwaysInserts (elements : Elements) (store : Store α) (sources : List Nat) (k : Nat) :
    Prop :=
  ∀ environment : Environment α, environment.elements = elements →
    Unrefused environment store.memory → ∀ fuel, 2 * sources.length ≤ fuel →
      InsertsRange store sources k
        (insertRange environment fuel sources (store.vector.m_p + k) store)

theorem Foreign.of_elements {other : Environment α} {p n : Nat}
    (same : other.elements = environment.elements) (foreign : Foreign environment store p n) :
    Foreign other store p n := by
  obtain ⟨mapped, outside, objects, fits⟩ := foreign
  rw [← same] at outside objects fits
  exact ⟨mapped, outside, objects, fits⟩

/-- A range is always inserted if no request wraps that is made while all are granted, and
over the heap only then. -/
theorem insertRange_inserts_iff (whole : Whole environment.elements store)
    (inside : k ≤ store.vector.m_dataSize)
    (foreign : ∀ src ∈ sources, Foreign environment store src 1) :
    (RequestsFit environment.elements store.vector k sources.length →
        AlwaysInserts environment.elements store sources k) ∧
      (store.vector.m_AllocationManager.allocator = .heap →
        (∀ address, bound < address →
          store.memory.slots address = .unmapped ∧ store.memory.blocks address = none) →
        AlwaysInserts environment.elements store sources k →
          RequestsFit environment.elements store.vector k sources.length) := by
  constructor
  · intro fit other same unrefused fuel enough
    rw [← same] at fit whole
    exact fit.inserts whole inside
      (fun src member => Foreign.of_elements same (foreign src member)) unrefused enough
  · intro heap bounded always
    have ahead : Ahead environment.elements bound store.memory := by
      intro address past
      obtain ⟨unmapped, none⟩ := bounded address (by unfold edge at past; omega)
      rw [unmapped]
      exact ⟨rfl, none⟩
    have capacity : store.vector.m_allocatedSize < environment.elements.sizeRange :=
      Nat.lt_of_le_of_lt (Nat.le_mul_of_pos_right _ environment.elements.size_pos)
        whole.standing.small
    have inserts := always (generous environment.elements bound) rfl (fun _ _ _ => rfl)
      (2 * sources.length) (Nat.le_refl _)
    have moved := (steady_framed environment.elements bound).insertRange heap
      (2 * sources.length) sources (store.vector.m_p + k)
    cases ran : insertRange (generous environment.elements bound) (2 * sources.length) sources
        (store.vector.m_p + k) store with
    | ok last after => exact insertRange_told ahead heap whole.standing.fits.size capacity inside ran
    | error fault after =>
        rw [ran] at inserts moved
        have steady := moved.memory ahead
        cases inserts with
        | denied denied => exact absurd steady.denied (Nat.ne_of_gt denied)
        | refused refused => exact absurd steady.ungranted (Nat.ne_of_gt refused)

end Exactly

section Giants

private def giants (size : Nat) (positive : 0 < size) : Elements :=
  ⟨⟨false, true⟩, size, positive, true⟩

private def giantHeap (size : Nat) (positive : 0 < size) : Environment Nat :=
  Environment.exact (giants size positive) (fun memory => 1000 * (memory.requests + 1)) id
    fun _ => none

private def oneGiant (size : Nat) : Store Nat where
  memory :=
    { slots := fun address =>
        if address = 1000 then .object 7 else if address = 500 then .object 9 else .unmapped
      blocks := Function.update (fun _ => none) 1000 (some size)
      requests := 1
      denied := 0
      constructions := 1
      log := [] }
  vector := ⟨1000, 1, 1, .strategic .heap .doubleOfDataSize⟩

private theorem giant_room {size : Nat} (positive : 0 < size) :
    (giants size positive).room size = 1 := Nat.div_self positive

private theorem oneGiant_whole {size : Nat} (positive : 0 < size) (small : size < 2 ^ 32) :
    Whole (giants size positive) (oneGiant size) where
  standing := by
    refine ⟨Sound.single rfl (by decide) ?_, ⟨Nat.le_refl 1, .inr ⟨?_, size, rfl, ?_⟩⟩,
      trivial, ?_⟩
    · rw [giant_room]
      intro index inside
      rw [Nat.lt_one_iff.mp inside]
      rfl
    · exact Nat.succ_ne_zero 999
    · exact Nat.le_of_eq (Nat.one_mul size)
    · show 1 * size < 2 ^ 32
      rwa [Nat.one_mul]
  home := by
    intro storage memorySize keeper
    cases keeper
  filled := by
    refine ⟨fun _ => ?_, ?_⟩
    · intro index inside
      rw [Nat.lt_one_iff.mp inside]
      rfl
    · intro _ bytes held index inside past
      have block : bytes = size := (Option.some.inj held).symm
      rw [block, giant_room] at inside
      exact absurd inside (Nat.not_lt.mpr past)

private theorem otherGiant_foreign {size : Nat} (positive : 0 < size) (small : size < 2 ^ 32) :
    Foreign (giantHeap size positive) (oneGiant size) 500 1 where
  mapped := by
    intro index inside
    rw [Nat.lt_one_iff.mp inside]
    rfl
  outside := by
    intro index inside own
    rw [Nat.lt_one_iff.mp inside] at own
    obtain ⟨_, bytes, _, within⟩ | ⟨_, _, keeper, _⟩ := own
    · have lower : 1000 ≤ 500 + 0 := within.1
      omega
    · cases keeper
  objects := by
    intro _ index inside
    rw [Nat.lt_one_iff.mp inside]
    rfl
  fits := by
    show 1 * size < 2 ^ 32
    rwa [Nat.one_mul]

private theorem oneGiant_bounded (size address : Nat) (past : 1000 < address) :
    (oneGiant size).memory.slots address = .unmapped ∧
      (oneGiant size).memory.blocks address = none := by
  constructor
  · show (if address = 1000 then _ else if address = 500 then _ else _) = _
    rw [if_neg (by omega), if_neg (by omega)]
  · show Function.update (fun _ => none) 1000 (some size) address = none
    rw [Function.update_of_ne (Nat.ne_of_gt past)]

/-- Four elements before the only one: the vector asks for 2, doubled to 4, and then for 5,
the local one for 1. -/
theorem insertRange_inserts_before :
    AlwaysInserts (giants 8 (by decide)) (oneGiant 8) [500, 500, 500, 500] 0 ∧
      RequestsFit (giants 8 (by decide)) (oneGiant 8).vector 0 4 := by
  have asked : vectorRequests (giants 8 (by decide)) (oneGiant 8).vector 0 4 = [2, 5] := by decide
  have askedTemp : localRequests (giants 8 (by decide)) (oneGiant 8).vector 0 4 = [1] := by decide
  have whole : Whole (giantHeap 8 (by decide)).elements (oneGiant 8) :=
    oneGiant_whole (by decide) (by decide)
  have fit : RequestsFit (giants 8 (by decide)) (oneGiant 8).vector 0 4 := by
    constructor
    · rw [asked]
      intro needed member
      obtain two | five := List.mem_pair.mp member
      · rw [two]
        exact show 2 * 2 * 8 < 2 ^ 32 by decide
      · rw [five]
        exact show 5 * 2 * 8 < 2 ^ 32 by decide
    · rw [askedTemp]
      intro needed member
      rw [List.mem_singleton.mp member]
      exact show 1 * 2 * 8 < 2 ^ 32 by decide
  have foreign : ∀ src ∈ [500, 500, 500, 500],
      Foreign (giantHeap 8 (by decide)) (oneGiant 8) src 1 := by
    intro src member
    rw [List.eq_of_mem_replicate (show src ∈ List.replicate 4 500 from member)]
    exact otherGiant_foreign (by decide) (by decide)
  obtain ⟨enough, needed⟩ := insertRange_inserts_iff whole (Nat.zero_le 1) foreign
  have always := enough fit
  exact ⟨always, needed rfl (oneGiant_bounded 8) always⟩

def isUndefined : EStateM.Result Fault (Store α) β → Bool
  | .error .undefinedBehaviour _ => true
  | _ => false

theorem not_insertsRange {store : Store α} {sources : List Nat} {k : Nat} {result : EStateM.Result Fault (Store α) Nat}
    (astray : isUndefined result = true)
    (granted : (final result).memory.ungranted = store.memory.ungranted) :
    ¬InsertsRange store sources k result := by
  intro inserts
  cases inserts with
  | inserted => cases astray
  | denied => cases astray
  | refused refused => exact absurd granted (Nat.ne_of_gt refused)

/-- Elements of 2^30 octets: four of them are 0 octets, and the block that comes has no
place for the two that go there. -/
theorem inserted_into_nothing :
    Whole (giants (2 ^ 30) (by decide)) (oneGiant (2 ^ 30)) ∧
      Foreign (giantHeap (2 ^ 30) (by decide)) (oneGiant (2 ^ 30)) 500 1 ∧
      Unrefused (giantHeap (2 ^ 30) (by decide)) (oneGiant (2 ^ 30)).memory ∧
      ¬InsertsRange (oneGiant (2 ^ 30)) [500] 1
        (insertRange (giantHeap (2 ^ 30) (by decide)) 2 [500]
          ((oneGiant (2 ^ 30)).vector.m_p + 1) (oneGiant (2 ^ 30))) := by
  refine ⟨oneGiant_whole (by decide) (by decide), otherGiant_foreign (by decide) (by decide),
    fun _ _ _ => rfl, ?_⟩
  have astray : isUndefined (insertRange (giantHeap (2 ^ 30) (by decide)) 2 [500]
      ((oneGiant (2 ^ 30)).vector.m_p + 1) (oneGiant (2 ^ 30))) = true := by decide +kernel
  have granted : (final (insertRange (giantHeap (2 ^ 30) (by decide)) 2 [500]
      ((oneGiant (2 ^ 30)).vector.m_p + 1) (oneGiant (2 ^ 30)))).memory.ungranted = 0 := by
    decide +kernel
  exact not_insertsRange astray granted

end Giants

end Vector

end CommonSerialization.Containers
