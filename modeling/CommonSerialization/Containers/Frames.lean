import CommonSerialization.Containers.StorageKept
import CommonSerialization.Containers.Vector

namespace CommonSerialization.Containers

open StateExcept

/-! What the insertion of a range does to memory comes down to what managers do: requests,
and blocks given back. -/

/-- A relation that elements moving within storage, requests and blocks given back keep. -/
structure Framed (environment : Environment α) (able : AllocationManager → Prop)
    (related : Memory α → Memory α → Prop) : Prop where
  storage : ∀ {before after}, SameStorage before after → related before after
  trans : ∀ before middle after, related before middle → related middle after →
    related before after
  allocate : ∀ {manager}, able manager → ∀ n, Moves related (manager.allocate environment n)
  deallocate : ∀ (manager : AllocationManager) p,
    Moves related (manager.deallocate environment p)
  fresh : ∀ {manager : AllocationManager}, able manager → able manager.fresh

structure Store.Framed (related : Memory α → Memory α → Prop) (before after : Store α) :
    Prop where
  memory : related before.memory after.memory
  manager : after.vector.m_AllocationManager = before.vector.m_AllocationManager

structure Pair.Framed (related : Memory α → Memory α → Prop) (before after : Pair α) :
    Prop where
  memory : related before.memory after.memory
  manager : after.vector.m_AllocationManager = before.vector.m_AllocationManager
  other : after.other.m_AllocationManager = before.other.m_AllocationManager

namespace Framed

variable {environment : Environment α} {able : AllocationManager → Prop}
  {related : Memory α → Memory α → Prop}

section Stores

variable {store : Store α}

theorem store_refl (framed : Framed environment able related) (store : Store α) :
    store.Framed related store :=
  ⟨framed.storage (SameStorage.refl _), rfl⟩

theorem store_trans (framed : Framed environment able related)
    (before middle after : Store α) (first : before.Framed related middle)
    (second : middle.Framed related after) : before.Framed related after :=
  ⟨framed.trans _ _ _ first.memory second.memory, second.manager.trans first.manager⟩

theorem onMemory {proc : MProc α β} (moves : Moves related proc) :
    Moves (Store.Framed related) (Vector.onMemory proc) :=
  Moves.onPart fun store => ⟨moves store.memory, rfl⟩

theorem elements (framed : Framed environment able related) {proc : MProc α β}
    (keeps : KeepsStorage proc) : Moves related proc :=
  fun memory => framed.storage (keeps memory)

theorem setDataSize (framed : Framed environment able related) (n : Nat) :
    Moves (Store.Framed related) (Vector.setDataSize n : VProc α Unit) :=
  Moves.modify fun _ => ⟨framed.storage (SameStorage.refl _), rfl⟩

theorem setPointer (framed : Framed environment able related) (p : Nat) :
    Moves (Store.Framed related) (Vector.setPointer p : VProc α Unit) :=
  Moves.modify fun _ => ⟨framed.storage (SameStorage.refl _), rfl⟩

theorem setAllocatedSize (framed : Framed environment able related) (n : Nat) :
    Moves (Store.Framed related) (Vector.setAllocatedSize n : VProc α Unit) :=
  Moves.modify fun _ => ⟨framed.storage (SameStorage.refl _), rfl⟩

theorem relocate (framed : Framed environment able related) (pNewMp n : Nat) :
    Moves (Store.Framed related) (Vector.relocate environment pNewMp n) := by
  apply Moves.bind framed.store_trans (framed.setAllocatedSize n)
  intro _
  apply Moves.get_bind
  intro store
  apply Moves.bind_at framed.store_trans
  · apply onFailure_moves framed.store_refl framed.store_trans
    · exact onMemory (framed.elements (transferToRawNoOverlap_storage environment .move _ _ _))
    · exact Moves.bind framed.store_trans (framed.setDataSize 0) fun _ =>
        onMemory (framed.deallocate _ _)
  · intro _ middle _
    apply Moves.bind framed.store_trans
    · apply onMemory
      exact Moves.bind framed.trans
        (framed.elements (destroyN_storage environment _ _)) fun _ => framed.deallocate _ _
    · exact fun _ => framed.setPointer pNewMp

theorem reserveInternal (framed : Framed environment able related)
    (isAble : able store.vector.m_AllocationManager) (n : Nat) :
    store.Framed related (final (Vector.reserveInternal environment n false store)) := by
  unfold Vector.reserveInternal
  rw [bind_of_ok (get_apply store)]
  split
  · apply Moves.bind_at framed.store_trans
      (onMemory (framed.allocate isAble n) store)
    intro answer middle _
    exact Moves.ite (fun _ => framed.relocate _ _)
      (fun _ => Moves.throw framed.store_refl _) middle
  · exact framed.store_refl store

theorem addSpaceIfNeed (framed : Framed environment able related)
    (isAble : able store.vector.m_AllocationManager) (n : Nat) :
    store.Framed related (final (Vector.addSpaceIfNeed environment n store)) := by
  unfold Vector.addSpaceIfNeed
  rw [bind_of_ok (get_apply store)]
  split
  · split
    · exact framed.reserveInternal isAble _
    · exact framed.store_refl store
  · exact framed.store_refl store

theorem append (framed : Framed environment able related)
    (isAble : able store.vector.m_AllocationManager) (n : Nat) {fill : Vector → MProc α Unit}
    (keeps : ∀ vector, KeepsStorage (fill vector)) :
    store.Framed related (final (Vector.append environment n fill store)) := by
  apply Moves.bind_at framed.store_trans (framed.addSpaceIfNeed isAble n)
  intro _ middle _
  apply Moves.get_bind
  intro grown
  exact Moves.bind framed.store_trans (onMemory (framed.elements (keeps grown.vector)))
    (fun _ => framed.setDataSize _) grown

theorem invalidate (framed : Framed environment able related) :
    Moves (Store.Framed related) (Vector.invalidate environment) := by
  apply Moves.bind framed.store_trans
  · apply Moves.get_bind
    intro store
    exact Moves.bind framed.store_trans
      (onMemory (framed.elements (destroyN_storage environment _ _)))
      (fun _ => framed.setDataSize 0) store
  · intro _
    apply Moves.get_bind
    intro store
    apply Moves.bind_at framed.store_trans (onMemory (framed.deallocate _ _) store)
    intro _ middle _
    exact Moves.bind framed.store_trans (framed.setPointer 0)
      (fun _ => framed.setAllocatedSize 0) middle

end Stores

section Pairs

variable {pair : Pair α}

theorem pair_refl (framed : Framed environment able related) (pair : Pair α) :
    pair.Framed related pair :=
  ⟨framed.storage (SameStorage.refl _), rfl, rfl⟩

theorem pair_trans (framed : Framed environment able related)
    (before middle after : Pair α) (first : before.Framed related middle)
    (second : middle.Framed related after) : before.Framed related after :=
  ⟨framed.trans _ _ _ first.memory second.memory, second.manager.trans first.manager,
    second.other.trans first.other⟩

theorem onBoth {proc : MProc α β} (moves : Moves related proc) :
    Moves (Pair.Framed related) (Pair.onMemory proc) :=
  Moves.onPart fun pair => ⟨moves pair.memory, rfl, rfl⟩

theorem onThis {proc : VProc α β}
    (moved : Store.Framed related ⟨pair.memory, pair.vector⟩
      (final (proc ⟨pair.memory, pair.vector⟩))) :
    pair.Framed related (final (Pair.onThis proc pair)) := by
  unfold Pair.onThis onPart
  dsimp only
  cases ran : proc ⟨pair.memory, pair.vector⟩ with
  | ok value after | error fault after =>
      rw [ran] at moved
      exact ⟨moved.memory, moved.manager, rfl⟩

theorem onOther {proc : VProc α β}
    (moved : Store.Framed related ⟨pair.memory, pair.other⟩
      (final (proc ⟨pair.memory, pair.other⟩))) :
    pair.Framed related (final (Pair.onOther proc pair)) := by
  unfold Pair.onOther onPart
  dsimp only
  cases ran : proc ⟨pair.memory, pair.other⟩ with
  | ok value after | error fault after =>
      rw [ran] at moved
      exact ⟨moved.memory, rfl, moved.manager⟩

theorem displaceOne (framed : Framed environment able related)
    (isAble : able pair.other.m_AllocationManager) (p : Nat) :
    pair.Framed related
      (final ((Pair.onOther (Vector.pushBackMove environment p) >>= fun _ =>
        Pair.onMemory (destroy environment p)) pair)) := by
  apply Moves.bind_at framed.pair_trans
  · exact onOther (framed.append isAble 1 fun _ =>
      transferToRawNoOverlap_storage environment .move _ _ 1)
  · exact fun _ middle _ => onBoth (framed.elements (destroy_storage environment _)) middle

theorem displace (framed : Framed environment able related)
    (isAble : able pair.other.m_AllocationManager) (pCurrent currentOffset : Nat) :
    pair.Framed related
      (final (Vector.displace environment pCurrent currentOffset pair)) := by
  unfold Vector.displace
  rw [bind_of_ok (get_apply pair)]
  split
  · exact framed.displaceOne isAble pCurrent
  · exact onThis (framed.setDataSize _ _)

theorem consume (framed : Framed environment able related)
    (isAble : able pair.other.m_AllocationManager) (p src current : Nat) :
    pair.Framed related (final ((Vector.displace environment p current >>= fun _ =>
      Pair.onMemory (copyToRawNoOverlap environment p src 1)) pair)) := by
  apply Moves.bind_at framed.pair_trans (framed.displace isAble p current)
  exact fun _ middle _ => onBoth (framed.elements
    (transferToRawNoOverlap_storage environment .copy _ _ 1)) middle

theorem insertElements (framed : Framed environment able related) {fuel : Nat}
    {sources : List Nat} {current : Nat} (isAble : able pair.vector.m_AllocationManager)
    (isAbleOther : able pair.other.m_AllocationManager) :
    pair.Framed related
      (final (Vector.insertElements environment fuel sources current pair)) := by
  induction fuel generalizing sources current pair with
  | zero =>
      cases sources with
      | nil => exact framed.pair_refl pair
      | cons src rest => exact framed.pair_refl pair
  | succ fuel hypothesis =>
      cases sources with
      | nil => exact framed.pair_refl pair
      | cons src rest =>
          unfold Vector.insertElements
          rw [bind_of_ok (get_apply pair)]
          split
          · rw [← bind_assoc]
            apply Moves.bind_at framed.pair_trans (framed.consume isAbleOther _ src current)
            exact fun _ middle moved =>
              hypothesis (moved.manager ▸ isAble) (moved.other ▸ isAbleOther)
          · apply Moves.bind_at framed.pair_trans (onThis (framed.reserveInternal isAble _))
            intro _ middle moved
            exact hypothesis (moved.manager ▸ isAble) (moved.other ▸ isAbleOther)

theorem displaceEach (framed : Framed environment able related) {i n : Nat}
    (isAble : able pair.other.m_AllocationManager) :
    pair.Framed related (final (Vector.displaceEach environment i n pair)) := by
  induction n generalizing i pair with
  | zero => exact framed.pair_refl pair
  | succ n hypothesis =>
      unfold Vector.displaceEach
      rw [bind_of_ok (get_apply pair), ← bind_assoc]
      apply Moves.bind_at framed.pair_trans (framed.displaceOne isAble _)
      exact fun _ middle moved => hypothesis (moved.other ▸ isAble)

theorem displaceTail (framed : Framed environment able related)
    (isAble : able pair.other.m_AllocationManager) (currentOffset n : Nat) :
    pair.Framed related
      (final (Vector.displaceTail environment currentOffset n pair)) := by
  unfold Vector.displaceTail
  split
  · exact framed.displaceEach isAble
  · rw [bind_of_ok (get_apply pair)]
    apply onOther
    unfold Vector.pushBackN
    split
    · exact framed.store_refl _
    · exact framed.append isAble n fun _ =>
        transferToRawNoOverlap_storage environment .copy _ _ n

theorem displaceRest (framed : Framed environment able related)
    (isAble : able pair.other.m_AllocationManager) (oldDataSize currentOffset : Nat) :
    pair.Framed related (final (onlyIf (currentOffset < oldDataSize)
      (Vector.displaceTail environment currentOffset (oldDataSize - currentOffset)) pair)) := by
  unfold onlyIf
  split
  · exact framed.displaceTail isAble _ _
  · exact framed.pair_refl pair

theorem cut (framed : Framed environment able related)
    (isAble : able pair.other.m_AllocationManager) (oldDataSize currentOffset : Nat) :
    pair.Framed related (final ((onlyIf (currentOffset < oldDataSize)
        (Vector.displaceTail environment currentOffset (oldDataSize - currentOffset)) >>=
      fun _ => Pair.onThis (Vector.setDataSize currentOffset)) pair)) := by
  apply Moves.bind_at framed.pair_trans (framed.displaceRest isAble _ _)
  exact fun _ middle _ => onThis (framed.setDataSize _ _)

theorem takeBack (framed : Framed environment able related)
    (isAble : able pair.vector.m_AllocationManager) (currentOffset : Nat) :
    pair.Framed related (final ((do
      let temp := (← get).other
      Pair.onThis (Vector.addSpaceIfNeed environment temp.m_dataSize)
      let vector := (← get).vector
      Pair.onMemory (moveToRawNoOverlap environment (vector.m_p + currentOffset) temp.m_p
        temp.m_dataSize)
      Pair.onThis (Vector.setDataSize (currentOffset + temp.m_dataSize)) : Proc (Pair α) Unit)
        pair)) := by
  rw [bind_of_ok (get_apply pair)]
  apply Moves.bind_at framed.pair_trans (onThis (framed.addSpaceIfNeed isAble _))
  intro _ grown _
  rw [bind_of_ok (get_apply grown)]
  apply Moves.bind_at framed.pair_trans (onBoth (framed.elements
    (transferToRawNoOverlap_storage environment .move _ _ _)) grown)
  exact fun _ last _ => onThis (framed.setDataSize _ _)

theorem appendDisplaced (framed : Framed environment able related)
    (isAble : able pair.vector.m_AllocationManager)
    (isAbleOther : able pair.other.m_AllocationManager) (oldDataSize currentOffset : Nat) :
    pair.Framed related
      (final (Vector.appendDisplaced environment oldDataSize currentOffset pair)) := by
  unfold Vector.appendDisplaced
  rw [← bind_assoc]
  apply Moves.bind_at framed.pair_trans (framed.cut isAbleOther _ _)
  exact fun _ middle moved => framed.takeBack (moved.manager ▸ isAble) _

end Pairs

section Ranges

variable {store : Store α}

theorem withTemp_final (framed : Framed environment able related) {body : Proc (Pair α) β}
    {ended : Pair α}
    (isEnded : final (body ⟨store.memory, store.vector,
      Vector.empty store.vector.m_AllocationManager.fresh⟩) = ended) :
    Store.Framed related ⟨ended.memory, ended.vector⟩
      (final (Vector.withTemp environment body store)) := by
  have cleaned : Moves (Pair.Framed related)
      (Pair.onOther (Vector.invalidate environment)) :=
    fun pair => onOther (framed.invalidate _)
  have moved : Pair.Framed related ended (final ((do
      let result ← onFailure body (Pair.onOther (Vector.invalidate environment))
      Pair.onOther (Vector.invalidate environment)
      return result : Proc (Pair α) β) ⟨store.memory, store.vector,
        Vector.empty store.vector.m_AllocationManager.fresh⟩)) := by
    rw [← isEnded]
    apply framed.pair_trans _ _ _ (onFailure_final framed.pair_refl cleaned)
    exact Moves.bind_final framed.pair_refl fun result =>
      Moves.bind framed.pair_trans cleaned fun _ => Moves.pure framed.pair_refl result
  unfold Vector.withTemp
  dsimp only
  split
  · rename_i result after ran
    rw [ran] at moved
    exact ⟨moved.memory, moved.manager⟩
  · rename_i fault after ran
    rw [ran] at moved
    exact ⟨moved.memory, moved.manager⟩

theorem appendIfAny (framed : Framed environment able related) {pair : Pair α}
    (isAble : able pair.vector.m_AllocationManager)
    (isAbleOther : able pair.other.m_AllocationManager) (condition : Prop)
    [Decidable condition] (oldDataSize currentOffset : Nat) :
    pair.Framed related (final (onlyIf condition
      (Vector.appendDisplaced environment oldDataSize currentOffset) pair)) := by
  unfold onlyIf
  split
  · exact framed.appendDisplaced isAble isAbleOther _ _
  · exact framed.pair_refl pair

theorem finish (framed : Framed environment able related) {pair : Pair α}
    (isAble : able pair.vector.m_AllocationManager)
    (isAbleOther : able pair.other.m_AllocationManager) (oldDataSize currentOffset : Nat) :
    pair.Framed related (final ((do
      onlyIf ((← get).other.m_dataSize ≠ 0)
        (Vector.appendDisplaced environment oldDataSize currentOffset)
      return (← get).vector.m_p + currentOffset : Proc (Pair α) Nat) pair)) := by
  rw [bind_of_ok (get_apply pair)]
  apply Moves.bind_at framed.pair_trans (framed.appendIfAny isAble isAbleOther _ _ _)
  exact fun _ after _ => framed.pair_refl after

theorem insertRange (framed : Framed environment able related)
    (isAble : able store.vector.m_AllocationManager) (fuel : Nat) (sources : List Nat)
    (destBegin : Nat) :
    store.Framed related
      (final (Vector.insertRange environment fuel sources destBegin store)) := by
  unfold Vector.insertRange
  rw [bind_of_ok (get_apply store)]
  split
  · exact framed.store_refl store
  refine framed.store_trans _ _ _ ?_ (framed.withTemp_final rfl)
  suffices moved : Pair.Framed related ⟨store.memory, store.vector,
      Vector.empty store.vector.m_AllocationManager.fresh⟩ _ from ⟨moved.memory, moved.manager⟩
  apply Moves.bind_at framed.pair_trans
    (framed.insertElements isAble (framed.fresh isAble))
  exact fun _ middle moved =>
    framed.finish (moved.manager ▸ isAble) (moved.other ▸ framed.fresh isAble) _ _

end Ranges

end Framed

end CommonSerialization.Containers
