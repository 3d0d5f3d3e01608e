import CommonSerialization.Containers.AllocationManagers

namespace CommonSerialization.Containers

open StateExcept Storage

/-! What every computation on elements leaves as it is: the storage they are in. -/

structure SameStorage (before after : Memory α) : Prop where
  mapped : ∀ address, (after.slots address).mapped = (before.slots address).mapped
  blocks : after.blocks = before.blocks
  requests : after.requests = before.requests
  ungranted : after.ungranted = before.ungranted
  denied : after.denied = before.denied
  constructions : before.constructions ≤ after.constructions

namespace SameStorage

theorem refl (memory : Memory α) : SameStorage memory memory :=
  ⟨fun _ => rfl, rfl, rfl, rfl, rfl, Nat.le_refl _⟩

theorem trans {before middle after : Memory α} (first : SameStorage before middle)
    (second : SameStorage middle after) : SameStorage before after where
  mapped := fun address => (second.mapped address).trans (first.mapped address)
  blocks := second.blocks.trans first.blocks
  requests := second.requests.trans first.requests
  ungranted := second.ungranted.trans first.ungranted
  denied := second.denied.trans first.denied
  constructions := Nat.le_trans first.constructions second.constructions

theorem mappedRange {before after : Memory α} (same : SameStorage before after)
    {base n : Nat} (mapped : Mapped before.slots base n) :
    Mapped after.slots base n := by
  intro index bound
  rw [same.mapped]
  exact mapped index bound

theorem put {memory : Memory α} {address : Nat} {slot : Slot α}
    (mapped : (memory.slots address).mapped) (mappedSlot : slot.mapped) :
    SameStorage memory (memory.put address slot) where
  mapped := by
    intro other
    by_cases same : other = address
    · rw [same, Memory.put_self, mapped, mappedSlot]
    · rw [Memory.put_of_ne memory same]
  blocks := rfl
  requests := rfl
  ungranted := rfl
  denied := rfl
  constructions := Nat.le_refl _

theorem note (memory : Memory α) (action : Action) (address : Nat) :
    SameStorage memory (memory.note action address) :=
  ⟨fun _ => rfl, rfl, rfl, rfl, rfl, Nat.le_refl _⟩

end SameStorage

/-- A computation has returned, with a value or a status, and the storage is as it
was. -/
def KeptBy (before : Memory α) : EStateM.Result Fault (Memory α) β → Prop
  | .ok _ after => SameStorage before after
  | .error (.status _) after => SameStorage before after
  | .error _ _ => False

namespace KeptBy

variable {memory : Memory α}

theorem bind {first : MProc α β} {next : β → MProc α γ}
    (kept : KeptBy memory (first memory))
    (later : ∀ value middle, SameStorage memory middle →
      KeptBy middle (next value middle)) :
    KeptBy memory ((first >>= next) memory) := by
  cases ran : first memory with
  | ok value middle =>
      rw [bind_of_ok ran]
      rw [ran] at kept
      have ended := later value middle kept
      cases ranNext : next value middle with
      | ok _ after =>
          rw [ranNext] at ended
          exact SameStorage.trans kept ended
      | error fault after =>
          rw [ranNext] at ended
          cases fault with
          | status status => exact SameStorage.trans kept ended
          | exception => exact ended.elim
          | undefinedBehaviour => exact ended.elim
          | outOfFuel => exact ended.elim
  | error fault middle =>
      rw [bind_of_error ran]
      rw [ran] at kept
      cases fault with
      | status status => exact kept
      | exception => exact kept.elim
      | undefinedBehaviour => exact kept.elim
      | outOfFuel => exact kept.elim

theorem onFailure {proc : MProc α β} {cleanup : MProc α Unit}
    (kept : KeptBy memory (proc memory))
    (cleaned : ∀ failed, SameStorage memory failed → KeptBy failed (cleanup failed)) :
    KeptBy memory (onFailure proc cleanup memory) := by
  cases ran : proc memory with
  | ok value after =>
      rw [onFailure_of_ok ran]
      rwa [ran] at kept
  | error fault failed =>
      rw [ran] at kept
      cases fault with
      | status status =>
          have ended := cleaned failed kept
          cases ranCleanup : cleanup failed with
          | ok value after =>
              rw [onFailure_of_status ran ranCleanup]
              rw [ranCleanup] at ended
              exact SameStorage.trans kept ended
          | error fault after =>
              rw [onFailure_of_failure ran ranCleanup]
              rw [ranCleanup] at ended
              cases fault with
              | status status => exact SameStorage.trans kept ended
              | exception => exact ended.elim
              | undefinedBehaviour => exact ended.elim
              | outOfFuel => exact ended.elim
      | exception => exact kept.elim
      | undefinedBehaviour => exact kept.elim
      | outOfFuel => exact kept.elim

end KeptBy

section Elements

variable {environment : Environment α} {memory : Memory α} {address : Nat}

theorem access_of_mapped (mapped : (memory.slots address).mapped) :
    access address memory = .ok () memory := by
  unfold access
  rw [bind_of_ok (get_apply memory), if_pos mapped]
  rfl

theorem take_of_mapped (mapped : (memory.slots address).mapped) :
    take environment address memory = .ok (memory.slots address).value?
      (memory.note (if environment.elements.constructorAllocator then .taken else .read)
        address) := by
  unfold take
  rw [bind_of_ok (access_of_mapped mapped)]
  rfl

theorem write_of_mapped (mapped : (memory.slots address).mapped) (value : Option α) :
    write address value memory =
      .ok () ((memory.note .written address).put address (.ofValue value)) := by
  unfold write
  rw [bind_of_ok (access_of_mapped mapped)]
  rfl

theorem construct_of_mapped (mapped : (memory.slots address).mapped)
    (value : Option α) (accepted : environment.refusal memory.constructions = none) :
    construct environment address value memory =
      .ok () { (memory.note .constructed address).put address (.ofValue value) with
        constructions := memory.constructions + 1 } := by
  unfold construct
  rw [bind_of_ok (access_of_mapped mapped), bind_of_ok (get_apply memory), accepted]
  rfl

theorem construct_of_refusal (mapped : (memory.slots address).mapped)
    (value : Option α) {refusal : Refusal α}
    (refused : environment.refusal memory.constructions = some refusal) :
    construct environment address value memory =
      .error (.status refusal.status)
        { (memory.note .refused address).put address (.ofValue refusal.left) with
          constructions := memory.constructions + 1 } := by
  unfold construct
  rw [bind_of_ok (access_of_mapped mapped), bind_of_ok (get_apply memory), refused]
  rfl

theorem take_kept (mapped : (memory.slots address).mapped) :
    KeptBy memory (take environment address memory) := by
  rw [take_of_mapped mapped]
  exact SameStorage.note memory _ address

theorem write_kept (mapped : (memory.slots address).mapped) (value : Option α) :
    KeptBy memory (write address value memory) := by
  rw [write_of_mapped mapped]
  exact (SameStorage.note memory _ address).trans
    (SameStorage.put mapped (Slot.mapped_ofValue value))

theorem construct_kept (mapped : (memory.slots address).mapped) (value : Option α) :
    KeptBy memory (construct environment address value memory) := by
  have stored (action : Action) (slot : Option α) : SameStorage memory
      { (memory.note action address).put address (.ofValue slot) with
        constructions := memory.constructions + 1 } := by
    have same := (SameStorage.note memory action address).trans
      (SameStorage.put mapped (Slot.mapped_ofValue slot))
    exact ⟨same.mapped, same.blocks, same.requests, same.ungranted, same.denied,
      Nat.le_succ _⟩
  cases refused : environment.refusal memory.constructions with
  | none =>
      rw [construct_of_mapped mapped value refused]
      exact stored _ _
  | some refusal =>
      rw [construct_of_refusal mapped value refused]
      exact stored _ _

theorem leave_kept (transfer : Transfer) (change : α → α)
    (mapped : (memory.slots address).mapped) :
    KeptBy memory (leave transfer change address memory) := by
  cases transfer with
  | copy => exact SameStorage.refl memory
  | move => exact SameStorage.put mapped (by rwa [Slot.mapped_map])

theorem constructFrom_kept (transfer : Transfer) {dest src : Nat}
    (destMapped : (memory.slots dest).mapped) (srcMapped : (memory.slots src).mapped) :
    KeptBy memory (constructFrom environment transfer dest src memory) := by
  unfold constructFrom
  apply KeptBy.bind (take_kept srcMapped)
  intro value taken sameTaken
  apply KeptBy.bind
  · apply KeptBy.onFailure
    · exact construct_kept (by rwa [sameTaken.mapped]) value
    · intro failed sameFailed
      exact leave_kept transfer _ (by rwa [sameFailed.mapped, sameTaken.mapped])
  · intro _ made sameMade
    exact leave_kept transfer _ (by rwa [sameMade.mapped, sameTaken.mapped])

theorem destroy_of_mapped (mapped : (memory.slots address).mapped)
    (constructors : environment.elements.constructorAllocator = true) :
    destroy environment address memory =
      .ok () ((memory.note .destroyed address).put address .vacant) := by
  unfold destroy
  rw [if_pos constructors, bind_of_ok (access_of_mapped mapped)]
  rfl

theorem destroy_kept (mapped : (memory.slots address).mapped) :
    KeptBy memory (destroy environment address memory) := by
  cases constructors : environment.elements.constructorAllocator with
  | true =>
      rw [destroy_of_mapped mapped constructors]
      exact (SameStorage.note memory _ address).trans (SameStorage.put mapped rfl)
  | false =>
      unfold destroy
      rw [constructors]
      exact SameStorage.refl memory

theorem destroyIf_kept (dirty : Bool) (mapped : (memory.slots address).mapped) :
    KeptBy memory (destroyIf environment dirty address memory) := by
  unfold destroyIf
  split
  · exact destroy_kept mapped
  · exact SameStorage.refl memory

theorem destroyFrom_kept {p n : Nat} (mapped : Mapped memory.slots p n) :
    KeptBy memory (destroyFrom environment p n memory) := by
  induction n generalizing p memory with
  | zero => exact SameStorage.refl memory
  | succ n hypothesis =>
      apply KeptBy.bind (destroy_kept (mapped 0 (Nat.succ_pos n)))
      intro _ middle same
      apply hypothesis
      intro index bound
      rw [same.mapped, Nat.add_right_comm]
      exact mapped (index + 1) (Nat.succ_lt_succ bound)

theorem destroyN_kept {p n : Nat} (mapped : Mapped memory.slots p n) :
    KeptBy memory (destroyN environment p n memory) := by
  unfold destroyN
  split
  · exact destroyFrom_kept mapped
  · exact SameStorage.refl memory

end Elements

section Transfers

variable {environment : Environment α} {memory : Memory α} {dest src n : Nat}

theorem transferUpward_kept (transfer : Transfer) (clears : Nat → Bool) {done : Nat}
    (destMapped : Mapped memory.slots dest (done + n))
    (srcMapped : Mapped memory.slots src (done + n)) :
    KeptBy memory (transferUpward environment transfer clears dest src done n memory) := by
  induction n generalizing done memory with
  | zero => exact SameStorage.refl memory
  | succ n hypothesis =>
      unfold transferUpward
      have destCurrent := destMapped done (by omega)
      have srcCurrent := srcMapped done (by omega)
      apply KeptBy.bind
      · exact destroyIf_kept _ destCurrent
      · intro _ cleared sameCleared
        apply KeptBy.bind
        · apply KeptBy.onFailure
          · apply constructFrom_kept
            · rwa [sameCleared.mapped]
            · rwa [sameCleared.mapped]
          · intro failed sameFailed
            apply destroyN_kept
            intro index bound
            rw [sameFailed.mapped, sameCleared.mapped]
            exact destMapped index (by omega)
        · intro _ made sameMade
          have same := sameCleared.trans sameMade
          apply hypothesis
          · rw [Nat.add_right_comm]
            exact same.mappedRange destMapped
          · rw [Nat.add_right_comm]
            exact same.mappedRange srcMapped

theorem transferDownward_kept (transfer : Transfer) (clears : Nat → Bool) {left : Nat}
    (bound : left ≤ n) (destMapped : Mapped memory.slots dest n)
    (srcMapped : Mapped memory.slots src n) :
    KeptBy memory
      (transferDownward environment transfer clears dest src n left memory) := by
  induction left generalizing memory with
  | zero => exact SameStorage.refl memory
  | succ index hypothesis =>
      unfold transferDownward
      have destCurrent := destMapped index (by omega)
      have srcCurrent := srcMapped index (by omega)
      apply KeptBy.bind
      · exact destroyIf_kept _ destCurrent
      · intro _ cleared sameCleared
        apply KeptBy.bind
        · apply KeptBy.onFailure
          · apply constructFrom_kept
            · rwa [sameCleared.mapped]
            · rwa [sameCleared.mapped]
          · intro failed sameFailed
            apply destroyN_kept
            intro later laterBound
            rw [sameFailed.mapped, sameCleared.mapped, Nat.add_assoc, Nat.add_assoc]
            exact destMapped (index + (1 + later)) (by omega)
        · intro _ made sameMade
          have same := sameCleared.trans sameMade
          exact hypothesis (by omega) (same.mappedRange destMapped)
            (same.mappedRange srcMapped)

theorem memmove_of_mapped
    (fits : n * environment.elements.size < environment.elements.sizeRange)
    (destMapped : Mapped memory.slots dest n) (srcMapped : Mapped memory.slots src n) :
    memmove environment.elements dest src n memory =
      .ok () (memory.copyOctets dest src n) := by
  unfold memmove
  rw [bind_of_ok (get_apply memory), if_pos ⟨fits, srcMapped, destMapped⟩]
  rfl

theorem copyOctets_kept (destMapped : Mapped memory.slots dest n)
    (srcMapped : Mapped memory.slots src n) :
    SameStorage memory (memory.copyOctets dest src n) where
  mapped := by
    intro address
    unfold Memory.copyOctets
    dsimp only
    split
    · rename_i inside
      have stored := destMapped (address - dest) (by unfold Within at inside; omega)
      have taken := srcMapped (address - dest) (by unfold Within at inside; omega)
      rw [Nat.add_sub_cancel' inside.1] at stored
      rw [taken, stored]
    · rfl
  blocks := rfl
  requests := rfl
  ungranted := rfl
  denied := rfl
  constructions := Nat.le_refl _

theorem memmove_kept
    (fits : n * environment.elements.size < environment.elements.sizeRange)
    (destMapped : Mapped memory.slots dest n) (srcMapped : Mapped memory.slots src n) :
    KeptBy memory (memmove environment.elements dest src n memory) := by
  rw [memmove_of_mapped fits destMapped srcMapped]
  exact copyOctets_kept destMapped srcMapped

structure OctetsMovable (elements : Elements) (dest src n : Nat) : Prop where
  fits : n * elements.size < elements.sizeRange
  apart : dest = src ∨ areRegionsOverlap dest src n = false

theorem memcpy_of_movable (movable : OctetsMovable environment.elements dest src n)
    (destMapped : Mapped memory.slots dest n) (srcMapped : Mapped memory.slots src n) :
    memcpy environment.elements dest src n memory =
      .ok () (memory.copyOctets dest src n) := by
  unfold memcpy
  rw [if_neg, memmove_of_mapped movable.fits destMapped srcMapped]
  intro overlap
  obtain same | apart := movable.apart
  · exact overlap.1 same
  · rw [apart] at overlap
    exact Bool.false_ne_true overlap.2

theorem transferToRawNoOverlap_kept (transfer : Transfer)
    (movable : environment.elements.constructorAllocator = false →
      OctetsMovable environment.elements dest src n)
    (destMapped : Mapped memory.slots dest n) (srcMapped : Mapped memory.slots src n) :
    KeptBy memory (transferToRawNoOverlap environment transfer dest src n memory) := by
  unfold transferToRawNoOverlap
  cases constructors : environment.elements.constructorAllocator with
  | true =>
      apply transferUpward_kept
      · rwa [Nat.zero_add]
      · rwa [Nat.zero_add]
  | false =>
      rw [if_neg Bool.false_ne_true,
        memcpy_of_movable (movable constructors) destMapped srcMapped]
      exact copyOctets_kept destMapped srcMapped

end Transfers

section Always

def KeepsStorage (proc : MProc α β) : Prop := Moves SameStorage proc

namespace KeepsStorage

theorem pure (value : β) : KeepsStorage (Pure.pure value : MProc α β) :=
  Moves.pure SameStorage.refl value

theorem throw (fault : Fault) : KeepsStorage (throw fault : MProc α β) :=
  Moves.throw SameStorage.refl fault

theorem bind {first : MProc α β} {next : β → MProc α γ} (keeps : KeepsStorage first)
    (later : ∀ value, KeepsStorage (next value)) : KeepsStorage (first >>= next) :=
  Moves.bind (fun _ _ _ first second => first.trans second) keeps later

theorem ite {condition : Prop} [Decidable condition] {first second : MProc α β}
    (yes : condition → KeepsStorage first) (no : ¬condition → KeepsStorage second) :
    KeepsStorage (if condition then first else second) :=
  Moves.ite yes no

theorem onFailure {proc : MProc α β} {cleanup : MProc α Unit} (keeps : KeepsStorage proc)
    (keepsCleanup : KeepsStorage cleanup) : KeepsStorage (onFailure proc cleanup) :=
  onFailure_moves SameStorage.refl (fun _ _ _ first second => first.trans second) keeps
    keepsCleanup

theorem counted {proc : MProc α β} (keeps : KeepsStorage proc) :
    Preserves Memory.denied proc :=
  fun memory => (keeps memory).denied

theorem ran {proc : MProc α β} (keeps : KeepsStorage proc) {memory after : Memory α} {value : β}
    (ran : proc memory = .ok value after) : SameStorage memory after := by
  have same := keeps memory
  rw [ran] at same
  exact same

theorem access_bind {address : Nat} {next : MProc α β}
    (later : ∀ memory, (memory.slots address).mapped → SameStorage memory (final (next memory))) :
    KeepsStorage (access address >>= fun _ => next) := by
  intro memory
  by_cases mapped : (memory.slots address).mapped
  · rw [bind_of_ok (access_of_mapped mapped)]
    exact later memory mapped
  · have astray : access address memory = .error .undefinedBehaviour memory := by
      unfold access
      rw [bind_of_ok (get_apply memory), if_neg mapped]
      rfl
    rw [bind_of_error astray]
    exact SameStorage.refl memory

end KeepsStorage

variable (environment : Environment α)

theorem take_storage (address : Nat) : KeepsStorage (take environment address) :=
  KeepsStorage.access_bind fun memory _ => SameStorage.note memory _ address

theorem write_storage (address : Nat) (value : Option α) :
    KeepsStorage (write address value) :=
  KeepsStorage.access_bind fun memory mapped => (SameStorage.note memory _ address).trans
    (SameStorage.put mapped (Slot.mapped_ofValue value))

theorem construct_storage (address : Nat) (value : Option α) :
    KeepsStorage (construct environment address value) := by
  apply KeepsStorage.access_bind
  intro memory mapped
  have stored (action : Action) (slot : Option α) := (SameStorage.note memory action address).trans
    (SameStorage.put mapped (Slot.mapped_ofValue slot))
  rw [bind_of_ok (get_apply memory)]
  cases environment.refusal memory.constructions with
  | none =>
      have same := stored .constructed value
      exact ⟨same.mapped, same.blocks, same.requests, same.ungranted, same.denied,
        Nat.le_succ _⟩
  | some refusal =>
      have same := stored .refused refusal.left
      exact ⟨same.mapped, same.blocks, same.requests, same.ungranted, same.denied,
        Nat.le_succ _⟩

theorem leave_storage (transfer : Transfer) (change : α → α) (src : Nat) :
    KeepsStorage (leave transfer change src) := by
  cases transfer with
  | copy => exact KeepsStorage.pure ()
  | move =>
      intro memory
      refine ⟨fun address => ?_, rfl, rfl, rfl, rfl, Nat.le_refl _⟩
      show ((memory.put src ((memory.slots src).map change)).slots address).mapped = _
      by_cases same : address = src
      · rw [same, Memory.put_self, Slot.mapped_map]
      · rw [Memory.put_of_ne memory same]

theorem constructFrom_storage (transfer : Transfer) (dest src : Nat) :
    KeepsStorage (constructFrom environment transfer dest src) := by
  apply KeepsStorage.bind (take_storage environment src)
  intro value
  apply KeepsStorage.bind
  · exact KeepsStorage.onFailure (construct_storage environment dest value)
      (leave_storage transfer _ src)
  · exact fun _ => leave_storage transfer _ src

theorem destroy_storage (address : Nat) : KeepsStorage (destroy environment address) := by
  apply KeepsStorage.ite
  · intro _
    exact KeepsStorage.access_bind fun memory mapped =>
      (SameStorage.note memory _ address).trans (SameStorage.put mapped rfl)
  · exact fun _ => KeepsStorage.pure ()

theorem destroyFrom_storage (p n : Nat) : KeepsStorage (destroyFrom environment p n) := by
  induction n generalizing p with
  | zero => exact KeepsStorage.pure ()
  | succ n hypothesis =>
      exact KeepsStorage.bind (destroy_storage environment p) fun _ => hypothesis (p + 1)

theorem destroyN_storage (p n : Nat) : KeepsStorage (destroyN environment p n) := by
  apply KeepsStorage.ite
  · exact fun _ => destroyFrom_storage environment p n
  · exact fun _ => KeepsStorage.pure ()

theorem destroyIf_storage (dirty : Bool) (address : Nat) :
    KeepsStorage (destroyIf environment dirty address) := by
  apply KeepsStorage.ite
  · exact fun _ => destroy_storage environment address
  · exact fun _ => KeepsStorage.pure ()

theorem transferUpward_storage (transfer : Transfer) (clears : Nat → Bool)
    (dest src done n : Nat) :
    KeepsStorage (transferUpward environment transfer clears dest src done n) := by
  induction n generalizing done with
  | zero => exact KeepsStorage.pure ()
  | succ n hypothesis =>
      apply KeepsStorage.bind (destroyIf_storage environment _ _)
      intro _
      apply KeepsStorage.bind
      · exact KeepsStorage.onFailure (constructFrom_storage environment transfer _ _)
          (destroyN_storage environment dest done)
      · exact fun _ => hypothesis (done + 1)

theorem transferDownward_storage (transfer : Transfer) (clears : Nat → Bool)
    (dest src n left : Nat) :
    KeepsStorage (transferDownward environment transfer clears dest src n left) := by
  induction left with
  | zero => exact KeepsStorage.pure ()
  | succ index hypothesis =>
      apply KeepsStorage.bind (destroyIf_storage environment _ _)
      intro _
      apply KeepsStorage.bind
      · exact KeepsStorage.onFailure (constructFrom_storage environment transfer _ _)
          (destroyN_storage environment _ _)
      · exact fun _ => hypothesis

theorem memmove_storage (elements : Elements) (dest src n : Nat) :
    KeepsStorage (memmove elements dest src n : MProc α Unit) := by
  intro memory
  unfold memmove
  rw [bind_of_ok (get_apply memory)]
  split
  · rename_i movable
    exact copyOctets_kept movable.2.2 movable.2.1
  · exact SameStorage.refl memory

theorem memcpy_storage (elements : Elements) (dest src n : Nat) :
    KeepsStorage (memcpy elements dest src n : MProc α Unit) := by
  apply KeepsStorage.ite
  · exact fun _ => KeepsStorage.throw _
  · exact fun _ => memmove_storage elements dest src n

theorem transferToRawNoOverlap_storage (transfer : Transfer) (dest src n : Nat) :
    KeepsStorage (transferToRawNoOverlap environment transfer dest src n) := by
  apply KeepsStorage.ite
  · exact fun _ => transferUpward_storage environment transfer _ dest src 0 n
  · exact fun _ => memcpy_storage environment.elements dest src n

theorem transferToDirtyNoOverlap_storage (transfer : Transfer)
    (dest dirtyMemoryFinish src n : Nat) :
    KeepsStorage (transferToDirtyNoOverlap environment transfer dest dirtyMemoryFinish src n) := by
  apply KeepsStorage.ite
  · exact fun _ => transferUpward_storage environment transfer _ dest src 0 n
  · exact fun _ => memcpy_storage environment.elements dest src n

theorem transferToDirty_storage (transfer : Transfer) (dest dirtyMemoryFinish src n : Nat) :
    KeepsStorage (transferToDirty environment transfer dest dirtyMemoryFinish src n) := by
  have apart := transferToDirtyNoOverlap_storage environment transfer dest dirtyMemoryFinish
    src n
  apply KeepsStorage.ite
  · exact fun _ => KeepsStorage.pure ()
  · intro _
    apply KeepsStorage.ite
    · intro _
      apply KeepsStorage.ite
      · intro _
        apply KeepsStorage.ite
        · exact fun _ => apart
        · exact fun _ => transferDownward_storage environment transfer _ dest src n n
      · exact fun _ => memmove_storage environment.elements dest src n
    · exact fun _ => apart

end Always

/-! Only storage is filled. -/

section Filled

variable {environment : Environment α} {transfer : Transfer} {memory after : Memory α}
  {dest src n : Nat}

theorem access_eq_ok {address : Nat} (ran : access address memory = .ok () after) :
    (memory.slots address).mapped := by
  unfold access at ran
  rw [bind_of_ok (get_apply memory)] at ran
  by_contra astray
  rw [if_neg astray] at ran
  cases ran

theorem constructFrom_mapped
    (ran : constructFrom environment transfer dest src memory = .ok () after) :
    (memory.slots dest).mapped := by
  obtain ⟨value, taken, ranTake, ran⟩ := bind_eq_ok ran
  obtain ⟨_, built, ranBuild, _⟩ := bind_eq_ok ran
  obtain ⟨_, _, ranAccess, _⟩ := bind_eq_ok (onFailure_eq_ok ranBuild)
  rw [← ((take_storage environment src).ran ranTake).mapped]
  exact access_eq_ok ranAccess

theorem transferUpward_mapped {clears : Nat → Bool} {done : Nat}
    (ran : transferUpward environment transfer clears dest src done n memory = .ok () after)
    {index : Nat} (lower : done ≤ index) (upper : index < done + n) :
    (memory.slots (dest + index)).mapped := by
  induction n generalizing done memory with
  | zero => omega
  | succ n hypothesis =>
      obtain ⟨_, cleared, ranClear, ran⟩ := bind_eq_ok ran
      obtain ⟨_, built, ranBuild, ran⟩ := bind_eq_ok ran
      have ranBuild := onFailure_eq_ok ranBuild
      rw [← ((destroyIf_storage environment _ _).ran ranClear).mapped]
      obtain here | later := Nat.eq_or_lt_of_le lower
      · rw [← here]
        exact constructFrom_mapped ranBuild
      · rw [← ((constructFrom_storage environment transfer _ _).ran ranBuild).mapped]
        exact hypothesis ran later (by omega)

theorem transferToRawNoOverlap_mapped
    (ran : transferToRawNoOverlap environment transfer dest src n memory = .ok () after) :
    Mapped memory.slots dest n := by
  intro index inside
  unfold transferToRawNoOverlap at ran
  split at ran
  · exact transferUpward_mapped ran (Nat.zero_le index) (by omega)
  · unfold memcpy at ran
    split at ran
    · cases ran
    · unfold memmove at ran
      rw [bind_of_ok (get_apply memory)] at ran
      split at ran
      · rename_i movable
        exact movable.2.2 index inside
      · cases ran

end Filled

end CommonSerialization.Containers
