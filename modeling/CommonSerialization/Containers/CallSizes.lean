import CommonSerialization.Containers.ListRuns

namespace CommonSerialization.Containers

open StateExcept Storage

/-! What every call on a vector does to its size. -/

namespace VectorCall

section Sizes

variable (environment : Environment α) (store : Store α) (size : Nat)

/-- The sizes that a call may leave if it returns a value. -/
def Sized : VectorCall α → Prop
  | init rhs | initMove rhs => size = rhs.m_dataSize
  | setSize n => size = n
  | reserve _ | copyN _ _ _ => size = store.vector.m_dataSize
  | pushBack _ | pushBackMove _ | emplaceBack _ => size = store.vector.m_dataSize + 1
  | pushBackN _ n => size = store.vector.m_dataSize + n
  | pushBackArithmeticValue value => size = store.vector.m_dataSize + value.length
  | replace _ n offset => size = max store.vector.m_dataSize (offset + n)
  | insert _ n _ => size = store.vector.m_dataSize + n
  | insertRange sources _ => size = store.vector.m_dataSize + sources.length
  | erase offset n => size = store.vector.m_dataSize - Vector.erasedN store offset n
  | eraseRange destBegin _ =>
      store.vector.m_p ≤ destBegin ∧ destBegin - store.vector.m_p ≤ size ∧
        size ≤ store.vector.m_dataSize
  | clear | invalidate | release => size = 0

def SizedFailed : VectorCall α → Prop
  | init _ => size = 0
  | insertRange _ destBegin =>
      size = store.vector.m_dataSize ∨
        store.vector.m_p ≤ destBegin ∧ destBegin - store.vector.m_p ≤ size
  | _ => size = store.vector.m_dataSize

end Sizes

section Calls

variable {environment : Environment α} {store : Store α} {call : VectorCall α}

def EndsSized (environment : Environment α) (store : Store α) (call : VectorCall α)
    (result : EStateM.Result Fault (Store α) Unit) : Prop :=
  Ended (fun _ after => Standing environment.elements after ∧
      call.Sized store after.vector.m_dataSize)
    (fun fault after => (∃ status, fault = .status status) ∧
      Standing environment.elements after ∧
      call.SizedFailed store after.vector.m_dataSize) result

theorem endsSized_of_kept {good bad : Nat → Prop}
    {result : EStateM.Result Fault (Store α) Unit}
    (ended : Vector.EndsKept environment.elements store good bad result)
    (sized : ∀ size, good size → call.Sized store size)
    (sizedFailed : ∀ size, bad size → call.SizedFailed store size) :
    EndsSized environment store call result := by
  apply ended.weaken
  · intro _ after kept
    exact ⟨kept.1.standing, sized _ kept.2⟩
  · intro fault after kept
    exact ⟨kept.1, kept.2.1.standing, sizedFailed _ kept.2.2⟩

theorem endsKept_ignore {proc : VProc α β} {good bad : Nat → Prop}
    (ended : Vector.EndsKept environment.elements store good bad (proc store)) :
    Vector.EndsKept environment.elements store good bad (ignore proc store) := by
  apply Ended.bind ended
  intro _ after kept
  exact kept

theorem insertRange_sized (standing : Standing environment.elements store)
    {sources : List Nat} {destBegin : Nat}
    (allowed : (insertRange sources destBegin).Allowed environment store) :
    EndsSized environment store (insertRange sources destBegin)
      (ignore (Vector.insertRange environment (2 * sources.length) sources destBegin)
        store) := by
  by_cases valid : store.vector.m_p ≤ destBegin ∧
      destBegin ≤ store.vector.m_p + store.vector.m_dataSize
  · apply endsSized_of_kept
      (endsKept_ignore (Vector.insertRange_kept standing allowed (Nat.le_refl _)))
    · exact fun _ same => same
    · intro size least
      exact .inr ⟨valid.1, by omega⟩
  · have refused : Vector.insertRange environment (2 * sources.length) sources destBegin store =
        .error (.status .errorOverflow) store := by
      unfold Vector.insertRange
      rw [bind_of_ok (get_apply store), if_pos]
      · rfl
      · simp only [Vector.isIteratorNotDereferenceable, Bool.or_eq_true, decide_eq_true_eq]
        omega
    unfold ignore
    rw [bind_of_error refused]
    exact ⟨⟨_, rfl⟩, standing, .inl rfl⟩

theorem eraseRange_sized (standing : Standing environment.elements store)
    {destBegin destEnd : Nat}
    (allowed : (eraseRange destBegin destEnd).Allowed environment store) :
    EndsSized environment store (eraseRange destBegin destEnd)
      (Vector.eraseRange environment destBegin destEnd store) := by
  by_cases inside : store.vector.m_p ≤ destBegin
  · apply endsSized_of_kept (Vector.eraseRange_kept standing allowed)
    · exact fun _ bounds => ⟨inside, bounds⟩
    · exact fun _ same => same
  · unfold Vector.eraseRange
    rw [bind_of_ok (get_apply store)]
    split
    · exact ⟨⟨_, rfl⟩, standing, rfl⟩
    · have outside : store.vector.isIteratorNotDereferenceable destBegin = true := by
        simp only [Vector.isIteratorNotDereferenceable, Bool.or_eq_true, decide_eq_true_eq]
        exact .inl (Nat.not_le.mp inside)
      rw [if_pos outside]
      exact ⟨⟨_, rfl⟩, standing, rfl⟩

theorem initMove_sized (standing : Standing environment.elements store) {rhs : Vector}
    (allowed : TakeAllowed environment.elements store rhs) :
    EndsSized environment store (initMove rhs) (takeFrom environment rhs store) := by
  obtain ⟨memory, ran, _⟩ := Vector.destroyAndDeallocate_kept environment standing
  have ended := takeFrom_standing standing allowed
  rw [takeFrom_run ran] at ended ⊢
  exact ⟨ended, rfl⟩

theorem run_sized (standing : Standing environment.elements store) (call : VectorCall α)
    (allowed : call.Allowed environment store) :
    EndsSized environment store call (call.run environment store) := by
  have one := environment.elements.one_lt_sizeRange
  cases call with
  | init rhs =>
      exact endsSized_of_kept (Vector.init_kept standing allowed) (fun _ same => same)
        fun _ same => same
  | initMove rhs => exact initMove_sized standing allowed
  | setSize n =>
      exact endsSized_of_kept (Vector.setSize_kept standing allowed) (fun _ same => same)
        fun _ same => same
  | reserve n =>
      exact endsSized_of_kept (Vector.reserveInternal_kept standing true allowed)
        (fun _ same => same) fun _ same => same
  | pushBack value =>
      exact endsSized_of_kept (Vector.pushBack_kept standing one allowed)
        (fun _ same => same) fun _ same => same
  | pushBackMove value =>
      exact endsSized_of_kept (Vector.pushBackMove_kept standing one allowed)
        (fun _ same => same) fun _ same => same
  | pushBackN p n =>
      exact endsSized_of_kept (Vector.pushBackN_kept standing allowed.1 allowed.2)
        (fun _ same => same) fun _ same => same
  | pushBackArithmeticValue value =>
      exact endsSized_of_kept
        (Vector.pushBackArithmeticValue_kept standing allowed.1 allowed.2)
        (fun _ same => same) fun _ same => same
  | emplaceBack value =>
      exact endsSized_of_kept (Vector.emplaceBack_kept standing one allowed value)
        (fun _ same => same) fun _ same => same
  | replace p n offset =>
      exact endsSized_of_kept (endsKept_ignore (Vector.replace_kept standing allowed))
        (fun _ same => same) fun _ same => same
  | insert p n offset =>
      exact endsSized_of_kept
        (endsKept_ignore (Vector.insert_kept standing allowed.1 allowed.2))
        (fun _ same => same) fun _ same => same
  | insertRange sources destBegin => exact insertRange_sized standing allowed
  | erase offset n =>
      exact endsSized_of_kept (Vector.erase_kept standing allowed.inRange allowed.short)
        (fun _ same => same) fun _ same => same
  | eraseRange destBegin destEnd => exact eraseRange_sized standing allowed
  | copyN offset n p =>
      have kept : Vector.EndsKept environment.elements store
          (· = store.vector.m_dataSize) (· = store.vector.m_dataSize)
          (Vector.copyN environment offset n p store) := by
        apply (Vector.copyN_kept standing allowed).weaken
        · intro _ after still
          exact ⟨still.1.kept standing, congrArg Vector.m_dataSize still.1.vector⟩
        · intro fault after still
          exact ⟨still.1, still.2.kept standing,
            congrArg Vector.m_dataSize still.2.vector⟩
      exact endsSized_of_kept (endsKept_ignore kept) (fun _ same => same) fun _ same => same
  | clear =>
      obtain ⟨after, ran, same⟩ := Vector.clear_kept environment standing
      show EndsSized _ _ _ (Vector.clear environment store)
      rw [ran]
      exact ⟨(Kept.sameStorage standing same (Nat.zero_le _)).standing, rfl⟩
  | invalidate =>
      obtain ⟨after, ran, kept⟩ := Vector.invalidate_kept environment standing
      show EndsSized _ _ _ (Vector.invalidate environment store)
      rw [ran]
      exact ⟨kept.standing, rfl⟩
  | release =>
      obtain ⟨after, ran, kept, none⟩ := Vector.release_kept environment standing
      show EndsSized _ _ _ (ignore Vector.release store)
      unfold ignore
      rw [bind_of_ok ran]
      exact ⟨kept.standing, none⟩

end Calls

end VectorCall

end CommonSerialization.Containers
