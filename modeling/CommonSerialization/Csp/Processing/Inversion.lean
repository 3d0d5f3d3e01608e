import CommonSerialization.Csp.Images
import CommonSerialization.Csp.Processing.BodyProcessor

namespace CommonSerialization.Csp.BodyProcessor

open Chunks StateExcept

/-! What a successful step of a deserialization has done. -/

theorem length_overwrite (platform : Platform) (type : Ty P) (octets : List UInt8)
    (targets : List type.Obj) :
    (overwrite platform type octets targets).length =
      targets.length := by
  simp [overwrite]

theorem flatMap_overwrite {type : Ty P} (plain : type.plain)
    (platform : Platform) (octets : List UInt8) (targets : List type.Obj)
    (sized : octets.length = type.sizeof * targets.length) :
    (overwrite platform type octets targets).flatMap (type.image platform) =
      octets := by
  have covered :
      (targets.flatMap (type.image platform)).length = octets.length := by
    rw [length_flatMap fun object _ => Ty.length_image platform type plain _,
      sized]
  have windows := flatMap_windows (Ty.image_ofImage platform type plain)
    targets.length octets (by rw [sized])
  rw [List.take_of_length_le (by rw [sized])] at windows
  rw [overwrite, List.drop_of_length_le (by rw [covered]), List.append_nil]
  exact windows

section Deserialize

variable (ctx : DContext P)

/-- What a successful `read` returned: as many octets as the cursor moved. -/
theorem read_eq_ok {n : Nat} {before after : DState P} {octets : List UInt8}
    (ran : read ctx n before = .ok octets after) :
    octets = (before.binaryData.vector.drop before.binaryData.offset).take
        octets.length ∧
      after.binaryData =
        { before.binaryData with
          offset := before.binaryData.offset + octets.length } := by
  simp only [read, bind, EStateM.bind, get_apply] at ran
  split at ran
  · cases ran
  · split at ran
    · cases ran
    · rename_i within
      cases ran
      simp only [List.length_take, List.length_drop]
      constructor
      · rw [List.take_eq_take_iff]
        simp
      · congr 2
        omega

theorem readRawData_eq_ok {type : Ty P} {targets objects : List type.Obj}
    {before after : DState P}
    (ran : readRawData ctx type targets before = .ok objects after) :
    type.plain ∧ ∃ octets,
      octets.length = wrap ctx.data.platform (type.sizeof * targets.length) ∧
      objects = overwrite ctx.data.platform type octets targets ∧
      octets = (before.binaryData.vector.drop before.binaryData.offset).take
        octets.length ∧
      after.binaryData =
        { before.binaryData with
          offset := before.binaryData.offset + octets.length } := by
  unfold readRawData at ran
  split at ran
  · rename_i plain
    obtain ⟨octets, middle, readOctets, checked⟩ := bind_eq_ok ran
    split at checked
    · rename_i sized
      cases checked
      obtain ⟨prefixed, walker⟩ := read_eq_ok ctx readOctets
      exact ⟨plain, octets, sized, rfl, prefixed, walker⟩
    · cases checked
  · cases ran

theorem withinRoom_eq_ok {loop : Nat → DProc P (List α)} {room n : Nat}
    {before after : DState P} {objects : List α}
    (ran : withinRoom room n loop before = .ok objects after) :
    n ≤ room ∧ loop n before = .ok objects after := by
  obtain ⟨looped, middle, loopRan, checked⟩ := bind_eq_ok ran
  split at checked
  · cases checked
  · rename_i enough
    cases checked
    rw [Nat.min_eq_left (by omega)] at loopRan
    exact ⟨by omega, loopRan⟩

theorem withinRoom_of_le {loop : Nat → DProc P (List α)} {room n : Nat}
    (enough : n ≤ room) : withinRoom room n loop = loop n := by
  unfold withinRoom
  simp only [Nat.min_eq_left enough, Nat.not_lt.mpr enough, if_false, bind_pure]

theorem readRawData_length {type : Ty P} {targets objects : List type.Obj}
    {before after : DState P}
    (ran : readRawData ctx type targets before = .ok objects after) :
    objects.length = targets.length := by
  obtain ⟨_, octets, _, rfl, _⟩ := readRawData_eq_ok ctx ran
  exact length_overwrite _ _ _ _

theorem deserializeElements_length {type : Ty P}
    {each : type.Obj → Nat → DProc P type.Obj} {n address : Nat}
    {before after : DState P} {objects : List type.Obj}
    (ran : deserializeElements ctx type each n address before =
      .ok objects after) : objects.length = n := by
  induction n generalizing address before objects with
  | zero =>
      cases ran
      rfl
  | succ n induction =>
      obtain ⟨_, _, _, ran⟩ := bind_eq_ok ran
      obtain ⟨object, _, _, ran⟩ := bind_eq_ok ran
      obtain ⟨rest, _, restRan, returned⟩ := bind_eq_ok ran
      cases returned
      rw [List.length_cons, induction restRan]

theorem deserializeEachFromAnotherSize_length {originalTypeSize : Nat}
    {type : ScalarType} {n : Nat} {before after : DState P}
    {values : List (Word type.size)}
    (ran : deserializeEachFromAnotherSize ctx originalTypeSize type n before =
      .ok values after) : values.length = n := by
  induction n generalizing before values with
  | zero =>
      cases ran
      rfl
  | succ n induction =>
      obtain ⟨value, _, _, ran⟩ := bind_eq_ok ran
      obtain ⟨rest, _, restRan, returned⟩ := bind_eq_ok ran
      cases returned
      rw [List.length_cons, induction restRan]

theorem deserializeArrayCopy_length {room : Nat} {type : Ty P}
    {targets objects : List type.Obj} {before after : DState P}
    (ran : deserializeArrayCopy ctx room type targets before =
      .ok objects after) : objects.length = targets.length := by
  cases type with
  | scalar type =>
      simp only [deserializeArrayCopy] at ran
      split at ran
      · obtain ⟨size, _, _, ran⟩ := bind_eq_ok ran
        split at ran
        · exact deserializeEachFromAnotherSize_length ctx
            (withinRoom_eq_ok ran).2
        · exact readRawData_length ctx ran
      · exact readRawData_length ctx ran
  | pointer | array | container | struct => exact readRawData_length ctx ran

theorem deserializeN_length {type : Ty P}
    {each : type.Obj → Nat → DProc P type.Obj} {targets objects : List type.Obj}
    {room address : Nat} {before after : DState P}
    (ran : deserializeN ctx type each targets room address before =
      .ok objects after) : objects.length = targets.length := by
  unfold deserializeN at ran
  split at ran
  · cases ran
    rfl
  · split at ran
    · exact deserializeArrayCopy_length ctx ran
    · exact deserializeElements_length ctx (withinRoom_eq_ok ran).2

end Deserialize

end CommonSerialization.Csp.BodyProcessor
