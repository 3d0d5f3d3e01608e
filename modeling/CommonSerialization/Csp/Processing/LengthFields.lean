import CommonSerialization.Csp.Processing.Inversion
import CommonSerialization.Csp.Processing.Wire

namespace CommonSerialization.Csp.VectorT

open BodyProcessor StateExcept

/-! The length field of a `VectorT` whose elements are copied as raw octets. -/

structure Vector (type : Ty P) where
  storage : Storage
  objects : List type.Obj

def Vector.empty (type : Ty P) : Vector type := ⟨.empty, []⟩

def input {type : Ty P} (proc : DProc P α) : Proc (DState P × Vector type) α :=
  fun (state, vector) =>
    match proc state with
    | .ok value after => .ok value (after, vector)
    | .error fault after => .error fault (after, vector)

def deserialize (ctx : DContext P) (type : Ty P)
    (each : type.Obj → Nat → DProc P type.Obj) :
    Proc (DState P × Vector type) Unit := do
  modify fun state => (state.1, { state.2 with objects := [] })
  let size ← input (deserializeSizeT ctx)
  let reserved ← input (reserve ctx type (← get).2.storage size)
  modify fun state => (state.1, { state.2 with storage := reserved.1 })
  let objects ← input (deserializeN ctx type each
    (List.replicate size (ctx.construct type)) reserved.2 reserved.1.data)
  modify fun state => (state.1, { state.2 with objects := objects })

section Input

variable {type : Ty P} {proc : DProc P α} {before after : DState P}

theorem input_ok {value : α} (vector : Vector type)
    (ran : proc before = .ok value after) :
    input proc (before, vector) = .ok value (after, vector) := by
  simp only [input, ran]

theorem input_error {fault : Fault} (vector : Vector type)
    (ran : proc before = .error fault after) :
    input proc (before, vector) = .error fault (after, vector) := by
  simp only [input, ran]

end Input

section Run

variable (ctx : DContext P) {type : Ty P}
  (each : type.Obj → Nat → DProc P type.Obj) (vector : Vector type)
  {before middle reserved after : DState P} {size : Nat}

theorem deserialize_of_unsized {fault : Fault}
    (ran : deserializeSizeT ctx before = .error fault after) :
    deserialize ctx type each (before, vector) =
      .error fault (after, { vector with objects := [] }) := by
  unfold deserialize
  rw [bind_of_ok (modify_apply _ _), bind_of_error (input_error _ ran)]

theorem deserialize_of_unreserved {fault : Fault}
    (sized : deserializeSizeT ctx before = .ok size middle)
    (ran : reserve ctx type vector.storage size middle = .error fault after) :
    deserialize ctx type each (before, vector) =
      .error fault (after, { vector with objects := [] }) := by
  unfold deserialize
  rw [bind_of_ok (modify_apply _ _), bind_of_ok (input_ok _ sized),
    bind_of_ok (get_apply _), bind_of_error (input_error _ ran)]

theorem deserialize_of_reserved {granted : Storage × Nat}
    (sized : deserializeSizeT ctx before = .ok size middle)
    (ran : reserve ctx type vector.storage size middle = .ok granted reserved) :
    deserialize ctx type each (before, vector) =
      match deserializeN ctx type each
          (List.replicate size (ctx.construct type)) granted.2 granted.1.data
          reserved with
      | .ok objects after => .ok () (after, ⟨granted.1, objects⟩)
      | .error fault after => .error fault (after, ⟨granted.1, []⟩) := by
  unfold deserialize
  rw [bind_of_ok (modify_apply _ _), bind_of_ok (input_ok _ sized),
    bind_of_ok (get_apply _), bind_of_ok (input_ok _ ran),
    bind_of_ok (modify_apply _ _)]
  cases outcome : deserializeN ctx type each
      (List.replicate size (ctx.construct type)) granted.2 granted.1.data
      reserved with
  | ok objects after =>
      rw [bind_of_ok (input_ok _ outcome), modify_apply]
  | error fault after => rw [bind_of_error (input_error _ outcome)]

end Run

section Layout

def lengthOctets (data : Context.Data) : Nat :=
  if !data.bitness32 then 8 else 4

def sizeOctets (data : Context.Data) : Ty P → Nat
  | .scalar type => if writesSize data type then 1 else 0
  | _ => 0

def elementsOffset (data : Context.Data) (type : Ty P) (walker : Walker) : Nat :=
  walker.offset + lengthOctets data + sizeOctets data type

/-- Integers behind an octet that names another size are not copied. -/
def NamesOwnSize (data : Context.Data) : Ty P → Option UInt8 → Prop
  | .scalar type, next =>
      writesSize data type → ∀ octet ∈ next, octet.toNat = type.size.bytes
  | _, _ => True

/-- The elements are copied as raw octets. -/
structure RawCopyPath (data : Context.Data) (type : Ty P) (walker : Walker) :
    Prop where
  inhabited : type.emptyType = false
  copies : copiesArray data type
  ownSize : NamesOwnSize data type
    walker.vector[walker.offset + lengthOctets data]?

def HasRoom (type : Ty P) (blocks : List (Nat × Nat)) (storage : Storage)
    (n : Nat) : Prop :=
  n = 0 ∨ ∃ size, (storage.data, size) ∈ blocks ∧ type.sizeof * n ≤ size

/-- The input, the block of the vector and every block that the heap can still
give lie beside one another in memory. -/
structure InMemory (ctx : DContext P) {type : Ty P} (vector : Vector type)
    (before : DState P) : Prop where
  inside : before.binaryData.offset ≤ before.binaryData.vector.length
  bounded : before.binaryData.vector.length < 2 ^ ctx.data.platform.addressBits
  granted : ∀ size address, ctx.allocate before.blocks size = some address →
    before.binaryData.vector.length + size < 2 ^ ctx.data.platform.addressBits
  owned : HasRoom type before.blocks vector.storage vector.storage.allocatedSize
  held : ∀ block ∈ before.blocks,
    before.binaryData.vector.length + block.2 < 2 ^ ctx.data.platform.addressBits

/-- A call that succeeds has taken the octets of as many elements as the length
field says and has read each element from them; a call that fails returns an
error status and an empty vector. -/
def LengthIsHonest (ctx : DContext P) (type : Ty P)
    (each : type.Obj → Nat → DProc P type.Obj) (vector : Vector type)
    (before : DState P) : Prop :=
  let start := elementsOffset ctx.data type before.binaryData
  match deserialize ctx type each (before, vector) with
  | .ok () (after, vector) =>
      ∃ n middle, deserializeSizeT ctx before = .ok n middle ∧
        start + type.sizeof * n ≤ before.binaryData.vector.length ∧
        after.binaryData =
          { before.binaryData with offset := start + type.sizeof * n } ∧
        HasRoom type after.blocks vector.storage n ∧
        vector.objects.length = n ∧
        vector.objects.flatMap (type.image ctx.data.platform) =
          (before.binaryData.vector.drop start).take (type.sizeof * n)
  | .error fault (_, vector) =>
      (∃ status, fault = .status status) ∧ vector.objects = []

/-- The octets of the elements are counted without wrapping around, or the
count that is left of them is more than the heap gives or the input holds. -/
def CountsInRange (ctx : DContext P) (type : Ty P) (before : DState P) : Prop :=
  ∀ n middle, deserializeSizeT ctx before = .ok n middle →
    type.sizeof * n < 2 ^ ctx.data.platform.addressBits ∨
      ctx.allocate before.blocks
        (wrap ctx.data.platform (type.sizeof * n)) = none ∨
      before.binaryData.vector.length <
        elementsOffset ctx.data type before.binaryData +
          wrap ctx.data.platform (type.sizeof * n)

end Layout

section Steps

variable (ctx : DContext P)

theorem readOriginalValue_takes (original : Width) :
    Takes (readOriginalValue ctx original) original.bytes := by
  intro before inside
  rcases readPrimitive_takes ctx original before inside with
    ⟨value, ran, within⟩ | ⟨status, after, ran⟩
  · exact .inl ⟨value, by simp only [readOriginalValue, ran], within⟩
  · right
    simp only [readOriginalValue, ran]
    split
    · exact ⟨_, _, rfl⟩
    · exact ⟨status, after, rfl⟩

theorem deserializeFromAnotherSize_takes (originalTypeSize : Nat)
    (type : ScalarType) :
    Takes (deserializeFromAnotherSize ctx originalTypeSize type)
      originalTypeSize := by
  unfold deserializeFromAnotherSize
  cases decoded : Width.ofBytes originalTypeSize with
  | none => exact .fail _ _
  | some original =>
      have bytes : original.bytes = originalTypeSize := by
        unfold Width.ofBytes at decoded
        split at decoded <;> cases decoded <;> rfl
      subst bytes
      simp only
      split
      · rename_i same
        rw [← same]
        exact readPrimitive_takes ctx type.size
      · rw [← Nat.add_zero original.bytes]
        refine (readOriginalValue_takes ctx original).bind fun value => ?_
        split
        · split
          · exact .pure _
          · exact .fail _ _
        · exact .pure _

theorem deserializeSizeT_takes :
    Takes (deserializeSizeT ctx) (lengthOctets ctx.data) := by
  unfold deserializeSizeT lengthOctets
  exact (deserializeFromAnotherSize_takes ctx _ _).bind fun _ => .pure _

theorem read_of_within {n : Nat} {before : DState P}
    (bounded : before.binaryData.vector.length < 2 ^ ctx.data.platform.addressBits)
    (within : before.binaryData.offset + n ≤ before.binaryData.vector.length) :
    read ctx n before =
      .ok ((before.binaryData.vector.drop before.binaryData.offset).take n)
        { before with
          binaryData :=
            { before.binaryData with offset := before.binaryData.offset + n } } := by
  have real : nReal ctx before.binaryData n = n := by
    rw [nReal, wrap, Nat.mod_eq_of_lt (by omega), if_neg (by omega)]
  simp only [read, bind, EStateM.bind, get_apply, real]
  rw [if_neg (by omega), if_neg (by omega)]
  rfl

theorem readRawData_of_within {type : Ty P} (plain : type.plain)
    (targets : List type.Obj) (before : DState P)
    (bounded : before.binaryData.vector.length < 2 ^ ctx.data.platform.addressBits)
    (within : before.binaryData.offset +
        wrap ctx.data.platform (type.sizeof * targets.length) ≤
      before.binaryData.vector.length) :
    readRawData ctx type targets before =
      .ok
        (overwrite ctx.data.platform type
          ((before.binaryData.vector.drop before.binaryData.offset).take
            (wrap ctx.data.platform (type.sizeof * targets.length))) targets)
        { before with
          binaryData :=
            { before.binaryData with
              offset := before.binaryData.offset +
                wrap ctx.data.platform (type.sizeof * targets.length) } } := by
  rw [readRawData, if_pos plain, bind_of_ok (read_of_within ctx bounded within),
    if_pos (by simp only [List.length_take, List.length_drop]; omega)]
  rfl

/-- An input that is too short is noticed, if the block it is copied to lies in
memory beside it. -/
theorem readRawData_of_short {type : Ty P} (plain : type.plain)
    (targets : List type.Obj) (before : DState P)
    (inside : before.binaryData.offset ≤ before.binaryData.vector.length)
    (fits : before.binaryData.vector.length +
        wrap ctx.data.platform (type.sizeof * targets.length) <
      2 ^ ctx.data.platform.addressBits)
    (short : before.binaryData.vector.length < before.binaryData.offset +
      wrap ctx.data.platform (type.sizeof * targets.length)) :
    ∃ status after,
      readRawData ctx type targets before = .error (.status status) after := by
  rw [readRawData, if_pos plain]
  generalize wrap ctx.data.platform (type.sizeof * targets.length) = bytesSize
    at fits short
  rcases Nat.eq_or_lt_of_le inside with ended | more
  · have refused : read ctx bytesSize before =
        .error (.status .errorOverflow) before := by
      simp only [read, bind, EStateM.bind, get_apply]
      rw [if_pos (.inr ⟨ended, by omega⟩)]
      rfl
    exact ⟨_, _, bind_of_error refused⟩
  · have real : nReal ctx before.binaryData bytesSize =
        before.binaryData.vector.length - before.binaryData.offset := by
      rw [nReal, wrap, Nat.mod_eq_of_lt (by omega), if_pos short]
    have readShort : read ctx bytesSize before =
        .ok (before.binaryData.vector.drop before.binaryData.offset)
          { before with
            binaryData :=
              { before.binaryData with
                offset := before.binaryData.vector.length } } := by
      simp only [read, bind, EStateM.bind, get_apply, real]
      rw [if_neg (by omega), if_neg (by omega),
        List.take_of_length_le (by rw [List.length_drop])]
      simp only [Nat.add_sub_cancel' inside]
      rfl
    rw [bind_of_ok readShort,
      if_neg (by rw [List.length_drop]; omega)]
    exact ⟨_, _, rfl⟩

theorem readPrimitive_one {before : DState P} {octet : UInt8}
    (next : before.binaryData.vector[before.binaryData.offset]? = some octet) :
    ∃ value, readPrimitive ctx .one before = .ok value
        { before with
          binaryData :=
            { before.binaryData with offset := before.binaryData.offset + 1 } } ∧
      value.toNat = octet.toNat := by
  obtain ⟨within, element⟩ := List.getElem?_eq_some_iff.mp next
  have single : (before.binaryData.vector.drop before.binaryData.offset).take 1 =
      [octet] := by
    rw [List.drop_eq_getElem_cons within, element]
    rfl
  refine ⟨ctx.data.platform.load .one [octet], ?_, ?_⟩
  · rw [← single]
    simp only [readPrimitive, readArithmeticValue, bind, EStateM.bind, get_apply]
    rw [if_pos (by simp only [Width.bytes]; omega)]
    rfl
  · have bound : octet.toNat < 256 := octet.toNat_lt
    simp only [Platform.load, List.reverse_singleton, ite_self,
      ByteOrder.ofOctets, BitVec.toNat_ofNat, Width.bytes]
    omega

variable {type : Ty P}

/-- What a copying `deserialize(ctx, n, p)` does before it copies. -/
theorem deserializeN_of_copies (each : type.Obj → Nat → DProc P type.Obj)
    (targets : List type.Obj) (room address : Nat) {before : DState P}
    (inhabited : type.emptyType = false) (copies : copiesArray ctx.data type)
    (ownSize : NamesOwnSize ctx.data type
      before.binaryData.vector[before.binaryData.offset]?)
    (inside : before.binaryData.offset ≤ before.binaryData.vector.length) :
    (before.binaryData.vector.length <
        before.binaryData.offset + sizeOctets ctx.data type ∧
      ∃ status after,
        deserializeN ctx type each targets room address before =
          .error (.status status) after) ∨
    (before.binaryData.offset + sizeOctets ctx.data type ≤
        before.binaryData.vector.length ∧
      deserializeN ctx type each targets room address before =
        readRawData ctx type targets
          { before with
            binaryData :=
              { before.binaryData with
                offset := before.binaryData.offset +
                  sizeOctets ctx.data type } }) := by
  rw [deserializeN, if_neg (by simp [inhabited]), if_pos copies]
  cases type with
  | scalar type =>
      by_cases sized : writesSize ctx.data type = true
      · simp only [deserializeArrayCopy, sizeOctets, if_pos sized]
        cases next : before.binaryData.vector[before.binaryData.offset]? with
        | none =>
            have ended := List.getElem?_eq_none_iff.mp next
            refine .inl ⟨by omega, ?_⟩
            rcases readPrimitive_takes ctx .one before inside with
              ⟨_, _, within⟩ | ⟨status, after, ran⟩
            · simp only [Width.bytes] at within
              omega
            · exact ⟨status, after, bind_of_error ran⟩
        | some octet =>
            obtain ⟨within, _⟩ := List.getElem?_eq_some_iff.mp next
            obtain ⟨value, ran, same⟩ := readPrimitive_one ctx next
            refine .inr ⟨within, ?_⟩
            have own : value = sizeOctet type.size := by
              apply BitVec.eq_of_toNat_eq
              rw [same, ownSize sized octet (by rw [next]; rfl), toNat_sizeOctet]
            rw [bind_of_ok ran, if_neg (by simp [own])]
      · simp only [deserializeArrayCopy, sizeOctets, if_neg sized]
        exact .inr ⟨inside, rfl⟩
  | pointer | array | container | struct => exact .inr ⟨inside, rfl⟩

end Steps

section Honest

variable (ctx : DContext P) {type : Ty P}
  (each : type.Obj → Nat → DProc P type.Obj) {vector : Vector type}
  {before middle : DState P} {n : Nat}

/-- Once the vector has its block, the call is honest unless the input holds as
many octets as a product that wrapped around is left with. -/
theorem lengthIsHonest_of_reserved
    (simple : type.plain) (path : RawCopyPath ctx.data type before.binaryData)
    (sized : deserializeSizeT ctx before = .ok n middle)
    (walker : middle.binaryData =
      { before.binaryData with
        offset := before.binaryData.offset + lengthOctets ctx.data })
    (inside : middle.binaryData.offset ≤ middle.binaryData.vector.length)
    {granted : Storage × Nat} {reserved : DState P}
    (ran : reserve ctx type vector.storage n middle = .ok granted reserved)
    (sameWalker : reserved.binaryData = middle.binaryData)
    (fits : before.binaryData.vector.length +
        wrap ctx.data.platform (type.sizeof * n) <
      2 ^ ctx.data.platform.addressBits)
    (room : type.sizeof * n < 2 ^ ctx.data.platform.addressBits →
      HasRoom type reserved.blocks granted.1 n) :
    LengthIsHonest ctx type each vector before ↔
      type.sizeof * n < 2 ^ ctx.data.platform.addressBits ∨
        before.binaryData.vector.length <
          elementsOffset ctx.data type before.binaryData +
            wrap ctx.data.platform (type.sizeof * n) := by
  have run := deserialize_of_reserved ctx each vector sized ran
  have start : reserved.binaryData.offset + sizeOctets ctx.data type =
      elementsOffset ctx.data type before.binaryData := by
    rw [sameWalker, walker, elementsOffset]
  have sameVector : reserved.binaryData.vector = before.binaryData.vector := by
    rw [sameWalker, walker]
  have ownSize : NamesOwnSize ctx.data type
      reserved.binaryData.vector[reserved.binaryData.offset]? := by
    rw [sameWalker, walker]
    exact path.ownSize
  have targetCount : (List.replicate n (ctx.construct type)).length = n :=
    List.length_replicate
  rcases deserializeN_of_copies ctx each (List.replicate n (ctx.construct type))
      granted.2 granted.1.data path.inhabited path.copies ownSize
      (by rw [sameWalker]; exact inside) with
    ⟨short, status, after, failed⟩ | ⟨within, copied⟩
  · rw [start, sameVector] at short
    refine iff_of_true ?_ (.inr (by omega))
    simp only [LengthIsHonest, run, failed]
    exact ⟨⟨status, rfl⟩, trivial⟩
  · rw [start, sameVector] at within
    rw [start] at copied
    by_cases short : before.binaryData.vector.length <
        elementsOffset ctx.data type before.binaryData +
          wrap ctx.data.platform (type.sizeof * n)
    · obtain ⟨status, after, failed⟩ := readRawData_of_short ctx simple
        (List.replicate n (ctx.construct type))
        { reserved with
          binaryData :=
            { reserved.binaryData with
              offset := elementsOffset ctx.data type before.binaryData } }
        (by rw [sameVector]; exact within)
        (by rw [targetCount, sameVector]; exact fits)
        (by rw [targetCount, sameVector]; exact short)
      rw [failed] at copied
      refine iff_of_true ?_ (.inr short)
      simp only [LengthIsHonest, run, copied]
      exact ⟨⟨status, rfl⟩, trivial⟩
    · have read := readRawData_of_within ctx simple
        (List.replicate n (ctx.construct type))
        { reserved with
          binaryData :=
            { reserved.binaryData with
              offset := elementsOffset ctx.data type before.binaryData } }
        (by rw [sameVector]; omega)
        (by rw [targetCount, sameVector]; simp only; omega)
      rw [read, targetCount, sameVector] at copied
      simp only [LengthIsHonest, run, copied]
      constructor
      · rintro ⟨count, _, counted, _, taken, _⟩
        rw [sized] at counted
        cases counted
        have offsets := congrArg Walker.offset taken
        simp only at offsets
        have wrapped : wrap ctx.data.platform (type.sizeof * n) =
            type.sizeof * n := by omega
        exact .inl (wrapped ▸ Nat.mod_lt _ (Nat.two_pow_pos _))
      · rintro (unwrapped | tooShort)
        · have whole : wrap ctx.data.platform (type.sizeof * n) =
              type.sizeof * n := Nat.mod_eq_of_lt unwrapped
          rw [whole] at short ⊢
          refine ⟨n, middle, sized, by omega, ?_, room unwrapped,
            (length_overwrite _ _ _ _).trans targetCount, ?_⟩
          · rw [sameWalker, walker]
          · refine flatMap_overwrite simple _ _ _ ?_
            rw [targetCount, List.length_take, List.length_drop]
            omega
        · exact absurd tooShort short

theorem reserve_of_enough {storage : Storage} {state : DState P}
    (enough : ¬storage.allocatedSize < n) :
    reserve ctx type storage n state = .ok (storage, n) state := by
  rw [reserve, if_neg enough, pure_apply]

theorem reserve_of_granted {storage : Storage} {state : DState P} {address : Nat}
    (more : storage.allocatedSize < n)
    (granted : ctx.allocate state.blocks
      (wrap ctx.data.platform (type.sizeof * n)) = some address) :
    reserve ctx type storage n state =
      .ok (⟨address, n⟩, roomFor ctx.data.platform type n)
        { state with
          blocks :=
            (address, wrap ctx.data.platform (type.sizeof * n)) ::
              state.blocks } := by
  simp only [reserve, if_pos more, allocate, bind, EStateM.bind, get_apply,
    granted, modify_apply, pure_apply]

theorem reserve_of_refused {storage : Storage} {state : DState P}
    (more : storage.allocatedSize < n)
    (refused : ctx.allocate state.blocks
      (wrap ctx.data.platform (type.sizeof * n)) = none) :
    reserve ctx type storage n state =
      .error (.status .errorNoMemory) state := by
  simp only [reserve, if_pos more, allocate, bind, EStateM.bind, get_apply,
    refused, pure_apply, fail_apply]

theorem lengthIsHonest_of_sized (memory : InMemory ctx vector before)
    (simple : type.plain) (path : RawCopyPath ctx.data type before.binaryData)
    (sized : deserializeSizeT ctx before = .ok n middle) :
    LengthIsHonest ctx type each vector before ↔
      type.sizeof * n < 2 ^ ctx.data.platform.addressBits ∨
      ctx.allocate before.blocks
        (wrap ctx.data.platform (type.sizeof * n)) = none ∨
      before.binaryData.vector.length <
        elementsOffset ctx.data type before.binaryData +
          wrap ctx.data.platform (type.sizeof * n) := by
  rcases deserializeSizeT_takes ctx before memory.inside with
    ⟨count, ran, within⟩ | ⟨_, _, failed⟩
  · rw [ran] at sized
    cases sized
    by_cases more : vector.storage.allocatedSize < n
    · cases outcome : ctx.allocate before.blocks
          (wrap ctx.data.platform (type.sizeof * n)) with
      | none =>
          have run := deserialize_of_unreserved ctx each vector ran
            (reserve_of_refused ctx more outcome)
          refine iff_of_true ?_ (.inr (.inl rfl))
          simp only [LengthIsHonest, run]
          exact ⟨⟨_, rfl⟩, trivial⟩
      | some address =>
          rw [lengthIsHonest_of_reserved ctx each simple path ran rfl within
            (reserve_of_granted ctx more outcome) rfl
            (memory.granted _ _ outcome)]
          · simp
          · intro unwrapped
            refine .inr ⟨_, List.mem_cons_self, ?_⟩
            rw [wrap, Nat.mod_eq_of_lt unwrapped]
    · have enough : HasRoom type before.blocks vector.storage n := by
        rcases memory.owned with nothing | ⟨size, block, room⟩
        · exact .inl (by omega)
        · exact .inr ⟨size, block,
            (Nat.mul_le_mul_left _ (by omega)).trans room⟩
      have unwrapped : before.binaryData.vector.length + type.sizeof * n <
          2 ^ ctx.data.platform.addressBits := by
        rcases enough with rfl | ⟨size, block, room⟩
        · exact memory.bounded
        · have := memory.held _ block
          simp only at this
          omega
      rw [lengthIsHonest_of_reserved ctx each simple path ran rfl within
        (reserve_of_enough ctx more) rfl
        (by rwa [wrap, Nat.mod_eq_of_lt (by omega)]) (fun _ => enough)]
      exact iff_of_true (.inl (by omega)) (.inl (by omega))
  · rw [failed] at sized
    cases sized

/-- A success on the copying path stands for all elements that the length field
announces exactly when the product of the count and the element size does not
wrap around, except where the heap or the input falls short of what is left of
the product. -/
theorem lengthIsHonest_iff (memory : InMemory ctx vector before)
    (simple : type.anySimplyAssignable → type.plain)
    (path : RawCopyPath ctx.data type before.binaryData) :
    LengthIsHonest ctx type each vector before ↔
      CountsInRange ctx type before := by
  have plain : type.plain := by
    have copies := path.copies
    simp only [copiesArray, Bool.and_eq_true, Bool.or_eq_true] at copies
    rcases copies.2 with arithmetic | ⟨_, tagged⟩
    · cases type with
      | scalar type => rfl
      | pointer | array | container | struct => cases arithmetic
    · exact simple (anySimplyAssignable_of_tagsAllowCopy _ tagged)
  cases sized : deserializeSizeT ctx before with
  | ok n middle =>
      rw [lengthIsHonest_of_sized ctx each memory plain path sized]
      constructor
      · intro kept count _ counted
        rw [sized] at counted
        cases counted
        exact kept
      · intro inRange
        exact inRange n middle sized
  | error fault after =>
      rcases deserializeSizeT_takes ctx before memory.inside with
        ⟨_, ran, _⟩ | ⟨status, _, ran⟩
      · rw [ran] at sized
        cases sized
      · refine iff_of_true ?_ ?_
        · simp only [LengthIsHonest, deserialize_of_unsized ctx each vector ran]
          exact ⟨⟨status, rfl⟩, trivial⟩
        · intro n middle counted
          rw [ran] at counted
          cases counted

end Honest

section Words

private def wordsContext : DContext Empty where
  data :=
    { platform := ⟨false, false⟩
      protocolVersion := 1
      messageType := .data
      commonFlags := .ofUInt32 0
      dataFlags := .ofUInt32 0
      interfaceVersion := 1
      interfaceVersionsNotMatch := false
      isHeapUsedForTemp := true }
  allocate _ size := if size ≤ 0x10000 then some 0x1000 else none
  stackSlot _ _ := 8
  construct type := type.ofImage ⟨false, false⟩ []
  mapInsert _ element elements := element :: elements

private def wordTy : Ty Empty :=
  .scalar (.integral .unsignedLongLong .eight false)

private def readWord : wordTy.Obj → Nat → DProc Empty wordTy.Obj :=
  BodyProcessor.deserialize wordsContext Empty.elim .none wordTy

private theorem wordsInMemory (octets : List UInt8) (few : octets.length ≤ 64) :
    InMemory wordsContext (.empty wordTy) (.start octets) where
  inside := Nat.zero_le _
  bounded := by
    show octets.length < 2 ^ 64
    omega
  granted size address allocated := by
    show octets.length + size < 2 ^ 64
    simp only [wordsContext] at allocated
    split at allocated
    · omega
    · cases allocated
  owned := .inl rfl
  held := by simp [DState.start]

private theorem wordsPath (octets : List UInt8) :
    RawCopyPath wordsContext.data wordTy ⟨octets, 0⟩ where
  inhabited := rfl
  copies := rfl
  ownSize := nofun

theorem lengthIsHonest_two_words :
    LengthIsHonest wordsContext wordTy readWord (.empty wordTy)
      (.start [2, 0, 0, 0, 0, 0, 0, 0, 1, 0, 0, 0, 0, 0, 0, 0,
        255, 0, 0, 0, 0, 0, 0, 0]) := by
  apply (lengthIsHonest_iff wordsContext readWord
    (wordsInMemory _ (by decide)) nofun (wordsPath _)).mpr
  intro n middle sized
  cases sized
  exact .inl (by decide)

/-- A count of 2 ^ 61 words passes as a vector of that many elements in a block
of no octets. -/
theorem length_of_no_octets_not_honest :
    InMemory wordsContext (.empty wordTy)
        (.start [0, 0, 0, 0, 0, 0, 0, 0x20]) ∧
      RawCopyPath wordsContext.data wordTy ⟨[0, 0, 0, 0, 0, 0, 0, 0x20], 0⟩ ∧
      ¬LengthIsHonest wordsContext wordTy readWord (.empty wordTy)
        (.start [0, 0, 0, 0, 0, 0, 0, 0x20]) := by
  refine ⟨wordsInMemory _ (by decide), wordsPath _, ?_⟩
  have sized : deserializeSizeT wordsContext
      (.start [0, 0, 0, 0, 0, 0, 0, 0x20]) = .ok (2 ^ 61) _ := rfl
  rw [lengthIsHonest_of_sized wordsContext readWord
    (wordsInMemory _ (by decide)) rfl (wordsPath _) sized]
  decide

end Words

end CommonSerialization.Csp.VectorT
