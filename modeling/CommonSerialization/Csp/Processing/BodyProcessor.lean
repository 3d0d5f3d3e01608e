import CommonSerialization.Common.Helpers
import CommonSerialization.Csp.Processing.Rw

namespace CommonSerialization.Csp.BodyProcessor

/-! `BodyProcessor` and `TemplateProcessor`.  The recursion over the types is
structural; what leaves the type of the object (following a pointer, converting
to another version of a struct) is a call of a handler. -/

def tagsAllowCopy (data : Context.Data) (type : Ty P) : Bool :=
  type.alwaysSimplyAssignable ||
    type.simplyAssignableFixedSize && !data.alignmentMayBeNotEqual ||
    type.simplyAssignableAlignedToOne && !data.sizeOfIntegersMayBeNotEqual ||
    type.simplyAssignable && !data.alignmentMayBeNotEqual &&
      !data.sizeOfIntegersMayBeNotEqual

def copiesArray (data : Context.Data) (type : Ty P) : Bool :=
  (!data.endiannessDifference || type.endiannessTolerant) &&
    (type.isArithmeticOrEnum ||
      !data.simplyAssignableTagsOptimizationsAreTurnedOff &&
        (!type.iSerializable.isSome ||
          decide (type.getLatestInterfaceVersion ≤ data.interfaceVersion)) &&
        tagsAllowCopy data type)

/-- The size of the integer type goes before its values. -/
def writesSize (data : Context.Data) (type : ScalarType) : Bool :=
  !type.fixSizedArithmeticOrEnumType && !type.isFloatingPoint &&
    data.sizeOfIntegersMayBeNotEqual

def sizeOctet (size : Width) : Word .one :=
  BitVec.ofNat _ size.bytes

@[simp] theorem toNat_sizeOctet (size : Width) :
    (sizeOctet size).toNat = size.bytes := by
  cases size <;> rfl

def testDataFlagsCompatibility (versioning : Versioning)
    (dataFlags : Context.DataFlags) : Status :=
  let mandatory : Context.DataFlags :=
    .ofUInt32 versioning.effectiveMandatoryDataFlags
  let forbidden : Context.DataFlags :=
    .ofUInt32 versioning.effectiveForbiddenDataFlags
  if !(dataFlags.inter forbidden).isSet &&
      dataFlags.inter mandatory == mandatory then
    .noError
  else
    .errorNotCompatibleDataFlagsSettings

theorem testDataFlagsCompatibility_cases (versioning : Versioning)
    (dataFlags : Context.DataFlags) :
    testDataFlagsCompatibility versioning dataFlags = .noError ∨
      testDataFlagsCompatibility versioning dataFlags =
        .errorNotCompatibleDataFlagsSettings := by
  unfold testDataFlagsCompatibility
  simp only
  split
  · exact .inl rfl
  · exact .inr rfl

section Serialize

/-- The calls that leave the type of the object. -/
structure SHandlers (P : Type) where
  pointee : P → Nat → SProc Unit
  toOldStructIfNeed : (decl : StructDecl) → (fields : Fields P) →
    (Ty.struct decl fields).Obj → SProc Status

def SHandlers.none : SHandlers P where
  pointee _ _ := throw .outOfFuel
  toOldStructIfNeed _ _ _ := return .noError

variable (ctx : SContext)

def serializeArithmetic (type : ScalarType) (value : Word type.size) :
    SProc Unit := do
  if writesSize ctx.data type then
    writePrimitive ctx .one (sizeOctet type.size)
  writePrimitive ctx type.size value

def serializeToAnotherSize (target : Width) (isSigned : Bool) (size : Width)
    (value : Word size) : SProc Unit :=
  if size = target then
    writePrimitive ctx size value
  else if size.bytes < target.bytes then
    writePrimitive ctx target (castToBiggerType isSigned value target)
  else
    match castToSmallerType isSigned value target with
    | .ok targetValue => writePrimitive ctx target targetValue
    | .error status => fail status

def serializeSizeT (value : Nat) : SProc Unit :=
  serializeToAnotherSize ctx (if !ctx.data.bitness32 then .eight else .four)
    false ctx.data.platform.sizeOfSizeT (BitVec.ofNat _ value)

/-- Whether the object that `p` points to is to be serialized. -/
def addPointerToMap (p : Nat) : SProc Bool := do
  if p = 0 then
    serializeSizeT ctx 0
    return false
  else
    match (← get).pointersMap p with
    | none =>
        serializeSizeT ctx 1
        modify fun state =>
          { state with
            pointersMap :=
              Function.update state.pointersMap p state.binaryData.length }
        return true
    | some offset =>
        serializeSizeT ctx offset
        return false

def serializePointer (handlers : SHandlers P) (pointee : P) (value : Nat) :
    SProc Unit := do
  if !ctx.data.allowUnmanagedPointers then
    fail .errorNotSupportedSerializationSettingsForStruct
  else if ctx.data.checkRecursivePointers then
    if ← addPointerToMap ctx value then
      handlers.pointee pointee value
  else if value = 0 then
    writePrimitive ctx .one 0
  else
    writePrimitive ctx .one 1
    handlers.pointee pointee value

def serializeElements (size : Nat) (each : α → Nat → SProc Unit) :
    List α → Nat → SProc Unit
  | [], _ => return ()
  | object :: rest, address => do
      if ctx.data.checkRecursivePointers then
        modify fun state =>
          { state with
            pointersMap :=
              Function.update state.pointersMap address
                state.binaryData.length }
      each object address
      serializeElements size each rest (address + size)

/-- The branch of `serialize(p, n, ctx)` that has no loop. -/
def serializeArrayCopy : (type : Ty P) → List type.Obj → SProc Unit
  | .scalar type, objects => do
      if writesSize ctx.data type then
        writePrimitive ctx .one (sizeOctet type.size)
      writeRawData ctx (.scalar type) objects
  | type, objects => writeRawData ctx type objects

/-- `serialize(p, n, ctx)` for the objects at an address. -/
def serializeN (type : Ty P) (each : type.Obj → Nat → SProc Unit)
    (objects : List type.Obj) (address : Nat) : SProc Unit := do
  if type.emptyType then
    return ()
  else if copiesArray ctx.data type then
    serializeArrayCopy ctx type objects
  else
    serializeElements ctx type.sizeof each objects address

/-- `ErrorNotSupportedSerializationSettingsForStruct` is a result like the
success codes: the macros go on after it. -/
def serializeSimplyAssignable (type : Ty P) (object : type.Obj) :
    SProc Status := do
  if !type.anySimplyAssignable then
    return .noError
  else if type.iSerializable.isSome &&
      decide (ctx.data.interfaceVersion < type.getLatestInterfaceVersion) then
    return .noError
  else if !type.endiannessTolerant && ctx.data.endiannessDifference then
    return .noError
  else if !ctx.data.simplyAssignableTagsOptimizationsAreTurnedOff &&
      tagsAllowCopy ctx.data type then
    writeRawData ctx type [object]
    return .noFurtherProcessingRequired
  else
    return .errorNotSupportedSerializationSettingsForStruct

/-- `CSP_SERIALIZE_ANY_SIMPLY_ASSIGNABLE`: whether the value is written. -/
def serializeAnySimplyAssignable (type : Ty P) (object : type.Obj) :
    SProc Bool := do
  if type.anySimplyAssignable then
    let status ← serializeSimplyAssignable ctx type object
    if status = .noFurtherProcessingRequired then
      return true
    else if !statusSuccess status &&
        status != .errorNotSupportedSerializationSettingsForStruct then
      fail status
    else
      return false
  else
    return false

def serializeCommon (handlers : SHandlers P) (decl : StructDecl)
    (fields : Fields P) (object : (Ty.struct decl fields).Obj) :
    SProc Bool := do
  match decl.iSerializable, ctx.data.interfaceVersionsNotMatch with
  | some versioning, true =>
      let status ← handlers.toOldStructIfNeed decl fields object
      if status = .noFurtherProcessingRequired then
        return true
      else if !statusSuccess status then
        fail status
      else
        let compatibility :=
          testDataFlagsCompatibility versioning ctx.data.dataFlags
        if statusSuccess compatibility then
          serializeAnySimplyAssignable ctx (.struct decl fields) object
        else
          fail compatibility
  | _, _ => serializeAnySimplyAssignable ctx (.struct decl fields) object

/-- The end of the overload without a specialisation is reached only by a type
that has no function at all. -/
def serializeGeneric (type : Ty P) (object : type.Obj) : SProc Unit := do
  if type.anySimplyAssignable then
    let status ← serializeSimplyAssignable ctx type object
    if !statusSuccess status then
      fail status
  else if type.emptyType then
    return ()
  else
    throw .undefinedBehaviour

def writeFieldsUnless (start : SProc Bool) (fieldByField : SProc Unit) :
    SProc Unit := do
  let written ← start
  if !written then
    fieldByField

def serializeStruct (handlers : SHandlers P) (decl : StructDecl)
    (fields : Fields P) (object : (Ty.struct decl fields).Obj)
    (fieldByField : SProc Unit) : SProc Unit :=
  match decl.function with
  | .generic => serializeGeneric ctx (.struct decl fields) object
  | .fieldByField .none => fieldByField
  | .fieldByField .anySimplyAssignable =>
      writeFieldsUnless
        (serializeAnySimplyAssignable ctx (.struct decl fields) object)
        fieldByField
  | .fieldByField .common =>
      writeFieldsUnless (serializeCommon ctx handlers decl fields object)
        fieldByField

/-- The character after the last one of a string. -/
def terminator : (type : Ty P) → List type.Obj
  | .scalar type => [(0 : Word type.size)]
  | _ => []

def serializeEach (size : Nat) (each : α → Nat → SProc Unit) :
    List α → Nat → SProc Unit
  | [], _ => return ()
  | object :: rest, address => do
      each object address
      serializeEach size each rest (address + size)

def serializeTemplate (kind : ContainerKind) (type : Ty P)
    (each : type.Obj → Nat → SProc Unit)
    (value : Storage × List type.Obj) : SProc Unit := do
  serializeSizeT ctx value.2.length
  match kind with
  | .vectorT | .stdVector => serializeN ctx type each value.2 value.1.data
  | .stdBasicString =>
      serializeN ctx type each (value.2 ++ terminator type) value.1.data
  | .stdMap => serializeEach type.sizeof each value.2 value.1.data

mutual
def serialize (handlers : SHandlers P) : (type : Ty P) → type.Obj → Nat →
    SProc Unit
  | .scalar type, value, _ => serializeArithmetic ctx type value
  | .pointer _ pointee, value, _ => serializePointer ctx handlers pointee value
  | .array element _, value, address =>
      serializeN ctx element (serialize handlers element) (List.ofFn value)
        address
  | .container kind _ element, value, _ =>
      serializeTemplate ctx kind element (serialize handlers element) value
  | .struct decl fields, value, address =>
      serializeStruct ctx handlers decl fields value
        (serializeFields handlers fields value.1 address)

def serializeFields (handlers : SHandlers P) : (fields : Fields P) →
    fields.Objs → Nat → SProc Unit
  | .nil, _, _ => return ()
  | .cons padding field rest, values, address => do
      serialize handlers field values.2.1 (address + padding)
      serializeFields handlers rest values.2.2
        (address + padding + field.sizeof)
end

end Serialize

section Deserialize

structure DHandlers (P : Type) where
  pointee : P → Nat → DProc P Unit
  fromOldStructIfNeed : (decl : StructDecl) → (fields : Fields P) →
    (Ty.struct decl fields).Obj → Nat →
      DProc P (Status × (Ty.struct decl fields).Obj)

def DHandlers.none : DHandlers P where
  pointee _ _ := throw .outOfFuel
  fromOldStructIfNeed _ _ target _ := return (.noError, target)

variable (ctx : DContext P)

/-- The value in a size that is not the size of its type: a short input is
reported as damaged. -/
def readOriginalValue (original : Width) : DProc P (Word original) :=
  fun state =>
    match readPrimitive ctx original state with
    | .error (.status .errorOverflow) failed =>
        .error (.status .errorDataCorrupted) failed
    | outcome => outcome

def deserializeFromAnotherSize (originalTypeSize : Nat) (type : ScalarType) :
    DProc P (Word type.size) := do
  match Width.ofBytes originalTypeSize with
  | none => fail .errorInternal
  | some original =>
      if type.size = original then
        readPrimitive ctx type.size
      else
        let originalValue ← readOriginalValue ctx original
        if type.size.bytes < original.bytes then
          match castToSmallerType type.signed originalValue type.size with
          | .ok value => return value
          | .error status => fail status
        else
          return castToBiggerType type.signed originalValue type.size

def deserializeArithmetic (type : ScalarType) : DProc P (Word type.size) := do
  if writesSize ctx.data type then
    let originalTypeSize ← readPrimitive ctx .one
    deserializeFromAnotherSize ctx originalTypeSize.toNat type
  else
    readPrimitive ctx type.size

def sizeT (platform : Platform) : ScalarType :=
  .integral .unsignedLong platform.sizeOfSizeT false

def deserializeSizeT : DProc P Nat := do
  let value ← deserializeFromAnotherSize ctx
    (if !ctx.data.bitness32 then 8 else 4) (sizeT ctx.data.platform)
  return value.toNat

/-- What a pointer's marker says: a new object follows, or the address is
known. -/
inductive Marker
  | newPointer
  | known (address : Nat)

/-- `operator[]` of the map adds a null pointer under a key it lacks. -/
def getPointerFromMap (pointee : P) : DProc P Marker := do
  let offset ← deserializeSizeT ctx
  if offset = 0 then
    return .known 0
  else if offset = 1 then
    return .newPointer
  else
    let state ← get
    if state.binaryData.offset ≤ offset then
      fail .errorInternal
    else
      let address := (state.pointersMap offset).getD 0
      set { state with
        pointersMap := Function.update state.pointersMap offset address
        history := .linked pointee offset address :: state.history }
      return .known address

def registerObject (type : Ty P) (address : Nat) : DProc P Unit :=
  modify fun state =>
    { state with
      pointersMap :=
        if ctx.data.checkRecursivePointers then
          Function.update state.pointersMap state.binaryData.offset
            (some address)
        else
          state.pointersMap
      history :=
        .created type address state.binaryData.offset
          (decide (state.temporaryDepth ≠ 0)) :: state.history }

def readMarker (pointee : P) : DProc P Marker := do
  if ctx.data.checkRecursivePointers then
    getPointerFromMap ctx pointee
  else
    let isValidPtr ← readPrimitive ctx .one
    if isValidPtr = 0 then return .known 0 else return .newPointer

def assignPointer (pointee : P) (address : Nat) : DProc P Unit :=
  modify fun state =>
    { state with history := .assigned pointee address :: state.history }

def deserializePointer (handlers : DHandlers P) (pointeeType : P → Ty P)
    (pointee : P) : DProc P Nat := do
  if !ctx.data.allowUnmanagedPointers then
    fail .errorNotSupportedSerializationSettingsForStruct
  else
    match ← readMarker ctx pointee with
    | .known address =>
        assignPointer pointee address
        return address
    | .newPointer =>
        match ← allocate ctx (pointeeType pointee).sizeof with
        | none =>
            assignPointer pointee 0
            fail .errorNoMemory
        | some address =>
            assignPointer pointee address
            registerObject ctx (pointeeType pointee) address
            handlers.pointee pointee address
            return address

def deserializeElements (type : Ty P) (each : type.Obj → Nat → DProc P type.Obj) :
    Nat → Nat → DProc P (List type.Obj)
  | 0, _ => return []
  | n + 1, address => do
      registerObject ctx type address
      let object ← each (ctx.construct type) address
      let rest ← deserializeElements type each n (address + type.sizeof)
      return object :: rest

def deserializeEachFromAnotherSize (originalTypeSize : Nat)
    (type : ScalarType) : Nat → DProc P (List (Word type.size))
  | 0 => return []
  | n + 1 => do
      let value ← deserializeFromAnotherSize ctx originalTypeSize type
      let rest ← deserializeEachFromAnotherSize originalTypeSize type n
      return value :: rest

/-- A loop over `n` elements in a block with room for `room` of them. -/
def withinRoom (room n : Nat) (loop : Nat → DProc P (List α)) :
    DProc P (List α) := do
  let objects ← loop (min n room)
  if room < n then throw .undefinedBehaviour else return objects

def deserializeArrayCopy (room : Nat) : (type : Ty P) → List type.Obj →
    DProc P (List type.Obj)
  | .scalar type, targets => do
      if writesSize ctx.data type then
        let originalTypeSize ← readPrimitive ctx .one
        if originalTypeSize ≠ sizeOctet type.size then
          withinRoom room targets.length
            (deserializeEachFromAnotherSize ctx originalTypeSize.toNat type)
        else
          readRawData ctx (.scalar type) targets
      else
        readRawData ctx (.scalar type) targets
  | type, targets => readRawData ctx type targets

/-- `deserialize(ctx, n, p)`, the targets being the `n` objects at `p`. -/
def deserializeN (type : Ty P) (each : type.Obj → Nat → DProc P type.Obj)
    (targets : List type.Obj) (room address : Nat) :
    DProc P (List type.Obj) := do
  if type.emptyType then
    return targets
  else if copiesArray ctx.data type then
    deserializeArrayCopy ctx room type targets
  else
    withinRoom room targets.length fun n =>
      deserializeElements ctx type each n address

def deserializeSimplyAssignable (type : Ty P) (target : type.Obj) :
    DProc P (Status × type.Obj) := do
  if !type.anySimplyAssignable then
    return (.errorInvalidType, target)
  else if type.iSerializable.isSome &&
      decide (ctx.data.interfaceVersion < type.getLatestInterfaceVersion) then
    return (.noError, target)
  else if !type.endiannessTolerant && ctx.data.endiannessDifference then
    return (.noError, target)
  else if !ctx.data.simplyAssignableTagsOptimizationsAreTurnedOff &&
      tagsAllowCopy ctx.data type then
    let objects ← readRawData ctx type [target]
    return (.noFurtherProcessingRequired, objects.headD target)
  else
    return (.errorNotSupportedSerializationSettingsForStruct, target)

def deserializeAnySimplyAssignable (type : Ty P) (target : type.Obj) :
    DProc P (Option type.Obj) := do
  if type.anySimplyAssignable then
    let (status, object) ← deserializeSimplyAssignable ctx type target
    if status = .noFurtherProcessingRequired then
      return some object
    else if !statusSuccess status &&
        status != .errorNotSupportedSerializationSettingsForStruct then
      fail status
    else
      return none
  else
    return none

def deserializeCommon (handlers : DHandlers P) (decl : StructDecl)
    (fields : Fields P) (target : (Ty.struct decl fields).Obj)
    (address : Nat) : DProc P (Option (Ty.struct decl fields).Obj) := do
  match decl.iSerializable, ctx.data.interfaceVersionsNotMatch with
  | some versioning, true =>
      let (status, object) ←
        handlers.fromOldStructIfNeed decl fields target address
      if status = .noFurtherProcessingRequired then
        return some object
      else if !statusSuccess status then
        fail status
      else
        let compatibility :=
          testDataFlagsCompatibility versioning ctx.data.dataFlags
        if statusSuccess compatibility then
          deserializeAnySimplyAssignable ctx (.struct decl fields) target
        else
          fail compatibility
  | _, _ => deserializeAnySimplyAssignable ctx (.struct decl fields) target

def deserializeGeneric (type : Ty P) (target : type.Obj) :
    DProc P type.Obj := do
  if type.anySimplyAssignable then
    let (status, object) ← deserializeSimplyAssignable ctx type target
    if !statusSuccess status then
      fail status
    else
      return object
  else if type.emptyType then
    return target
  else
    throw .undefinedBehaviour

/-- The fields one after another; the bytes between them stay. -/
def readFields (decl : StructDecl) (fields : Fields P)
    (target : (Ty.struct decl fields).Obj)
    (fieldByField : DProc P fields.Objs) :
    DProc P (Ty.struct decl fields).Obj := do
  let objects ← fieldByField
  return (objects, target.2)

def readFieldsUnless (decl : StructDecl) (fields : Fields P)
    (target : (Ty.struct decl fields).Obj)
    (start : DProc P (Option (Ty.struct decl fields).Obj))
    (fieldByField : DProc P fields.Objs) :
    DProc P (Ty.struct decl fields).Obj := do
  match ← start with
  | some object => return object
  | none => readFields decl fields target fieldByField

def deserializeStruct (handlers : DHandlers P) (decl : StructDecl)
    (fields : Fields P) (target : (Ty.struct decl fields).Obj) (address : Nat)
    (fieldByField : DProc P fields.Objs) :
    DProc P (Ty.struct decl fields).Obj :=
  match decl.function with
  | .generic => deserializeGeneric ctx (.struct decl fields) target
  | .fieldByField .none => readFields decl fields target fieldByField
  | .fieldByField .anySimplyAssignable =>
      readFieldsUnless decl fields target
        (deserializeAnySimplyAssignable ctx (.struct decl fields) target)
        fieldByField
  | .fieldByField .common =>
      readFieldsUnless decl fields target
        (deserializeCommon ctx handlers decl fields target address)
        fieldByField

/-- How many objects a block allocated for `n` of them has room for: the
product of the sizes may have wrapped around. -/
def roomFor (platform : Platform) (type : Ty P) (n : Nat) : Nat :=
  if type.sizeof * n < 2 ^ platform.addressBits then n
  else wrap platform (type.sizeof * n) / type.sizeof

def reserve (type : Ty P) (storage : Storage) (n : Nat) :
    DProc P (Storage × Nat) := do
  if storage.allocatedSize < n then
    match ← allocate ctx (type.sizeof * n) with
    | some address =>
        return (⟨address, n⟩, roomFor ctx.data.platform type n)
    | none => fail .errorNoMemory
  else
    return (storage, n)

def resize (type : Ty P) (storage : Storage) (n : Nat) : DProc P Storage := do
  if storage.allocatedSize < n then
    if type.sizeof * n < 2 ^ ctx.data.platform.addressBits then
      match ← allocate ctx (type.sizeof * n) with
      | some address => return ⟨address, n⟩
      | none => throw .exception
    else
      throw .exception
  else
    return storage

/-- The elements of a `std::map`: each is read into a temporary, which the map
moves into a node of its own. -/
def deserializeEach (type : Ty P) (each : type.Obj → Nat → DProc P type.Obj) :
    Nat → List type.Obj → DProc P (List type.Obj)
  | 0, objects => return objects
  | n + 1, objects => do
      let slot := ctx.stackSlot (← get).blocks type.sizeof
      modify fun state =>
        { state with temporaryDepth := state.temporaryDepth + 1 }
      let element ← each (ctx.construct type) slot
      modify fun state =>
        { state with temporaryDepth := state.temporaryDepth - 1 }
      match ← allocate ctx type.sizeof with
      | some _ => deserializeEach type each n (ctx.mapInsert type element objects)
      | none => throw .exception

def deserializeTemplate (kind : ContainerKind) (type : Ty P)
    (each : type.Obj → Nat → DProc P type.Obj) (storage : Storage) :
    DProc P (Storage × List type.Obj) := do
  let size ← deserializeSizeT ctx
  match kind with
  | .vectorT =>
      let (storage, room) ← reserve ctx type storage size
      let objects ← deserializeN ctx type each
        (List.replicate size (ctx.construct type)) room storage.data
      return (storage, objects)
  | .stdVector =>
      let storage ← resize ctx type storage size
      let objects ← deserializeN ctx type each
        (List.replicate size (ctx.construct type)) size storage.data
      return (storage, objects)
  | .stdBasicString =>
      let storage ← resize ctx type storage size
      let n := size + (terminator type).length
      let objects ← deserializeN ctx type each
        (List.replicate n (ctx.construct type)) n storage.data
      return (storage, objects.take size)
  | .stdMap =>
      let objects ← deserializeEach ctx type each size []
      return (storage, objects)

mutual
def deserialize (pointeeType : P → Ty P) (handlers : DHandlers P) :
    (type : Ty P) → type.Obj → Nat → DProc P type.Obj
  | .scalar type, _, _ => deserializeArithmetic ctx type
  | .pointer _ pointee, _, _ =>
      deserializePointer ctx handlers pointeeType pointee
  | .array element _, target, address => do
      let targets := List.ofFn target
      let objects ← deserializeN ctx element
        (deserialize pointeeType handlers element) targets targets.length
        address
      return fun index => objects.getD index (target index)
  | .container kind _ element, target, _ =>
      deserializeTemplate ctx kind element
        (deserialize pointeeType handlers element) target.1
  | .struct decl fields, target, address =>
      deserializeStruct ctx handlers decl fields target address
        (deserializeFields pointeeType handlers fields target.1 address)

def deserializeFields (pointeeType : P → Ty P) (handlers : DHandlers P) :
    (fields : Fields P) → fields.Objs → Nat → DProc P fields.Objs
  | .nil, _, _ => return ()
  | .cons padding field rest, targets, address => do
      let object ← deserialize pointeeType handlers field targets.2.1
        (address + padding)
      let objects ← deserializeFields pointeeType handlers rest targets.2.2
        (address + padding + field.sizeof)
      return (targets.1, object, objects)
end

end Deserialize

end CommonSerialization.Csp.BodyProcessor
