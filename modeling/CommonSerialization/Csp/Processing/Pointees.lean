import CommonSerialization.Csp.Processing.VersionConverter

namespace CommonSerialization.Csp

open BodyProcessor VersionConverter

/-! The calls that leave the type of an object, for a whole body: pointers are
followed into the memory of the program, and structs are converted. -/

/-- The objects that the pointers of a program point to. -/
structure Memory (P : Type) where
  pointeeType : P → Ty P
  object : (pointee : P) → Nat → Option (pointeeType pointee).Obj

section Serialize

variable (ctx : SContext) (conversions : Conversions P) (memory : Memory P)

def serializePointee (handlers : SHandlers P) (pointee : P) (address : Nat) :
    SProc Unit :=
  match memory.object pointee address with
  | some object =>
      BodyProcessor.serialize ctx handlers (memory.pointeeType pointee) object address
  | none => throw .undefinedBehaviour

/-- At most so many pointers and conversions inside one another. -/
def SHandlers.ofMemory : Nat → SHandlers P
  | 0 =>
      { pointee := fun _ _ => throw .outOfFuel
        toOldStructIfNeed :=
          toOldStructIfNeed ctx conversions (fun _ _ _ => throw .outOfFuel) 0 }
  | fuel + 1 =>
      { pointee := serializePointee ctx memory (ofMemory fuel)
        toOldStructIfNeed :=
          toOldStructIfNeed ctx conversions
            (fun older => BodyProcessor.serialize ctx (ofMemory fuel) older.type)
            (fuel + 1) }

end Serialize

section Deserialize

variable (ctx : DContext P) (conversions : Conversions P) (pointeeType : P → Ty P)

/-- `deserialize(ctx, *value)` for an object that `allocateAndDefaultConstruct`
has put into the container of added pointers. -/
def deserializePointee (handlers : DHandlers P) (pointee : P) (address : Nat) :
    DProc P Unit := do
  let type := pointeeType pointee
  modify fun state =>
    { state with
      addedPointers := ⟨address, type, ctx.construct type⟩ :: state.addedPointers }
  let object ←
    BodyProcessor.deserialize ctx pointeeType handlers type (ctx.construct type) address
  modify fun state =>
    { state with
      addedPointers := state.addedPointers.map fun added =>
        if added.address = address then ⟨address, type, object⟩ else added }

def DHandlers.ofTypes : Nat → DHandlers P
  | 0 =>
      { pointee := fun _ _ => throw .outOfFuel
        fromOldStructIfNeed := fun decl fields object _ =>
          fromOldStructIfNeed ctx conversions (fun _ _ _ => throw .outOfFuel) decl fields
            object }
  | fuel + 1 =>
      { pointee := deserializePointee ctx pointeeType (ofTypes fuel)
        fromOldStructIfNeed := fun decl fields object _ =>
          fromOldStructIfNeed ctx conversions
            (fun source =>
              BodyProcessor.deserialize ctx pointeeType (ofTypes fuel) source.type)
            decl fields object }

end Deserialize

end CommonSerialization.Csp
