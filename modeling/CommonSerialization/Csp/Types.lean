import CommonSerialization.Common.Platform

namespace CommonSerialization.Csp

/-! The data a message body is made of: the types as the compiler has laid them
out, and the objects of each type. -/

inductive IntegerName
  | bool
  | char (isSigned : Bool)
  | signedChar
  | unsignedChar
  | wchar (isSigned : Bool)
  | short
  | unsignedShort
  | int
  | unsignedInt
  | long
  | unsignedLong
  | longLong
  | unsignedLongLong
  | char8
  | char16
  | char32
  deriving DecidableEq, Repr

namespace IntegerName

/-- The names the concept `Signed` lists. -/
def signed : IntegerName → Bool
  | char _ | signedChar | short | int | long | longLong => true
  | _ => false

def isSigned : IntegerName → Bool
  | char isSigned | wchar isSigned => isSigned
  | signedChar | short | int | long | longLong => true
  | _ => false

def fixSizedArithmeticType : IntegerName → Bool
  | char8 | char16 | char32 => true
  | _ => false

end IntegerName

inductive ScalarType
  | integral (name : IntegerName) (size : Width) (isConst : Bool)
  | enumeration (underlying : IntegerName) (size : Width) (isConst : Bool)
  | float
  | double
  deriving DecidableEq, Repr

namespace ScalarType

def size : ScalarType → Width
  | integral _ size _ | enumeration _ size _ => size
  | float => .four
  | double => .eight

def isFloatingPoint : ScalarType → Bool
  | float | double => true
  | _ => false

def isSigned : ScalarType → Bool
  | integral name _ _ | enumeration name _ _ => name.isSigned
  | float | double => true

/-- `std::is_same` sees the qualifier of an integral type, while
`std::underlying_type` has none. -/
def signed : ScalarType → Bool
  | integral name _ isConst => !isConst && name.signed
  | enumeration underlying _ _ => underlying.signed
  | float | double => true

def fixSizedArithmeticOrEnumType : ScalarType → Bool
  | integral name _ _ | enumeration name _ _ => name.fixSizedArithmeticType
  | float | double => true

end ScalarType

structure Tags where
  simplyAssignable : Bool
  simplyAssignableAlignedToOne : Bool
  simplyAssignableFixedSize : Bool
  alwaysSimplyAssignable : Bool
  endiannessTolerant : Bool
  emptyType : Bool
  deriving DecidableEq, Repr

namespace Tags

def none : Tags := ⟨false, false, false, false, false, false⟩

end Tags

/-- Which of the two macros a specialised function starts with. -/
inductive Prologue
  | none
  | anySimplyAssignable
  | common
  deriving DecidableEq, Repr

/-- The function that overload resolution finds for a struct. -/
inductive BodyFunction
  | generic
  | fieldByField (prologue : Prologue)
  deriving DecidableEq, Repr

structure Versioning where
  kInterfaceVersion : Nat
  kPrivateVersions : List Nat
  effectiveMandatoryDataFlags : BitVec 32
  effectiveForbiddenDataFlags : BitVec 32
  deriving DecidableEq, Repr

structure StructDecl where
  name : Nat
  tags : Tags
  alignment : Nat
  tailPadding : Nat
  iSerializable : Option Versioning
  function : BodyFunction
  deriving DecidableEq, Repr

inductive ContainerKind
  | vectorT
  | stdVector
  | stdBasicString
  | stdMap
  deriving DecidableEq, Repr

mutual
/-- The types of a program; `P` names the types that pointers point to. -/
inductive Ty (P : Type) : Type
  | scalar (type : ScalarType)
  | pointer (size : Nat) (pointee : P)
  | array (element : Ty P) (length : Nat)
  | container (kind : ContainerKind) (size : Nat) (element : Ty P)
  | struct (decl : StructDecl) (fields : Fields P)

/-- The fields in memory order, each after the padding that aligns it. -/
inductive Fields (P : Type) : Type
  | nil
  | cons (padding : Nat) (field : Ty P) (rest : Fields P)
end

structure Storage where
  data : Nat
  allocatedSize : Nat
  deriving DecidableEq, Repr

def Storage.empty : Storage := ⟨0, 0⟩

mutual
/-- A pointer holds an address; the null pointer is `0`. -/
@[reducible] def Ty.Obj : Ty P → Type
  | .scalar type => Word type.size
  | .pointer _ _ => Nat
  | .array element length => Fin length → element.Obj
  | .container _ _ element => Storage × List element.Obj
  | .struct decl fields => fields.Objs × (Fin decl.tailPadding → UInt8)

@[reducible] def Fields.Objs : Fields P → Type
  | .nil => Unit
  | .cons padding field rest => (Fin padding → UInt8) × field.Obj × rest.Objs
end

mutual
/-- What is left of an object when padding and storage are forgotten. -/
@[reducible] def Ty.Value : Ty P → Type
  | .scalar type => Word type.size
  | .pointer _ _ => Nat
  | .array element length => Fin length → element.Value
  | .container _ _ element => List element.Value
  | .struct _ fields => fields.Values

@[reducible] def Fields.Values : Fields P → Type
  | .nil => Unit
  | .cons _ field rest => field.Value × rest.Values
end

mutual
def Ty.valueOf : (type : Ty P) → type.Obj → type.Value
  | .scalar _, object => object
  | .pointer _ _, object => object
  | .array element _, object => fun index => element.valueOf (object index)
  | .container _ _ element, object => object.2.map element.valueOf
  | .struct _ fields, object => fields.valuesOf object.1

def Fields.valuesOf : (fields : Fields P) → fields.Objs → fields.Values
  | .nil, _ => ()
  | .cons _ field rest, objects =>
      (field.valueOf objects.2.1, rest.valuesOf objects.2.2)
end

mutual
def Ty.sizeof : Ty P → Nat
  | .scalar type => type.size.bytes
  | .pointer size _ => size
  | .array element length => element.sizeof * length
  | .container _ size _ => size
  | .struct decl fields => fields.sizeof + decl.tailPadding

def Fields.sizeof : Fields P → Nat
  | .nil => 0
  | .cons padding field rest => padding + field.sizeof + rest.sizeof
end

mutual
/-- No pointer and no container inside: the bytes of an object are its
value. -/
def Ty.plain : Ty P → Bool
  | .scalar _ => true
  | .pointer _ _ => false
  | .array element _ => element.plain
  | .container _ _ _ => false
  | .struct _ fields => fields.plain

def Fields.plain : Fields P → Bool
  | .nil => true
  | .cons _ field rest => field.plain && rest.plain
end

mutual
/-- The object representation of an object of a plain type. -/
def Ty.image (platform : Platform) : (type : Ty P) → type.Obj → List UInt8
  | .scalar type, object => platform.store type.size object
  | .pointer _ _, _ => []
  | .array element _, object =>
      (List.ofFn object).flatMap (element.image platform)
  | .container _ _ _, _ => []
  | .struct _ fields, object =>
      fields.image platform object.1 ++ List.ofFn object.2

def Fields.image (platform : Platform) :
    (fields : Fields P) → fields.Objs → List UInt8
  | .nil, _ => []
  | .cons _ field rest, objects =>
      List.ofFn objects.1 ++ field.image platform objects.2.1 ++
        rest.image platform objects.2.2
end

mutual
def Ty.ofImage (platform : Platform) : (type : Ty P) → List UInt8 → type.Obj
  | .scalar type, octets =>
      platform.load type.size (octets.take type.size.bytes)
  | .pointer _ _, _ => (0 : Nat)
  | .array element _, octets => fun index =>
      element.ofImage platform (octets.drop (element.sizeof * index))
  | .container _ _ _, _ => (Storage.empty, [])
  | .struct _ fields, octets =>
      (fields.ofImage platform octets,
        fun index => octets.getD (fields.sizeof + index) 0)

def Fields.ofImage (platform : Platform) :
    (fields : Fields P) → List UInt8 → fields.Objs
  | .nil, _ => ()
  | .cons padding field rest, octets =>
      (fun index => octets.getD index 0,
        field.ofImage platform (octets.drop padding),
        rest.ofImage platform (octets.drop (padding + field.sizeof)))
end

namespace Ty

def isArithmeticOrEnum : Ty P → Bool
  | scalar _ => true
  | _ => false

def tags : Ty P → Tags
  | struct decl _ => decl.tags
  | _ => Tags.none

def iSerializable : Ty P → Option Versioning
  | struct decl _ => decl.iSerializable
  | _ => none

/-- Only the alignment of structs is ever asked for. -/
def alignmentIsOne : Ty P → Bool
  | struct decl _ => decl.alignment == 1
  | _ => false

def simplyAssignable (type : Ty P) : Bool :=
  type.tags.simplyAssignable

def simplyAssignableAlignedToOne (type : Ty P) : Bool :=
  type.tags.simplyAssignableAlignedToOne && type.alignmentIsOne

def simplyAssignableFixedSize (type : Ty P) : Bool :=
  type.tags.simplyAssignableFixedSize

def alwaysSimplyAssignable (type : Ty P) : Bool :=
  type.tags.alwaysSimplyAssignable && type.alignmentIsOne

def anySimplyAssignable (type : Ty P) : Bool :=
  type.alwaysSimplyAssignable || type.simplyAssignableFixedSize ||
    type.simplyAssignableAlignedToOne || type.simplyAssignable

def endiannessTolerant (type : Ty P) : Bool :=
  type.tags.endiannessTolerant || type.sizeof == 1

def emptyType (type : Ty P) : Bool :=
  type.tags.emptyType

def getLatestInterfaceVersion (type : Ty P) : Nat :=
  match type.iSerializable with
  | some versioning => versioning.kInterfaceVersion
  | none => 0

end Ty

end CommonSerialization.Csp
