import Mathlib.Algebra.Group.Nat.Defs
import Mathlib.Data.List.Basic

namespace CommonSerialization

/-- The octets of `m_high` and `m_low` in memory, the same ones on every
platform. -/
structure Uuid where
  octets : List UInt8
  sized : octets.length = 16
  deriving DecidableEq

namespace Uuid

@[ext] theorem ext {first second : Uuid}
    (equality : first.octets = second.octets) : first = second := by
  cases first
  cases second
  cases equality
  rfl

def ofNat (value : Nat) : Uuid where
  octets := (List.range 16).map fun index => UInt8.ofNat (value / 256 ^ (15 - index))
  sized := by simp

def kNull : Uuid := ofNat 0

end Uuid

end CommonSerialization
