/-! Numbers in double precision by their bits, which tell more apart than comparison does. -/

namespace RecordSearch

/-- A double. The bits keep the sign of zero, and sign and payload of what is no number. -/
structure Double where
  bits : UInt64
  deriving DecidableEq, Repr, Inhabited

namespace Double

def ofFloat (x : Float) : Double := ⟨x.toBits⟩

def toFloat (x : Double) : Float := Float.ofBits x.bits

def signBit : UInt64 := 0x8000000000000000

def negate (x : Double) : Double := ⟨x.bits ^^^ signBit⟩

def isNegative (x : Double) : Bool := signBit ≤ x.bits

/-- The number nearest to an integer; of two equally near, the one with the even mantissa. -/
def nearestFloat (n : Int64) : Float :=
  if n < 0 then -(-n).toUInt64.toFloat else n.toUInt64.toFloat

theorem negate_negate (x : Double) : x.negate.negate = x := by
  rw [negate, negate, UInt64.xor_assoc, UInt64.xor_self, UInt64.xor_zero]

end Double

end RecordSearch
