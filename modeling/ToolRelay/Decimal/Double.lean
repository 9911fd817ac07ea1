/-!
# Double precision numbers

A 64-bit float is kept as its bit pattern, so that two values are equal exactly when their bits
are. Reading a decimal literal takes two steps: the digits that fit a 64-bit word are
rounded to a double, which is then multiplied or divided by a power of ten in double arithmetic.
-/

namespace ToolRelay

/-- A double precision number, given by its bits. -/
structure Double where
  /-- Sign, exponent and fraction, from the high bit down. -/
  bits : UInt64
  deriving DecidableEq, Repr, Inhabited

namespace Double

/-- The bit pattern of a machine float. -/
def ofFloat (x : Float) : Double := ⟨x.toBits⟩

/-- The double nearest to a power of ten. -/
private def tenPow (k : Nat) : Float := Float.ofScientific 1 false k

/-- A positive number times a power of ten, one or two rounded operations at a time. There is
no value when the product exceeds every double. -/
private def scale (x : Float) (e : Int) : Option Float :=
  if 308 < e then
    if x == 0 then some x else none
  else if 0 ≤ e then
    let y := x * tenPow e.toNat
    if y.isInf then none else some y
  else if -308 ≤ e then some (x / tenPow (-e).toNat)
  else if -616 ≤ e then some (x / tenPow 308 / tenPow (-(e + 308)).toNat)
  else some 0

/-- The value of a literal with the given sign, whose digits make `significand` and whose point and
exponent make `e`. -/
def ofScaled? (negative : Bool) (significand : UInt64) (e : Int) : Option Double :=
  (scale significand.toFloat e).map fun x => ofFloat (if negative then -x else x)

/-- The sign bit is set. -/
def isNegative (x : Double) : Bool := x.bits >>> 63 == 1

/-- Mantissa and binary exponent of the absolute value, which is `m * 2 ^ q`. -/
def parts (x : Double) : Nat × Int :=
  let e := ((x.bits >>> 52) &&& 0x7ff).toNat
  let f := (x.bits &&& 0xfffffffffffff).toNat
  if e == 0 then (f, -1074) else (f + Nat.pow 2 52, (e : Int) - 1075)

end Double

end ToolRelay
