import ToolRelay.Decimal.Double

/-!
# Shortest decimal text

The fewest decimal digits that read back to a double, found on decimal grids of 1, 2, … 17 digits
in exact arithmetic: the first grid with a point in the rounding interval wins, of two points
the nearer one, and of two equally near ones the even one. The layout is a separate record.
-/

namespace ToolRelay.Decimal

/-- A positive rational number. -/
structure Ratio where
  /-- The numerator. -/
  num : Nat
  /-- The denominator, never zero in use. -/
  den : Nat

/-- The number `m * 2 ^ q`. -/
def Ratio.ofBinary (m : Nat) (q : Int) : Ratio :=
  if 0 ≤ q then ⟨m * Nat.pow 2 q.toNat, 1⟩ else ⟨m, Nat.pow 2 (-q).toNat⟩

/-- The number times a power of ten. -/
def Ratio.shift (r : Ratio) (e : Int) : Ratio :=
  if 0 ≤ e then ⟨r.num * Nat.pow 10 e.toNat, r.den⟩ else ⟨r.num, r.den * Nat.pow 10 (-e).toNat⟩

/-- The least `p` with the number below `10 ^ p`. -/
def Ratio.magnitude (r : Ratio) : Int :=
  let whole := r.num / r.den
  if whole ≠ 0 then (Nat.toDigits 10 whole).length
  else
    match (List.range 400).find? fun j => r.den ≤ r.num * Nat.pow 10 j with
    | some j => 1 - (j : Int)
    | none => 0

/-- Digits and a power of ten: the number `digits * 10 ^ exponent`. -/
structure Numeral where
  /-- The digits as one number. -/
  digits : Nat
  /-- The power of ten that scales them. -/
  exponent : Int
  deriving DecidableEq, Repr

/-- Move trailing zeros of the digits into the exponent. -/
def Numeral.strip (fuel : Nat) (n : Numeral) : Numeral :=
  match fuel with
  | 0 => n
  | fuel + 1 =>
    if n.digits ≠ 0 ∧ n.digits % 10 = 0 then strip fuel ⟨n.digits / 10, n.exponent + 1⟩ else n

/-- The numbers that round to `m * 2 ^ q`, as a test on multiples of a quarter of `2 ^ q`. The
ends belong to the interval when the mantissa is even. -/
private def within (m : Nat) (q : Int) (candidate : Ratio) : Bool :=
  let narrow := m = Nat.pow 2 52 ∧ -1074 < q
  let low := Ratio.ofBinary (if narrow then 4 * m - 1 else 4 * m - 2) (q - 2)
  let high := Ratio.ofBinary (4 * m + 2) (q - 2)
  let atLeast := low.num * candidate.den
  let value := candidate.num * low.den
  let value2 := candidate.num * high.den
  let atMost := high.num * candidate.den
  if m % 2 = 0 then atLeast ≤ value && value2 ≤ atMost else atLeast < value && value2 < atMost

/-- The better of the two grid points around the value, when one of them reads back. -/
private def gridPoint (m : Nat) (q : Int) (v : Ratio) (p : Int) (n : Nat) : Option Numeral :=
  let e := p - n
  let scaled := v.shift (-e)
  let d := scaled.num / scaled.den
  let r := scaled.num % scaled.den
  let point := fun k : Nat => (Ratio.mk k 1).shift e
  let below := d ≠ 0 && within m q (point d)
  let above := within m q (point (d + 1))
  match below, above with
  | true, true =>
    if 2 * r < scaled.den || (2 * r == scaled.den && d % 2 == 0) then some ⟨d, e⟩
    else some ⟨d + 1, e⟩
  | true, false => some ⟨d, e⟩
  | false, true => some ⟨d + 1, e⟩
  | false, false => none

/-- The fewest digits that read back to a positive double. -/
def shortest (x : Double) : Numeral :=
  let (m, q) := x.parts
  if m = 0 then ⟨0, 0⟩
  else
    let v := Ratio.ofBinary m q
    let p := v.magnitude
    match (List.range 17).findSome? fun n => gridPoint m q v p (n + 1) with
    | some n => n.strip 20
    | none => ⟨0, 0⟩

/-- Where positional layout ends and how the rest is written. -/
structure Layout where
  /-- The least scientific exponent that is still written positionally. -/
  leastPositional : Int
  /-- The first scientific exponent that is not written positionally any more. -/
  firstScientific : Int
  /-- The sign of a positive exponent. -/
  plus : String

/-- Decimal digits of a number as characters. -/
def digitChars (n : Nat) : List Char := Nat.toDigits 10 n

/-- Lay out digits with the given power of ten. -/
def Layout.write (l : Layout) (n : Numeral) : String :=
  let ds := digitChars n.digits
  let point : Int := ds.length + n.exponent
  if n.digits = 0 then "0.0"
  else if l.leastPositional ≤ point - 1 ∧ point - 1 < l.firstScientific then
    if 0 ≤ n.exponent then
      String.ofList (ds ++ List.replicate n.exponent.toNat '0' ++ ['.', '0'])
    else if 0 < point then
      String.ofList (ds.take point.toNat ++ '.' :: ds.drop point.toNat)
    else String.ofList ('0' :: '.' :: (List.replicate (-point).toNat '0' ++ ds))
  else
    let fraction := match ds.tail with
      | [] => []
      | r => '.' :: r
    let e := point - 1
    let sign := if e < 0 then "-" else l.plus
    String.ofList (ds.take 1 ++ fraction ++ 'e' :: (sign.toList ++ digitChars e.natAbs))

end ToolRelay.Decimal
