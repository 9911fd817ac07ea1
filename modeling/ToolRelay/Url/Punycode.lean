import ToolRelay.Text.Blank

/-!
# Punycode

Labels of a domain name with characters beyond ASCII, written in ASCII (RFC 3492): the ASCII
characters come first, and the others follow as differences of code points in digits of base 36,
whose thresholds adapt to the size of the differences.
-/

namespace ToolRelay.Url.Punycode

/-- The digit with a value below 36. -/
def digitChar (d : Nat) : Char :=
  if d < 26 then Char.ofNat (97 + d) else Char.ofNat (22 + d)

/-- The value of a digit of either case. -/
def digitValue? (c : Char) : Option Nat :=
  if 'a' ≤ c && c ≤ 'z' then some (c.toNat - 97)
  else if 'A' ≤ c && c ≤ 'Z' then some (c.toNat - 65)
  else if Text.isDigit c then some (c.toNat - 22)
  else none

/-- The threshold of a digit at a position. -/
def threshold (k bias : Nat) : Nat :=
  if k ≤ bias then 1 else if bias + 26 ≤ k then 26 else k - bias

/-- Divide by 35 until at most 455 is left, and count the steps in units of 36. -/
def reduce (fuel delta k : Nat) : Nat × Nat :=
  match fuel with
  | 0 => (delta, k)
  | fuel + 1 => if 455 < delta then reduce fuel (delta / 35) (k + 36) else (delta, k)

/-- The next bias. -/
def adapt (delta count : Nat) (first : Bool) : Nat :=
  let delta := if first then delta / 700 else delta / 2
  let delta := delta + delta / count
  let (delta, k) := reduce delta delta 0
  k + 36 * delta / (delta + 38)

/-- The digits of a difference. -/
def encodeNumber (fuel bias k q : Nat) : List Char :=
  match fuel with
  | 0 => []
  | fuel + 1 =>
    let t := threshold k bias
    if q < t then [digitChar q]
    else
      digitChar (t + (q - t) % (36 - t)) :: encodeNumber fuel bias (k + 36) ((q - t) / (36 - t))

/-- Where an encoder stands. -/
structure EncoderState where
  /-- What was written. -/
  out : List Char
  /-- The difference since the last digits. -/
  delta : Nat
  /-- The current bias. -/
  bias : Nat
  /-- How many characters were handled. -/
  handled : Nat

/-- Pass one character of the label when the code point `m` is due. -/
def encodeStep (basic m : Nat) (s : EncoderState) (c : Char) : EncoderState :=
  if c.toNat < m then { s with delta := s.delta + 1 }
  else if c.toNat = m then
    { out := s.out ++ encodeNumber (s.delta + 1) s.bias 36 s.delta
      delta := 0
      bias := adapt s.delta (s.handled + 1) (s.handled == basic)
      handled := s.handled + 1 }
  else s

/-- Write the code points that are due, in ascending order. -/
def encodeFrom (label : List Char) (basic : Nat) : List Nat → Nat → EncoderState → EncoderState
  | [], _, s => s
  | m :: rest, n, s =>
    let s := { s with delta := s.delta + (m - n) * (s.handled + 1) }
    let s := label.foldl (encodeStep basic m) s
    encodeFrom label basic rest (m + 1) { s with delta := s.delta + 1 }

/-- The written form of a label. -/
def encode (label : List Char) : List Char :=
  let basic := label.filter (·.toNat < 128)
  let due := ((label.map Char.toNat).filter (128 ≤ ·)).mergeSort.eraseDups
  let s := encodeFrom label basic.length due 128 ⟨[], 0, 72, basic.length⟩
  basic ++ (if basic.isEmpty then [] else ['-']) ++ s.out

/-- Read the digits of a difference; `w` is the weight of the next digit. -/
def decodeNumber (bias : Nat) : List Char → Nat → Nat → Nat → Option (Nat × List Char)
  | [], _, _, _ => none
  | c :: rest, k, w, i => do
    let d ← digitValue? c
    let t := threshold k bias
    let i := i + d * w
    if d < t then some (i, rest) else decodeNumber bias rest (k + 36) (w * (36 - t)) i

/-- Read differences and insert their code points. -/
def decodeFrom (fuel : Nat) (out : List Char) (n i bias : Nat) (cs : List Char) :
    Option (List Char) :=
  match fuel, cs with
  | _, [] => some out
  | 0, _ => none
  | fuel + 1, cs => do
    let (next, rest) ← decodeNumber bias cs 36 1 i
    let count := out.length + 1
    let bias := adapt (next - i) count (i == 0)
    let n := n + next / count
    if 0x10ffff < n ∨ (0xd800 ≤ n ∧ n ≤ 0xdfff) then none
    else
      let place := next % count
      decodeFrom fuel (out.take place ++ Char.ofNat n :: out.drop place) n (place + 1) bias rest

/-- The label that a written form denotes. -/
def decode? (cs : List Char) : Option (List Char) :=
  let tail := (cs.reverse.takeWhile (· ≠ '-')).reverse
  let basic := if tail.length = cs.length then [] else cs.take (cs.length - tail.length - 1)
  if basic.all (·.toNat < 128) then decodeFrom tail.length basic 128 0 72 tail else none

end ToolRelay.Url.Punycode
