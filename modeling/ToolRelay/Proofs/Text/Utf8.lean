import Mathlib.Tactic.IntervalCases
import ToolRelay.Text.Utf8

/-!
# Decoding what was encoded

The bytes of a text are decoded to that text. A character of several bytes is taken apart into
groups of six bits, and each byte that continues it puts one group back.

## Main results

* `Text.decodeBytes_utf8Char`: a decoder between characters reads the bytes of one character.
* `Text.decodeStrict?_utf8Bytes`: the bytes of a text are UTF-8, and they decode to it.
-/

namespace ToolRelay.Text

/-! ## First bytes -/

theorem lead_two {k : Nat} (hlow : 2 ≤ k) (hhigh : k < 32) :
    Lead.of? (UInt8.ofNat (k + 192)) = some ⟨1, 0x80, 0xbf, k⟩ := by
  interval_cases k <;> rfl

/-- The first byte of three. Of the next byte it keeps out what would fit two bytes, and halves of
surrogate pairs. -/
theorem lead_three {k : Nat} (h : k < 16) : Lead.of? (UInt8.ofNat (k + 224)) =
    some ⟨2, if k = 0 then 0xa0 else 0x80, if k = 13 then 0x9f else 0xbf, k⟩ := by
  interval_cases k <;> rfl

/-- The first byte of four. Of the next byte it keeps out what would fit three bytes, and what lies
beyond the last code point. -/
theorem lead_four {k : Nat} (h : k < 5) : Lead.of? (UInt8.ofNat (k + 240)) =
    some ⟨3, if k = 0 then 0x90 else 0x80, if k = 4 then 0x8f else 0xbf, k⟩ := by
  interval_cases k <;> rfl

theorem decodeStart_lead {b : UInt8} {l : Lead} (h : Lead.of? b = some l) :
    decodeStart b = ([], .inside l.more l.low l.high l.bits) := by
  have hb : ¬b < 0x80 := by
    intro hlt
    have hnone : Lead.of? b = none := by
      have hn : b.toNat < 128 := hlt
      rw [← UInt8.ofNat_toNat (x := b)]
      generalize b.toNat = n at hn
      interval_cases n <;> rfl
    rw [hnone] at h
    cases h
  rw [decodeStart, if_neg hb, h]

/-! ## Bytes that continue -/

section Inside

variable {more bits x : Nat} {low high : UInt8}

/-- A byte in its range puts six bits behind those so far. -/
theorem decodeByte_inside (hx : x < 64) (hlow : low.toNat ≤ x + 128)
    (hhigh : x + 128 ≤ high.toNat) :
    decodeByte (.inside more low high bits) (UInt8.ofNat (x + 128)) =
      if more = 1 then ([some (Char.ofNat (bits * 64 + x))], .start)
      else ([], .inside (more - 1) 0x80 0xbf (bits * 64 + x)) := by
  have hnat : (UInt8.ofNat (x + 128)).toNat = x + 128 := by
    rw [UInt8.toNat_ofNat']
    omega
  have hrange : (low ≤ UInt8.ofNat (x + 128) && UInt8.ofNat (x + 128) ≤ high) = true := by
    rw [Bool.and_eq_true, decide_eq_true_eq, decide_eq_true_eq, UInt8.le_iff_toNat_le,
      UInt8.le_iff_toNat_le, hnat]
    exact ⟨hlow, hhigh⟩
  rw [decodeByte, if_pos hrange, hnat, Nat.add_sub_cancel]

/-- Six bits stand in a byte of the range that all continuing bytes but the second have. -/
theorem tail_range (hx : x < 64) :
    (0x80 : UInt8).toNat ≤ x + 128 ∧ x + 128 ≤ (0xbf : UInt8).toNat :=
  ⟨Nat.le_add_left 128 x, Nat.add_le_add_right (Nat.le_of_lt_succ hx) 128⟩

theorem decodeBytes_cons (s : DecoderState) (b : UInt8) (rest : List UInt8) :
    decodeBytes s (b :: rest) =
      ((decodeByte s b).1 ++ (decodeBytes (decodeByte s b).2 rest).1,
        (decodeBytes (decodeByte s b).2 rest).2) := rfl

/-- A byte that begins a character leads inside it. -/
theorem decodeBytes_lead {b : UInt8} (h : Lead.of? b = some ⟨more, low, high, bits⟩)
    (rest : List UInt8) :
    decodeBytes .start (b :: rest) = decodeBytes (.inside more low high bits) rest := by
  rw [decodeBytes_cons, decodeByte, decodeStart_lead h]
  rfl

/-- A byte that is not the last leads on. -/
theorem decodeBytes_next (hx : x < 64) (hlow : low.toNat ≤ x + 128) (hhigh : x + 128 ≤ high.toNat)
    (rest : List UInt8) :
    decodeBytes (.inside (more + 2) low high bits) (UInt8.ofNat (x + 128) :: rest) =
      decodeBytes (.inside (more + 1) 0x80 0xbf (bits * 64 + x)) rest := by
  rw [decodeBytes_cons, decodeByte_inside hx hlow hhigh, if_neg (by omega)]
  rfl

/-- The last byte completes the character. -/
theorem decodeBytes_last (hx : x < 64) (hlow : low.toNat ≤ x + 128) (hhigh : x + 128 ≤ high.toNat)
    (rest : List UInt8) :
    decodeBytes (.inside 1 low high bits) (UInt8.ofNat (x + 128) :: rest) =
      (some (Char.ofNat (bits * 64 + x)) :: (decodeBytes .start rest).1,
        (decodeBytes .start rest).2) := by
  rw [decodeBytes_cons, decodeByte_inside hx hlow hhigh, if_pos rfl]
  rfl

end Inside

/-! ## Characters and texts -/

section Groups

variable {v : Nat}

theorem six_lt (x : Nat) : x % 64 < 64 := Nat.mod_lt x (by decide)

/-- The second of three bytes is in the range that the first asks for: the code point is too large
for two bytes and no half of a surrogate pair. -/
theorem second_of_three (hlow : 0x800 ≤ v) (hhigh : v < 0xd800 ∨ 0xdfff < v) :
    (if v / 4096 = 0 then 0xa0 else 0x80 : UInt8).toNat ≤ v / 64 % 64 + 128 ∧
      v / 64 % 64 + 128 ≤ (if v / 4096 = 13 then 0x9f else 0xbf : UInt8).toNat := by
  constructor
  · split_ifs
    · change 160 ≤ _
      omega
    · exact (tail_range (six_lt _)).1
  · split_ifs
    · change _ ≤ 159
      omega
    · exact (tail_range (six_lt _)).2

/-- The second of four bytes is in the range that the first asks for: the code point is too large
for three bytes and not beyond the last. -/
theorem second_of_four (hlow : 0x10000 ≤ v) (hhigh : v < 0x110000) :
    (if v / 262144 = 0 then 0x90 else 0x80 : UInt8).toNat ≤ v / 4096 % 64 + 128 ∧
      v / 4096 % 64 + 128 ≤ (if v / 262144 = 4 then 0x8f else 0xbf : UInt8).toNat := by
  constructor
  · split_ifs
    · change 144 ≤ _
      omega
    · exact (tail_range (six_lt _)).1
  · split_ifs
    · change _ ≤ 143
      omega
    · exact (tail_range (six_lt _)).2

end Groups

/-- A character is decoded from its bytes, whatever follows them. -/
theorem decodeBytes_utf8Char (c : Char) (rest : List UInt8) :
    decodeBytes .start (utf8Char c ++ rest) =
      (some c :: (decodeBytes .start rest).1, (decodeBytes .start rest).2) := by
  have hvalid : c.val.toNat < 0xd800 ∨ 0xdfff < c.val.toNat ∧ c.val.toNat < 0x110000 := c.valid
  have hc : Char.ofNat c.val.toNat = c := Char.ofNat_toNat c
  rw [utf8Char, String.utf8EncodeChar]
  generalize c.val.toNat = v at hvalid hc ⊢
  rw [← hc]
  have hlast := tail_range (six_lt v)
  -- by the number of bytes; in each case the groups of six bits make up the code point again
  split_ifs with hone htwo hthree
  · have hlow : UInt8.ofNat v < 0x80 := by
      rw [UInt8.lt_iff_toNat_lt, UInt8.toNat_ofNat']
      change v % 256 < 128
      omega
    have hnat : (UInt8.ofNat v).toNat = v := by
      rw [UInt8.toNat_ofNat']
      omega
    change decodeBytes .start (UInt8.ofNat v :: rest) = _
    rw [decodeBytes_cons, decodeByte, decodeStart, if_pos hlow, hnat]
    rfl
  · have hlead : v / 64 % 32 = v / 64 := by omega
    have hv : v / 64 * 64 + v % 64 = v := by omega
    change decodeBytes .start (_ :: _ :: rest) = _
    rw [hlead, decodeBytes_lead (lead_two (by omega) (by omega)),
      decodeBytes_last (six_lt v) hlast.1 hlast.2, hv]
  · have hlead : v / 4096 % 16 = v / 4096 := by omega
    have hv : (v / 4096 * 64 + v / 64 % 64) * 64 + v % 64 = v := by omega
    obtain ⟨hlow, hhigh⟩ := second_of_three (by omega) (by omega : v < 0xd800 ∨ 0xdfff < v)
    change decodeBytes .start (_ :: _ :: _ :: rest) = _
    rw [hlead, decodeBytes_lead (lead_three (by omega)), decodeBytes_next (six_lt _) hlow hhigh,
      decodeBytes_last (six_lt v) hlast.1 hlast.2, hv]
  · have hlead : v / 262144 % 8 = v / 262144 := by omega
    have hv : ((v / 262144 * 64 + v / 4096 % 64) * 64 + v / 64 % 64) * 64 + v % 64 = v := by omega
    obtain ⟨hlow, hhigh⟩ := second_of_four (by omega) (by omega : v < 0x110000)
    have hthird := tail_range (six_lt (v / 64))
    change decodeBytes .start (_ :: _ :: _ :: _ :: rest) = _
    rw [hlead, decodeBytes_lead (lead_four (by omega)), decodeBytes_next (six_lt _) hlow hhigh,
      decodeBytes_next (six_lt _) hthird.1 hthird.2,
      decodeBytes_last (six_lt v) hlast.1 hlast.2, hv]

theorem decodeBytes_utf8Bytes (cs : List Char) :
    decodeBytes .start (utf8Bytes cs) = (cs.map some, .start) := by
  induction cs with
  | nil => rfl
  | cons c cs ih =>
    rw [utf8Bytes, List.flatMap_cons, decodeBytes_utf8Char, ← utf8Bytes, ih]
    rfl

/-- The bytes of a text are decoded to that text. -/
theorem decodeStrict?_utf8Bytes (cs : List Char) : decodeStrict? (utf8Bytes cs) = some cs := by
  rw [decodeStrict?, decodeBytes_utf8Bytes]
  change (cs.map some).mapM id = some cs
  induction cs with
  | nil => rfl
  | cons c cs ih => rw [List.map_cons, List.mapM_cons, ih]; rfl

end ToolRelay.Text
