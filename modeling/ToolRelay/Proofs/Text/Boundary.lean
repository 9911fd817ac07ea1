import Mathlib.Data.List.Infix
import ToolRelay.Proofs.Text.Utf8

/-!
# Cutting a text at a number of bytes

A text that is too long is cut where the last character ends that still fits. Told by its bytes
alone, the cut is looked for from the limit backwards, one byte at a time, until a position is found
that lies between two characters. Since every byte of a character but its first continues it, and no
character has more than four bytes, the search is over after three steps at most, and what is in
front of the cut is the longest front part that fits.

## Main definitions

* `Text.isBoundary`: a position in bytes lies between two characters.
* `Text.boundaryFrom?`: the search from a position backwards.
* `Text.truncate?`: a text up to a position in its bytes.
* `Text.cut?`: the whole cut.
* `Text.LongestFront`: the longest front part of a text that fits.

## Main results

* `Text.longestFront_takeBytes`: there is a longest front part, and `takeBytes` gives it.
* `Text.boundaryFrom?_eq`: where the search ends.
* `Text.cut?_eq`: the cut never fails, and gives the longest front part.
-/

namespace ToolRelay.Text

/-! ## The cut -/

/-- A position in bytes lies between two characters: it is one of the two ends, or the byte behind
it does not continue a character. Nothing lies beyond the end. -/
def isBoundary (bytes : List UInt8) (position : Nat) : Bool :=
  position == 0 ||
    match bytes[position]? with
    | some b => !isTail b
    | none => position == bytes.length

/-- Look for a boundary from a position backwards. There is nothing to be found below zero. -/
def boundaryFrom? (bytes : List UInt8) : Nat → Option Nat
  | 0 => if isBoundary bytes 0 then some 0 else none
  | n + 1 => if isBoundary bytes (n + 1) then some (n + 1) else boundaryFrom? bytes n

/-- A text up to a position in its bytes; a position inside a character is a fault. A text that ends
before the position stays as it is. -/
def truncate? (cs : List Char) (position : Nat) : Option (List Char) :=
  let bytes := utf8Bytes cs
  if position ≤ bytes.length then
    if isBoundary bytes position then decodeStrict? (bytes.take position) else none
  else some cs

/-- Cut a text that has more bytes than a limit allows. -/
def cut? (limit : Nat) (cs : List Char) : Option (List Char) :=
  if (utf8Bytes cs).length ≤ limit then some cs
  else (boundaryFrom? (utf8Bytes cs) limit).bind (truncate? cs)

/-- The longest front part of a text that fits a number of bytes. -/
structure LongestFront (limit : Nat) (cs front : List Char) : Prop where
  /-- It is a front part, and so no character is split. -/
  isFront : front <+: cs
  /-- It fits. -/
  fits : (utf8Bytes front).length ≤ limit
  /-- Every front part that fits is part of it. -/
  longest : ∀ other, other <+: cs → (utf8Bytes other).length ≤ limit → other <+: front

/-! ## The bytes of characters -/

theorem isTail_of_lt {x : Nat} (h : x < 64) : isTail (UInt8.ofNat (x + 128)) = true := by
  interval_cases x <;> rfl

theorem isTail_ascii {x : Nat} (h : x < 128) : isTail (UInt8.ofNat x) = false := by
  interval_cases x <;> rfl

theorem isTail_lead {x : Nat} (hlow : 192 ≤ x) (hhigh : x < 256) :
    isTail (UInt8.ofNat x) = false := by
  interval_cases x <;> rfl

/-- The first byte of a character does not continue one, and all others do. -/
theorem exists_utf8Char (c : Char) :
    ∃ lead tails, utf8Char c = lead :: tails ∧ isTail lead = false ∧
      ∀ b ∈ tails, isTail b = true := by
  rw [utf8Char, String.utf8EncodeChar]
  generalize c.val.toNat = v
  have htails (xs : List Nat) :
      ∀ b ∈ xs.map fun x => UInt8.ofNat (x % 64 + 128), isTail b = true :=
    List.forall_mem_map.2 fun x _ => isTail_of_lt (six_lt x)
  -- by the number of bytes; each one but the first holds six bits
  split_ifs
  · exact ⟨_, _, rfl, isTail_ascii (by omega), htails []⟩
  · exact ⟨_, _, rfl, isTail_lead (by omega) (by omega), htails [v]⟩
  · exact ⟨_, _, rfl, isTail_lead (by omega) (by omega), htails [v / 64, v]⟩
  · exact ⟨_, _, rfl, isTail_lead (by omega) (by omega), htails [v / 4096, v / 64, v]⟩

theorem length_utf8Char (c : Char) : (utf8Char c).length = c.utf8Size :=
  String.length_utf8EncodeChar c

theorem utf8Bytes_append (cs ds : List Char) :
    utf8Bytes (cs ++ ds) = utf8Bytes cs ++ utf8Bytes ds :=
  List.flatMap_append

theorem length_utf8Bytes_cons (c : Char) (cs : List Char) :
    (utf8Bytes (c :: cs)).length = c.utf8Size + (utf8Bytes cs).length := by
  rw [utf8Bytes, List.flatMap_cons, List.length_append, length_utf8Char]
  rfl

/-! ## Boundaries -/

section Boundaries

variable {front rest : List Char} {c : Char}

/-- Between two parts of a text there is a boundary. -/
theorem isBoundary_between (front rest : List Char) :
    isBoundary (utf8Bytes (front ++ rest)) (utf8Bytes front).length = true := by
  rw [isBoundary, utf8Bytes_append, List.getElem?_append_right (Nat.le_refl _), Nat.sub_self]
  cases rest with
  | nil => simp [utf8Bytes]
  | cons c rest =>
    -- the byte behind the boundary is the first of the next character
    obtain ⟨lead, tails, hchar, hlead, -⟩ := exists_utf8Char c
    rw [utf8Bytes, utf8Bytes, List.flatMap_cons, hchar]
    simp [hlead]

/-- Inside a character there is none. -/
theorem isBoundary_inside {position : Nat} (hlow : (utf8Bytes front).length < position)
    (hhigh : position < (utf8Bytes front).length + c.utf8Size) :
    isBoundary (utf8Bytes (front ++ c :: rest)) position = false := by
  obtain ⟨lead, tails, hchar, -, htails⟩ := exists_utf8Char c
  have hlength : tails.length + 1 = c.utf8Size := by
    rw [← length_utf8Char, hchar, List.length_cons]
  obtain ⟨k, hk⟩ : ∃ k, position = (utf8Bytes front).length + (k + 1) :=
    ⟨position - (utf8Bytes front).length - 1, by omega⟩
  have hlt : k < tails.length := by omega
  -- the byte behind the position is one of those that continue the character
  have hbyte : (utf8Bytes (front ++ c :: rest))[position]? = some tails[k] := by
    rw [utf8Bytes_append, hk, List.getElem?_append_right (Nat.le_add_right _ _),
      Nat.add_sub_cancel_left, utf8Bytes, List.flatMap_cons, hchar, List.cons_append,
      List.getElem?_cons_succ, List.getElem?_append_left hlt, List.getElem?_eq_getElem hlt]
  have hne : position ≠ 0 := by omega
  simp [isBoundary, hbyte, hne, htails tails[k] (List.getElem_mem hlt)]

/-- The search ends at the first boundary that it comes to. -/
theorem boundaryFrom?_of_boundary {bytes : List UInt8} {position start : Nat}
    (hle : position ≤ start) (hposition : isBoundary bytes position = true)
    (hpassed : ∀ p, position < p → p ≤ start → isBoundary bytes p = false) :
    boundaryFrom? bytes start = some position := by
  induction start with
  | zero =>
    obtain rfl : position = 0 := Nat.le_zero.1 hle
    rw [boundaryFrom?, if_pos hposition]
  | succ start ih =>
    rcases Nat.lt_or_eq_of_le hle with hlt | rfl
    · have hhere : isBoundary bytes (start + 1) = false := hpassed _ hlt (Nat.le_refl _)
      rw [boundaryFrom?, hhere, if_neg Bool.false_ne_true]
      exact ih (by omega) fun p hp hps => hpassed p hp (by omega)
    · rw [boundaryFrom?, if_pos hposition]

/-- At a boundary, a text is truncated to what stands in front of it. -/
theorem truncate?_between (front rest : List Char) :
    truncate? (front ++ rest) (utf8Bytes front).length = some front := by
  have hle : (utf8Bytes front).length ≤ (utf8Bytes (front ++ rest)).length := by
    rw [utf8Bytes_append, List.length_append]
    exact Nat.le_add_right _ _
  rw [truncate?, if_pos hle, if_pos (isBoundary_between front rest), utf8Bytes_append,
    List.take_left]
  exact decodeStrict?_utf8Bytes front

end Boundaries

/-! ## The longest front part -/

section Longest

variable {limit : Nat} {cs front : List Char}

/-- What fits stays as it is. -/
theorem takeBytes_of_fits (h : (utf8Bytes cs).length ≤ limit) : takeBytes limit cs = cs := by
  induction cs generalizing limit with
  | nil => rfl
  | cons c cs ih =>
    rw [length_utf8Bytes_cons] at h
    rw [takeBytes, if_pos (by omega), ih (by omega)]

/-- Of what does not fit, the front part that fits is left, and behind it stands a character that
fits no more. -/
theorem exists_takeBytes (h : limit < (utf8Bytes cs).length) :
    ∃ c rest, cs = takeBytes limit cs ++ c :: rest ∧
      (utf8Bytes (takeBytes limit cs)).length ≤ limit ∧
      limit < (utf8Bytes (takeBytes limit cs)).length + c.utf8Size := by
  induction cs generalizing limit with
  | nil => exact absurd h (Nat.not_lt_zero limit)
  | cons c cs ih =>
    rw [length_utf8Bytes_cons] at h
    rw [takeBytes]
    by_cases hc : c.utf8Size ≤ limit
    · rw [if_pos hc, length_utf8Bytes_cons]
      have hlong : limit - c.utf8Size < (utf8Bytes cs).length := by omega
      obtain ⟨d, rest, hcs, hfits, hnext⟩ := ih hlong
      refine ⟨d, rest, ?_, by omega, by omega⟩
      rw [List.cons_append, ← hcs]
    · rw [if_neg hc]
      refine ⟨c, cs, rfl, Nat.zero_le _, ?_⟩
      show limit < 0 + c.utf8Size
      omega

/-- There is a longest front part that fits, and it is the one that `takeBytes` gives. -/
theorem longestFront_takeBytes (limit : Nat) (cs : List Char) :
    LongestFront limit cs (takeBytes limit cs) := by
  rcases Nat.lt_or_ge limit (utf8Bytes cs).length with hlong | hfits
  · obtain ⟨c, rest, hcs, hfits, hnext⟩ := exists_takeBytes hlong
    generalize takeBytes limit cs = kept at hcs hfits hnext ⊢
    subst hcs
    refine ⟨List.prefix_append _ _, hfits, fun other hother hle => ?_⟩
    rcases List.prefix_or_prefix_of_prefix hother (List.prefix_append _ _) with hin | ⟨more, rfl⟩
    · exact hin
    · -- a longer front part would have the next character as well, and would not fit
      have hmore : more <+: c :: rest := (List.prefix_append_right_inj _).1 hother
      cases more with
      | nil => rw [List.append_nil]
      | cons d more =>
        obtain rfl : d = c := (List.cons_prefix_cons.1 hmore).1
        rw [utf8Bytes_append, List.length_append, length_utf8Bytes_cons] at hle
        omega
  · rw [takeBytes_of_fits hfits]
    exact ⟨List.prefix_rfl, hfits, fun other hother _ => hother⟩

/-- There is only one. -/
theorem LongestFront.eq (h : LongestFront limit cs front) : front = takeBytes limit cs :=
  have htake := longestFront_takeBytes limit cs
  (htake.longest front h.isFront h.fits).eq_of_length_le
    (h.longest _ htake.isFront htake.fits).length_le

/-- The search for the cut of a text that does not fit ends behind the longest front part that does,
at most three steps below the limit. -/
theorem boundaryFrom?_eq (h : limit < (utf8Bytes cs).length) :
    let cut := (utf8Bytes (takeBytes limit cs)).length
    boundaryFrom? (utf8Bytes cs) limit = some cut ∧ cut ≤ limit ∧ limit ≤ cut + 3 := by
  intro cut
  obtain ⟨c, rest, hcs, hfits, hnext⟩ := exists_takeBytes h
  have hfour := c.utf8Size_le_four
  refine ⟨boundaryFrom?_of_boundary hfits ?_ fun p hlow hhigh => ?_, hfits, by omega⟩
  · rw [hcs]
    exact isBoundary_between _ _
  · -- all positions from the cut to the limit are inside the first character that does not fit
    rw [hcs]
    exact isBoundary_inside hlow (by omega)

/-- The longest front part of a text that does not fit ends at a boundary, and has the bytes in
front of it. -/
theorem take_longestFront (h : limit < (utf8Bytes cs).length) :
    let kept := takeBytes limit cs
    isBoundary (utf8Bytes cs) (utf8Bytes kept).length = true ∧
      (utf8Bytes cs).take (utf8Bytes kept).length = utf8Bytes kept := by
  intro kept
  obtain ⟨c, rest, hcs, -⟩ := exists_takeBytes h
  have hbytes : utf8Bytes cs = utf8Bytes (kept ++ c :: rest) := congrArg utf8Bytes hcs
  rw [hbytes]
  refine ⟨isBoundary_between kept (c :: rest), ?_⟩
  rw [utf8Bytes_append, List.take_left]

/-- A text is cut to the longest front part that fits. Neither does the search for the cut go below
zero, nor does the cut split a character. -/
theorem cut?_eq (limit : Nat) (cs : List Char) : cut? limit cs = some (takeBytes limit cs) := by
  rw [cut?]
  split_ifs with hfits
  · rw [takeBytes_of_fits hfits]
  · have hlong : limit < (utf8Bytes cs).length := Nat.lt_of_not_le hfits
    obtain ⟨c, rest, hcs, -⟩ := exists_takeBytes hlong
    rw [(boundaryFrom?_eq hlong).1, Option.bind_some]
    generalize takeBytes limit cs = kept at hcs ⊢
    rw [hcs]
    exact truncate?_between kept (c :: rest)

/-- Two euro signs have six bytes. With room for five, the search goes back over the two bytes that
the second one would begin with. -/
example : boundaryFrom? (utf8Bytes ['€', '€']) 5 = some 3 ∧ cut? 5 ['€', '€'] = some ['€'] := by
  decide

end Longest

end ToolRelay.Text
