import Mathlib.Data.String.Basic
import ToolRelay.Text.Utf8

/-!
# The order of texts and of their bytes

Texts are ordered by their characters, and characters by their code points. In UTF-8 this is the
order of their bytes: of two characters the greater one has more bytes, and then a greater first
byte, or as many, and then the groups of bits stand in them from the highest to the lowest.

## Main results

* `Text.utf8Char_append_lt`: the bytes of a smaller character are smaller, whatever follows.
* `Text.lt_iff_utf8Bytes`, `Text.le_iff_utf8Bytes`: texts are ordered like their bytes.
-/

namespace ToolRelay.Text

theorem ofNat_lt_ofNat {x y : Nat} (hy : y < 256) (h : x < y) : UInt8.ofNat x < UInt8.ofNat y := by
  rw [UInt8.lt_iff_toNat_lt, UInt8.toNat_ofNat', UInt8.toNat_ofNat']
  omega

variable {bytes bytes' : List UInt8}

/-- A smaller first byte decides. -/
theorem cons_lt_of_lt {x y : Nat} (hy : y < 256) (h : x < y) :
    UInt8.ofNat x :: bytes < UInt8.ofNat y :: bytes' :=
  List.cons_lt_cons_iff.2 (Or.inl (ofNat_lt_ofNat hy h))

/-- Groups of bits decide one after the other. -/
theorem cons_lt_of_groups {mark x y : Nat} (hy : y + mark < 256)
    (h : x < y ∨ x = y ∧ bytes < bytes') :
    UInt8.ofNat (x + mark) :: bytes < UInt8.ofNat (y + mark) :: bytes' := by
  rcases h with hlt | ⟨rfl, hrest⟩
  · exact cons_lt_of_lt hy (by omega)
  · exact List.cons_lt_cons_iff.2 (Or.inr ⟨rfl, hrest⟩)

/-- The lowest six bits decide when all others are the same. -/
theorem lt_or_of_lt {x y : Nat} (h : x < y) :
    x / 64 < y / 64 ∨ x / 64 = y / 64 ∧ x % 64 < y % 64 := by
  omega

/-- The bytes of a smaller character are smaller, whatever follows. -/
theorem utf8Char_append_lt {c d : Char} (h : c < d) (bytes bytes' : List UInt8) :
    utf8Char c ++ bytes < utf8Char d ++ bytes' := by
  have hlt : c.val.toNat < d.val.toNat := h
  have hd : d.val.toNat < 0xd800 ∨ 0xdfff < d.val.toNat ∧ d.val.toNat < 0x110000 := d.valid
  rw [utf8Char, utf8Char, String.utf8EncodeChar, String.utf8EncodeChar]
  generalize c.val.toNat = v at hlt
  generalize d.val.toNat = w at hlt hd
  have hlast {x y : Nat} (hxy : x % 64 < y % 64) :
      UInt8.ofNat (x % 64 + 128) :: bytes < UInt8.ofNat (y % 64 + 128) :: bytes' :=
    cons_lt_of_groups (by omega) (Or.inl hxy)
  -- by the number of bytes of both; first bytes of characters of different lengths differ
  split_ifs
  · exact cons_lt_of_lt (by omega) hlt
  · exact cons_lt_of_lt (by omega) (by omega)
  · exact cons_lt_of_lt (by omega) (by omega)
  · exact cons_lt_of_lt (by omega) (by omega)
  · omega
  · have hgroups : v / 64 % 32 < w / 64 % 32 ∨ v / 64 % 32 = w / 64 % 32 ∧ v % 64 < w % 64 := by
      omega
    exact cons_lt_of_groups (by omega) (hgroups.imp_right (And.imp_right hlast))
  · exact cons_lt_of_lt (by omega) (by omega)
  · exact cons_lt_of_lt (by omega) (by omega)
  · omega
  · omega
  · have hgroups : v / 4096 % 16 < w / 4096 % 16 ∨ v / 4096 % 16 = w / 4096 % 16 ∧
        (v / 64 % 64 < w / 64 % 64 ∨ v / 64 % 64 = w / 64 % 64 ∧ v % 64 < w % 64) := by omega
    refine cons_lt_of_groups (by omega) (hgroups.imp_right (And.imp_right fun h => ?_))
    exact cons_lt_of_groups (by omega) (h.imp_right (And.imp_right hlast))
  · exact cons_lt_of_lt (by omega) (by omega)
  · omega
  · omega
  · omega
  · have hgroups : v / 262144 % 8 < w / 262144 % 8 ∨ v / 262144 % 8 = w / 262144 % 8 ∧
        (v / 4096 % 64 < w / 4096 % 64 ∨ v / 4096 % 64 = w / 4096 % 64 ∧
          (v / 64 % 64 < w / 64 % 64 ∨ v / 64 % 64 = w / 64 % 64 ∧ v % 64 < w % 64)) := by
      rw [← Nat.div_div_eq_div_mul v 64 64, ← Nat.div_div_eq_div_mul w 64 64]
      rcases lt_or_of_lt hlt with h | h
      · rcases lt_or_of_lt h with h | h <;> omega
      · omega
    refine cons_lt_of_groups (by omega) (hgroups.imp_right (And.imp_right fun h => ?_))
    refine cons_lt_of_groups (by omega) (h.imp_right (And.imp_right fun h => ?_))
    exact cons_lt_of_groups (by omega) (h.imp_right (And.imp_right hlast))

theorem utf8Char_ne_nil (c : Char) : utf8Char c ≠ [] := by
  rw [utf8Char, String.utf8EncodeChar]
  split_ifs <;> exact List.cons_ne_nil _ _

/-- What follows the same bytes decides. -/
theorem append_lt_append_left (front : List UInt8) (h : bytes < bytes') :
    front ++ bytes < front ++ bytes' := by
  induction front with
  | nil => exact h
  | cons b front ih => exact List.cons_lt_cons_iff.2 (Or.inr ⟨rfl, ih⟩)

theorem utf8Bytes_cons (c : Char) (cs : List Char) :
    utf8Bytes (c :: cs) = utf8Char c ++ utf8Bytes cs := rfl

/-- The bytes of a smaller text are smaller. -/
theorem utf8Bytes_lt {cs ds : List Char} (h : cs < ds) : utf8Bytes cs < utf8Bytes ds := by
  induction cs generalizing ds with
  | nil =>
    cases ds with
    | nil => exact absurd h (List.lt_irrefl _)
    | cons d ds =>
      rw [utf8Bytes_cons]
      cases hd : utf8Char d with
      | nil => exact absurd hd (utf8Char_ne_nil d)
      | cons b more => exact List.nil_lt_cons _ _
  | cons c cs ih =>
    cases ds with
    | nil => exact absurd h (List.not_lt_nil _)
    | cons d ds =>
      rcases List.cons_lt_cons_iff.1 h with hlt | ⟨rfl, hrest⟩
      · exact utf8Char_append_lt hlt _ _
      · exact append_lt_append_left _ (ih hrest)

/-- Texts are ordered like their bytes. -/
theorem lt_iff_utf8Bytes {a b : String} : a < b ↔ utf8Bytes a.toList < utf8Bytes b.toList := by
  refine ⟨fun h => utf8Bytes_lt (String.lt_iff_toList_lt.1 h), fun h => ?_⟩
  -- if the texts were the same or the other way round, so would their bytes be
  rcases lt_trichotomy a b with hlt | rfl | hgt
  · exact hlt
  · exact absurd h (List.lt_irrefl _)
  · exact absurd h (List.lt_asymm (utf8Bytes_lt (String.lt_iff_toList_lt.1 hgt)))

theorem le_iff_utf8Bytes {a b : String} : a ≤ b ↔ utf8Bytes a.toList ≤ utf8Bytes b.toList := by
  rw [← not_lt, ← List.not_lt, lt_iff_utf8Bytes]

end ToolRelay.Text
