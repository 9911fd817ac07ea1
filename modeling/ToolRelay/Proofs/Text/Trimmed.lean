import Mathlib.Data.List.DropRight
import ToolRelay.Text.Blank

/-!
# Trimmed texts

What trimming a text leaves of it, when the text is put together from parts.

## Main results

* `Text.trimEnd_append`: of a text in two parts, the second is trimmed, unless nothing is left of
  it.
* `Text.trimEnd_append_cons`: what stands before a character that is no blank stays as well.
* `Text.exists_trimEnd_append`: what is trimmed at the end is white space.
* `Text.exists_trimChars`: what is trimmed at both ends is white space.
* `Text.isEmpty_trim_iff`: nothing is left of white space, and of nothing else.
* `Text.trimChars_between`: nothing is trimmed between characters that are no blanks.
-/

namespace ToolRelay.Text

variable {cs blanks rest : List Char}

/-! ## The front -/

theorem trimStart_append_of_blank (h : ∀ c ∈ blanks, isBlank c = true) :
    trimStart (blanks ++ rest) = trimStart rest :=
  List.dropWhile_append_of_pos h

/-- A text that begins with no blank keeps its front. -/
theorem trimStart_of_head (h : ∀ c ∈ cs.head?, isBlank c = false) : trimStart cs = cs := by
  cases cs with
  | nil => rfl
  | cons c cs => exact List.dropWhile_cons_of_neg (by simp [h c rfl])

/-- A trimmed text begins with no blank. -/
theorem dropWhile_trimChars (cs : List Char) : (trimChars cs).dropWhile isBlank = trimChars cs := by
  rcases h : trimChars cs with _ | ⟨c, rest⟩
  · rfl
  · have hfront : trimChars cs <+: trimStart cs := List.rdropWhile_prefix isBlank _
    rw [h] at hfront
    obtain ⟨r, hr⟩ := hfront
    -- trimming the end leaves the first character where trimming the front stopped
    have hhead := List.head?_dropWhile_not isBlank cs
    rw [show cs.dropWhile isBlank = trimStart cs from rfl, ← hr] at hhead
    exact List.dropWhile_cons_of_neg (by simpa using hhead)

/-! ## The end -/

theorem trimEnd_eq_nil_iff : trimEnd cs = [] ↔ ∀ c ∈ cs, isBlank c = true :=
  List.rdropWhile_eq_nil_iff

theorem trimEnd_append_of_blank (h : ∀ c ∈ blanks, isBlank c = true) :
    trimEnd (cs ++ blanks) = trimEnd cs := by
  have hback : ∀ c ∈ blanks.reverse, isBlank c = true := fun c hc => h c (List.mem_reverse.1 hc)
  rw [trimEnd, List.reverse_append, List.dropWhile_append_of_pos hback]
  rfl

/-- What is trimmed at the end is white space. -/
theorem exists_trimEnd_append (cs : List Char) :
    ∃ blanks, cs = trimEnd cs ++ blanks ∧ ∀ c ∈ blanks, isBlank c = true := by
  refine ⟨cs.rtakeWhile isBlank, (List.rdropWhile_append_rtakeWhile).symm, fun c hc => ?_⟩
  exact List.mem_rtakeWhile_imp hc

/-- As long as something is left of the second of two parts, the first one stays as it is. -/
theorem trimEnd_append (h : trimEnd rest ≠ []) : trimEnd (cs ++ rest) = cs ++ trimEnd rest := by
  obtain ⟨blanks, hrest, hblanks⟩ := exists_trimEnd_append rest
  obtain ⟨front, last, hlast⟩ := (List.eq_nil_or_concat' (trimEnd rest)).resolve_left h
  have hkept : isBlank last = false := by
    have hno := List.rdropWhile_last_not isBlank rest h
    simp only [show rest.rdropWhile isBlank = trimEnd rest from rfl, hlast,
      List.getLast_append_singleton] at hno
    simpa using hno
  have hall : cs ++ rest = cs ++ front ++ [last] ++ blanks := by
    rw [hrest, hlast]
    simp only [List.append_assoc]
  rw [hall, trimEnd_append_of_blank hblanks, hlast, ← List.append_assoc]
  exact List.rdropWhile_concat_neg isBlank _ last (by simp [hkept])

/-- A character that is no blank stays, and so does what stands before it. -/
theorem trimEnd_append_cons {c : Char} (hc : isBlank c = false) (cs text : List Char) :
    trimEnd (cs ++ c :: text) = cs ++ c :: trimEnd text := by
  have hlast : trimEnd (cs ++ [c]) = cs ++ [c] :=
    List.rdropWhile_concat_neg isBlank cs c (by simp [hc])
  rw [List.append_cons]
  by_cases hleft : trimEnd text = []
  · rw [trimEnd_append_of_blank (trimEnd_eq_nil_iff.1 hleft), hleft, hlast]
  · rw [trimEnd_append hleft, List.append_assoc]
    rfl

/-! ## Both ends -/

/-- A text is what is left of it when it is trimmed, between white space. -/
theorem exists_trimChars (cs : List Char) :
    ∃ front back, cs = front ++ trimChars cs ++ back ∧ (∀ b ∈ front, isBlank b = true) ∧
      ∀ b ∈ back, isBlank b = true := by
  obtain ⟨back, hback, hblank⟩ := exists_trimEnd_append (trimStart cs)
  refine ⟨cs.takeWhile isBlank, back, ?_, List.all_eq_true.1 List.all_takeWhile, hblank⟩
  rw [List.append_assoc, trimChars, ← hback]
  exact List.takeWhile_append_dropWhile.symm

/-- A text is trimmed to nothing if it is nothing but white space. -/
theorem isEmpty_trim_iff (s : String) :
    (trim s).isEmpty = true ↔ s.toList.all isBlank = true := by
  rw [String.isEmpty_iff, trim, ← String.ofList_nil, String.ofList_inj, List.all_eq_true]
  constructor
  · intro hnil
    obtain ⟨front, back, hs, hfront, hback⟩ := exists_trimChars s.toList
    rw [hnil, List.append_nil] at hs
    rw [hs]
    exact List.forall_mem_append.2 ⟨hfront, hback⟩
  · intro hblank
    rw [trimChars, trimStart, List.dropWhile_eq_nil_iff.2 hblank]
    rfl

/-- White space at the ends of a text makes no difference to what is left of it. -/
theorem trimChars_around {front back : List Char} (hfront : ∀ b ∈ front, isBlank b = true)
    (hback : ∀ b ∈ back, isBlank b = true) (cs : List Char) :
    trimChars (front ++ cs ++ back) = trimChars cs := by
  rw [trimChars, List.append_assoc, trimStart_append_of_blank hfront, trimStart,
    List.dropWhile_append]
  split_ifs with hempty
  · -- nothing but white space
    have hleft : trimStart cs = [] := List.isEmpty_iff.1 hempty
    rw [List.dropWhile_eq_nil_iff.2 hback, trimChars, hleft]
  · exact trimEnd_append_of_blank hback

/-- Nothing is trimmed between characters that are no blanks. -/
theorem trimChars_between {first last : Char} (hfirst : isBlank first = false)
    (hlast : isBlank last = false) (cs : List Char) :
    trimChars (first :: (cs ++ [last])) = first :: (cs ++ [last]) := by
  simp [trimChars, trimStart, trimEnd, hfirst, hlast]

end ToolRelay.Text
