import ToolRelay.Proofs.Json.RoundTrip

/-!
# Texts of a value

A text of a value is its compact text with blanks wherever JSON allows them: before a token, and at
the end. The reader reads every text of a well-formed value as the value. A spelling goes on being
one when more text follows, and the text of an object ends with its brace, so that no white space at
the end belongs to it.

## Main definitions

* `Json.TextOf`: a text of a value.

## Main results

* `Json.Spells.append`: more text may follow a spelling.
* `Json.TextOf.read?`: a text of a value is read as the value.
* `Json.TextOf.of_append_blank`: the text of an object without white space at its end is still one.
-/

namespace ToolRelay.Json

variable {cs rest t : List Char}

/-! ## What follows a spelling -/

/-- What is left behind a token is the end of the text. -/
theorem suffix_of_skipBlanks (token : List Char) (h : skipBlanks cs = token ++ rest) :
    rest <:+ cs := by
  have hskip : skipBlanks cs <:+ cs := List.dropWhile_suffix _
  exact List.IsSuffix.trans ⟨token, h.symm⟩ hskip

theorem suffix_of_skipBlanks_writeString {s : String} (h : skipBlanks cs = writeString s rest) :
    rest <:+ cs := by
  rw [writeString, List.append_cons] at h
  exact suffix_of_skipBlanks ('"' :: (s.toList.flatMap escapeChar ++ ['"'])) h

mutual

/-- What follows the spelling of a value is the end of the text. -/
theorem Spells.suffix {cs rest : List Char} {v : Json} (h : Spells cs v rest) : rest <:+ cs := by
  cases h with
  | null hcs => exact suffix_of_skipBlanks _ hcs
  | bool hcs => exact suffix_of_skipBlanks _ hcs
  | int hcs _ _ => exact suffix_of_skipBlanks _ hcs
  | str hcs => exact suffix_of_skipBlanks_writeString hcs
  | noItems hcs hcs' =>
    exact (suffix_of_skipBlanks [']'] hcs').trans (suffix_of_skipBlanks ['['] hcs)
  | arr hcs hitems => exact hitems.suffix.trans (suffix_of_skipBlanks ['['] hcs)
  | noMembers hcs hcs' =>
    exact (suffix_of_skipBlanks ['\x7d'] hcs').trans (suffix_of_skipBlanks ['\x7b'] hcs)
  | obj hcs hmembers =>
    exact ((List.suffix_cons _ _).trans hmembers.suffix).trans (suffix_of_skipBlanks ['\x7b'] hcs)

theorem SpellsItems.suffix {cs rest : List Char} {items : List Json}
    (h : SpellsItems cs items rest) : rest <:+ cs := by
  cases h with
  | last hv hclose => exact (suffix_of_skipBlanks [']'] hclose).trans hv.suffix
  | cons hv hcomma hrest =>
    exact (hrest.suffix.trans (suffix_of_skipBlanks [','] hcomma)).trans hv.suffix

/-- Members end with a brace. -/
theorem SpellsMembers.suffix {cs rest : List Char} {members : List (String × Json)}
    (h : SpellsMembers cs members rest) : '\x7d' :: rest <:+ cs := by
  cases h with
  | @last _ k cs₁ cs₂ v cs₃ _ hk hcolon hv hclose =>
    have hbrace : '\x7d' :: rest <:+ cs₃ := hclose ▸ List.dropWhile_suffix _
    exact ((hbrace.trans hv.suffix).trans (suffix_of_skipBlanks [':'] hcolon)).trans
      (suffix_of_skipBlanks_writeString hk)
  | cons hk hcolon hv hcomma hrest =>
    have hrest := hrest.suffix.trans (suffix_of_skipBlanks [','] hcomma)
    exact ((hrest.trans hv.suffix).trans (suffix_of_skipBlanks [':'] hcolon)).trans
      (suffix_of_skipBlanks_writeString hk)

end

/-- The spelling of an object ends with a brace. -/
theorem Spells.brace_suffix {members : List (String × Json)} (h : Spells cs (.obj members) rest) :
    '\x7d' :: rest <:+ cs := by
  cases h with
  | @noMembers _ cs' _ hcs hcs' =>
    have hbrace : '\x7d' :: rest <:+ cs' := hcs' ▸ List.dropWhile_suffix _
    exact hbrace.trans (suffix_of_skipBlanks ['\x7b'] hcs)
  | obj hcs hmembers => exact hmembers.suffix.trans (suffix_of_skipBlanks ['\x7b'] hcs)

/-! ## More text -/

/-- A token stays the first one. -/
theorem skipBlanks_append {token : List Char} (hne : token ≠ [])
    (h : skipBlanks cs = token ++ rest) : skipBlanks (cs ++ t) = token ++ (rest ++ t) := by
  have hleft : (cs.dropWhile isJsonBlank).isEmpty = false := by
    rw [show cs.dropWhile isJsonBlank = token ++ rest from h]
    simp [hne]
  rw [skipBlanks, List.dropWhile_append, hleft, if_neg Bool.false_ne_true,
    show cs.dropWhile isJsonBlank = token ++ rest from h, List.append_assoc]

theorem skipBlanks_append_cons {c : Char} (h : skipBlanks cs = c :: rest) :
    skipBlanks (cs ++ t) = c :: (rest ++ t) :=
  skipBlanks_append (List.cons_ne_nil c []) h

theorem skipBlanks_append_writeString {s : String} (h : skipBlanks cs = writeString s rest) :
    skipBlanks (cs ++ t) = writeString s (rest ++ t) := by
  rw [skipBlanks_append_cons h, writeString, List.append_assoc, List.cons_append]

theorem EndsNumber.append (h : EndsNumber rest) (ht : EndsNumber t) : EndsNumber (rest ++ t) := by
  cases rest with
  | nil => exact ht
  | cons c rest => exact .cons (h c rfl) _

mutual

/-- More text may follow a spelling, if it does not go on a number. -/
theorem Spells.append {cs rest : List Char} {v : Json} (h : Spells cs v rest)
    (ht : EndsNumber t) : Spells (cs ++ t) v (rest ++ t) := by
  -- every token keeps its place, and only behind a number does it matter what follows
  cases h with
  | null hcs => exact .null (skipBlanks_append (by decide) hcs)
  | @bool _ b _ hcs =>
    refine .bool (skipBlanks_append ?_ hcs)
    cases b <;> decide
  | @int _ n _ hcs hn hrest =>
    obtain ⟨c, r, heq, -⟩ := intChars_eq_cons n
    exact .int (skipBlanks_append (by simp [heq]) hcs) hn (hrest.append ht)
  | str hcs => exact .str (skipBlanks_append_writeString hcs)
  | noItems hcs hcs' => exact .noItems (skipBlanks_append_cons hcs) (skipBlanks_append_cons hcs')
  | arr hcs hitems => exact .arr (skipBlanks_append_cons hcs) (hitems.append ht)
  | noMembers hcs hcs' =>
    exact .noMembers (skipBlanks_append_cons hcs) (skipBlanks_append_cons hcs')
  | obj hcs hmembers => exact .obj (skipBlanks_append_cons hcs) (hmembers.append ht)

theorem SpellsItems.append {cs rest : List Char} {items : List Json}
    (h : SpellsItems cs items rest) (ht : EndsNumber t) :
    SpellsItems (cs ++ t) items (rest ++ t) := by
  cases h with
  | last hv hclose => exact .last (hv.append ht) (skipBlanks_append_cons hclose)
  | cons hv hcomma hrest =>
    exact .cons (hv.append ht) (skipBlanks_append_cons hcomma) (hrest.append ht)

theorem SpellsMembers.append {cs rest : List Char} {members : List (String × Json)}
    (h : SpellsMembers cs members rest) (ht : EndsNumber t) :
    SpellsMembers (cs ++ t) members (rest ++ t) := by
  cases h with
  | last hk hcolon hv hclose =>
    exact .last (skipBlanks_append_writeString hk) (skipBlanks_append_cons hcolon) (hv.append ht)
      (skipBlanks_append_cons hclose)
  | cons hk hcolon hv hcomma hrest =>
    exact .cons (skipBlanks_append_writeString hk) (skipBlanks_append_cons hcolon) (hv.append ht)
      (skipBlanks_append_cons hcomma) (hrest.append ht)

end

/-! ## Texts -/

/-- A text of a value: its tokens with blanks before any of them, and blanks at the end. -/
def TextOf (text : List Char) (v : Json) : Prop :=
  ∃ body blanks, text = body ++ blanks ∧ Spells body v [] ∧ ∀ c ∈ blanks, isJsonBlank c = true

theorem endsNumber_of_blank (h : ∀ c ∈ t, isJsonBlank c = true) : EndsNumber t := by
  intro c hc
  have hblank := h c (List.mem_of_mem_head? hc)
  simp only [isJsonBlank, Bool.or_eq_true, decide_eq_true_eq] at hblank
  rcases hblank with ((rfl | rfl) | rfl) | rfl <;> decide

/-- Blanks may follow the value of a text. -/
theorem read?_of_readValue {d : Draft} (hread : readValue (2 * cs.length + 2) cs = (d, some t))
    (ht : ∀ c ∈ t, isJsonBlank c = true) : read? (String.ofList cs) = d.toJson? maxLevels := by
  have hend : skipBlanks t = [] := List.dropWhile_eq_nil_iff.2 ht
  have hwhole : Draft.read (String.ofList cs) = (d, true) := by
    simp only [Draft.read, String.toList_ofList, hread, hend]
    rfl
  rw [read?, hwhole]

/-- A text of a value is read as the value. -/
theorem TextOf.read? {text : List Char} {v : Json} (h : TextOf text v) (hwf : v.WellFormed)
    (hdepth : v.depth ≤ maxLevels) : read? (String.ofList text) = some v := by
  obtain ⟨body, blanks, rfl, hbody, hblanks⟩ := h
  have hread := (hbody.append (endsNumber_of_blank hblanks)).read.2
    (2 * (body ++ blanks).length + 2) (by omega)
  rw [read?_of_readValue hread hblanks]
  exact Draft.toJson?_ofJson hwf hdepth

/-- The text of an object without white space at its end is still one. -/
theorem TextOf.of_append_blank {text blanks : List Char} {members : List (String × Json)}
    (h : TextOf (text ++ blanks) (.obj members)) (hblanks : ∀ c ∈ blanks, Text.isBlank c = true) :
    TextOf text (.obj members) := by
  obtain ⟨body, tail, heq, hbody, htail⟩ := h
  obtain ⟨front, hbrace⟩ := hbody.brace_suffix
  rcases List.append_eq_append_iff.1 heq with ⟨extra, hextra, hblank⟩ | ⟨left, hleft, hrest⟩
  · -- white space that reached past the end of the spelling would cover its brace
    rcases List.eq_nil_or_concat' extra with rfl | ⟨extra, last, rfl⟩
    · exact ⟨body, [], by rw [hextra, List.append_nil, List.append_nil], hbody, by simp⟩
    · rw [← hbrace, ← List.append_assoc] at hextra
      obtain ⟨-, hlast⟩ := List.append_inj' hextra rfl
      have hwhite := hblanks last (by simp [hblank])
      rw [← (List.cons.inj hlast).1] at hwhite
      exact absurd hwhite (by decide)
  · exact ⟨body, left, hleft, hbody, fun c hc => htail c (by simp [hrest, hc])⟩

end ToolRelay.Json
