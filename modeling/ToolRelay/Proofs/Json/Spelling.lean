import Mathlib.Data.List.DropRight
import ToolRelay.Json.Draft
import ToolRelay.Json.Printer
import ToolRelay.Proofs.Text.Numerals

/-!
# Spelled values

`Spells` is the grammar of JSON text as far as the writers use it: blanks between the tokens, texts
escaped as the writers escape them, integers. The reader reads every text of the grammar as the
value it spells, and both writers stay within the grammar. Floats are left out: their text is
rounded.

## Main definitions

* `Json.plain`: values without floats whose integers fit a word.
* `Json.Spells`: a text begins with a spelling of a value.

## Main results

* `Json.readString_flatMap`: an escaped text is read as it was.
* `Json.Spells.read`: the reader reads what is spelled.
* `Json.spells_write`, `Json.spells_writeIndented`: what is written is spelled.
* `Json.Draft.read_render`, `Json.Draft.read_renderIndented`: whole texts.
-/

namespace ToolRelay.Json

/-! ## Texts -/

/-- The escape of a control character denotes it. -/
theorem hexQuad?_of_control {c : Char} (h : c.toNat < 32) :
    hexQuad? '0' '0' (Text.hexDigit (c.toNat / 16)) (Text.hexDigit (c.toNat % 16)) =
      some c.toNat := by
  have hzero : Text.hexValue? '0' = some 0 := by decide
  have hhigh : Text.hexValue? (Text.hexDigit (c.toNat / 16)) = some (c.toNat / 16) :=
    Text.hexValue?_hexDigit (by omega)
  have hlow : Text.hexValue? (Text.hexDigit (c.toNat % 16)) = some (c.toNat % 16) :=
    Text.hexValue?_hexDigit (by omega)
  simp only [hexQuad?, hzero, hhigh, hlow, Option.bind_eq_bind, Option.bind_some, Option.pure_def]
  congr 1
  omega

/-- A character that is not escaped is read as itself. -/
theorem readString_plain {c : Char} (hq : c ≠ '"') (hb : c ≠ '\\') (h : ¬c.toNat < 32)
    (r : List Char) : readString none (c :: r) = (readString none r).push c := by
  rw [readString]
  · rw [if_neg (by simp [h, hb])]
    rfl
  · exact fun hc => hq hc
  · exact fun _ _ _ _ _ hc _ => hb hc
  · exact fun _ _ hc _ => hb hc

/-- The written form of a character is read as the character. -/
theorem readString_escapeChar (c : Char) (r : List Char) :
    readString none (escapeChar c ++ r) = (readString none r).push c := by
  rw [escapeChar]
  split_ifs with hq hb hn hr ht hbs hff hctl
  · subst hq; rfl
  · subst hb; rfl
  · subst hn; rfl
  · subst hr; rfl
  · subst ht; rfl
  · subst hbs; rfl
  · subst hff; rfl
  · have hhigh : isHighSurrogate c.toNat = false := by
      simp only [isHighSurrogate, Bool.and_eq_false_iff, decide_eq_false_iff_not]
      omega
    have hlow : isLowSurrogate c.toNat = false := by
      simp only [isLowSurrogate, Bool.and_eq_false_iff, decide_eq_false_iff_not]
      omega
    -- a control character is no half of a surrogate pair
    refine (readString.eq_4 _ _ _ _ r _ (hexQuad?_of_control hctl)).trans ?_
    simp only [hhigh, hlow, Char.ofNat_toNat, Bool.false_eq_true, if_false]
  · exact readString_plain hq hb hctl r

theorem readString_flatMap (cs r : List Char) :
    readString none (cs.flatMap escapeChar ++ '"' :: r) = some (some cs, r) := by
  induction cs with
  | nil => rfl
  | cons c cs ih =>
    rw [List.flatMap_cons, List.append_assoc, readString_escapeChar, ih]
    rfl

/-! ## Numbers -/

/-- A character that would go on a number. -/
def continuesNumber (c : Char) : Bool := Text.isDigit c || c == '.' || c == 'e' || c == 'E'

/-- What follows does not go on a number. -/
def EndsNumber (rest : List Char) : Prop := ∀ c ∈ rest.head?, continuesNumber c = false

theorem EndsNumber.nil : EndsNumber [] := by simp [EndsNumber]

theorem EndsNumber.cons {c : Char} (h : continuesNumber c = false) (rest : List Char) :
    EndsNumber (c :: rest) := by simpa [EndsNumber] using h

variable {rest : List Char}

theorem readWhole_digitChars (n : Nat) (h : EndsNumber rest) :
    readWhole (Decimal.digitChars n ++ rest) = some (Decimal.digitChars n, rest) := by
  have hrest : ∀ c ∈ rest.head?, Text.isDigit c = false := by
    intro c hc
    have hno := h c hc
    simp only [continuesNumber, Bool.or_eq_false_iff] at hno
    exact hno.1.1.1
  by_cases hzero : (Decimal.digitChars n).head? = some '0'
  · -- a zero stands alone
    rw [Text.head?_digitChars hzero]
    show (if rest.head?.any Text.isDigit then none else some (['0'], rest)) = _
    rw [if_neg]
    rcases hhead : rest.head? with _ | c
    · simp
    · simp [hrest c hhead]
  · have hnot : ∀ r, Decimal.digitChars n ++ rest ≠ '0' :: r := by
      intro r hr
      obtain ⟨d, ds, hds, -⟩ := Text.digitChars_eq_cons n
      rw [hds] at hr hzero
      exact hzero (congrArg some (List.cons.inj hr).1)
    have hall : ∀ c ∈ Decimal.digitChars n, Text.isDigit c = true :=
      fun c hc => Text.isDigit_of_mem_digitChars hc
    rw [readWhole]
    · simp only [Text.takeWhile_word hall hrest, Text.dropWhile_word hall hrest]
      rw [if_neg (by simp [Text.digitChars_ne_nil])]
    · exact hnot

theorem readFraction_of_ends (h : EndsNumber rest) : readFraction rest = some (none, rest) := by
  rw [readFraction]
  rintro r rfl
  exact absurd (h '.' rfl) (by decide)

theorem readExponent_of_ends (h : EndsNumber rest) : readExponent rest = some (none, rest) := by
  rw [readExponent]
  · rintro r rfl
    exact absurd (h 'e' rfl) (by decide)
  · rintro r rfl
    exact absurd (h 'E' rfl) (by decide)

theorem readNumber_digitChars (negative : Bool) (n : Nat) (h : EndsNumber rest) :
    readNumber negative (Decimal.digitChars n ++ rest) =
      ((NumberText.mk (Decimal.digitChars n) none none).toDraft negative, some rest) := by
  simp only [readNumber, readWhole_digitChars n h, readFraction_of_ends h, readExponent_of_ends h]

theorem toDraft_natural {n : Nat} (h : n < UInt64.size) :
    (NumberText.mk (Decimal.digitChars n) none none).toDraft false = .int n := by
  simp [NumberText.toDraft, Text.natOfDigits_digitChars, h]

theorem toDraft_negative {n : Nat} (hpos : n ≠ 0) (h : Int64.minValue.toInt ≤ -(n : Int)) :
    (NumberText.mk (Decimal.digitChars n) none none).toDraft true = .int (-(n : Int)) := by
  simp only [NumberText.toDraft, Text.natOfDigits_digitChars]
  rw [if_neg (by simp), if_pos trivial, if_pos ⟨hpos, h⟩]

/-! ## The grammar -/

mutual

/-- No float occurs, and the integers fit a word. -/
def plain : Json → Bool
  | .null | .bool _ | .str _ => true
  | .int n => decide (IntInRange n)
  | .float _ => false
  | .arr items => plainItems items
  | .obj members => plainMembers members

/-- Every item is plain. -/
def plainItems : List Json → Bool
  | [] => true
  | v :: rest => plain v && plainItems rest

/-- Every member is plain. -/
def plainMembers : List (String × Json) → Bool
  | [] => true
  | (_, v) :: rest => plain v && plainMembers rest

end

mutual

/-- A text begins with blanks and a spelling of a value, and `rest` follows. -/
inductive Spells : List Char → Json → List Char → Prop
  /-- The word for `null`. -/
  | null {cs rest} : skipBlanks cs = "null".toList ++ rest → Spells cs .null rest
  /-- The words for the truth values. -/
  | bool {cs b rest} : skipBlanks cs = (if b then "true" else "false").toList ++ rest →
      Spells cs (.bool b) rest
  /-- An integer that fits a word, and nothing that goes on a number. -/
  | int {cs n rest} : skipBlanks cs = intChars n ++ rest → IntInRange n → EndsNumber rest →
      Spells cs (.int n) rest
  /-- A text. -/
  | str {cs s rest} : skipBlanks cs = writeString s rest → Spells cs (.str s) rest
  /-- An empty sequence. -/
  | noItems {cs cs' rest} : skipBlanks cs = '[' :: cs' → skipBlanks cs' = ']' :: rest →
      Spells cs (.arr []) rest
  /-- A sequence. -/
  | arr {cs cs' items rest} : skipBlanks cs = '[' :: cs' → SpellsItems cs' items rest →
      Spells cs (.arr items) rest
  /-- An empty object. -/
  | noMembers {cs cs' rest} : skipBlanks cs = '\x7b' :: cs' → skipBlanks cs' = '\x7d' :: rest →
      Spells cs (.obj []) rest
  /-- An object. -/
  | obj {cs cs' members rest} : skipBlanks cs = '\x7b' :: cs' → SpellsMembers cs' members rest →
      Spells cs (.obj members) rest

/-- Items with commas between them up to the closing bracket. -/
inductive SpellsItems : List Char → List Json → List Char → Prop
  /-- The last item. -/
  | last {cs v cs' rest} : Spells cs v cs' → skipBlanks cs' = ']' :: rest → SpellsItems cs [v] rest
  /-- An item before others. -/
  | cons {cs v cs' cs'' items rest} : Spells cs v cs' → skipBlanks cs' = ',' :: cs'' →
      SpellsItems cs'' items rest → SpellsItems cs (v :: items) rest

/-- Members with commas between them up to the closing brace. -/
inductive SpellsMembers : List Char → List (String × Json) → List Char → Prop
  /-- The last member. -/
  | last {cs k cs₁ cs₂ v cs₃ rest} : skipBlanks cs = writeString k cs₁ →
      skipBlanks cs₁ = ':' :: cs₂ → Spells cs₂ v cs₃ → skipBlanks cs₃ = '\x7d' :: rest →
      SpellsMembers cs [(k, v)] rest
  /-- A member before others. -/
  | cons {cs k cs₁ cs₂ v cs₃ cs₄ members rest} : skipBlanks cs = writeString k cs₁ →
      skipBlanks cs₁ = ':' :: cs₂ → Spells cs₂ v cs₃ → skipBlanks cs₃ = ',' :: cs₄ →
      SpellsMembers cs₄ members rest → SpellsMembers cs ((k, v) :: members) rest

end

/-! ## Reading -/

theorem length_skipBlanks_le (cs : List Char) : (skipBlanks cs).length ≤ cs.length :=
  (List.dropWhile_sublist _).length_le

theorem skipBlanks_skipBlanks (cs : List Char) : skipBlanks (skipBlanks cs) = skipBlanks cs :=
  List.dropWhile_idempotent ..

theorem length_writeString (s : String) (rest : List Char) :
    rest.length < (writeString s rest).length := by
  simp only [writeString, List.length_cons, List.length_append]
  omega

/-- Only what comes after the blanks counts. -/
theorem readValue_skipBlanks (fuel : Nat) (cs : List Char) :
    readValue fuel (skipBlanks cs) = readValue fuel cs := by
  cases fuel with
  | zero => rfl
  | succ fuel => rw [readValue, readValue, skipBlanks_skipBlanks]

theorem readItems_skipBlanks (fuel : Nat) (cs : List Char) :
    readItems fuel (skipBlanks cs) = readItems fuel cs := by
  cases fuel with
  | zero => rfl
  | succ fuel => rw [readItems, readItems, readValue_skipBlanks]

theorem readMembers_skipBlanks (fuel : Nat) (cs : List Char) :
    readMembers fuel (skipBlanks cs) = readMembers fuel cs := by
  cases fuel with
  | zero => rfl
  | succ fuel => rw [readMembers, readMembers, skipBlanks_skipBlanks]

theorem intChars_natural (n : Nat) : intChars n = Decimal.digitChars n := by
  rw [intChars, if_neg (by omega), Int.natAbs_natCast]

theorem intChars_negative {n : Nat} (h : n ≠ 0) :
    intChars (-(n : Int)) = '-' :: Decimal.digitChars n := by
  rw [intChars, if_pos (by omega), Int.natAbs_neg, Int.natAbs_natCast]

/-- A digit starts none of the other values. -/
theorem readValue_digit {fuel : Nat} {cs r : List Char} {c : Char} (hcs : skipBlanks cs = c :: r)
    (hc : Text.isDigit c = true) : readValue (fuel + 1) cs = readNumber false (c :: r) := by
  rw [readValue, hcs]
  split
  case h_8 heq =>
    obtain ⟨rfl, rfl⟩ := List.cons.inj heq
    exact if_pos hc
  case h_9 heq => cases heq
  all_goals
    rename_i heq
    obtain ⟨rfl, -⟩ := List.cons.inj heq
    exact absurd hc (by decide)

theorem readValue_int {fuel : Nat} {cs : List Char} {n : Int}
    (hcs : skipBlanks cs = intChars n ++ rest) (hn : IntInRange n) (hrest : EndsNumber rest) :
    readValue (fuel + 1) cs = (.int n, some rest) := by
  -- the reader takes a number apart into its sign and a numeral
  obtain ⟨m, rfl | ⟨rfl, hm⟩⟩ : ∃ m : Nat, n = m ∨ (n = -(m : Int) ∧ m ≠ 0) := by
    by_cases h : 0 ≤ n
    · exact ⟨n.toNat, Or.inl (by omega)⟩
    · exact ⟨(-n).toNat, Or.inr ⟨by omega, by omega⟩⟩
  · rw [intChars_natural] at hcs
    have hlt : m < UInt64.size := by exact_mod_cast hn.2
    obtain ⟨d, ds, hds, hd⟩ := Text.digitChars_eq_cons m
    have hhead : skipBlanks cs = d :: (ds ++ rest) := by rw [hcs, hds, List.cons_append]
    rw [readValue_digit hhead hd, ← List.cons_append, ← hds,
      readNumber_digitChars false m hrest, toDraft_natural hlt]
  · rw [intChars_negative hm] at hcs
    rw [readValue, hcs]
    show readNumber true (Decimal.digitChars m ++ rest) = _
    rw [readNumber_digitChars true m hrest, toDraft_negative hm hn.1]

theorem readValue_str {fuel : Nat} {cs : List Char} {s : String}
    (hcs : skipBlanks cs = writeString s rest) :
    readValue (fuel + 1) cs = (.str s, some rest) := by
  simp only [readValue, hcs, writeString, readString_flatMap, String.ofList_toList]

/-- An integer starts with a sign or a digit. -/
theorem intChars_eq_cons (n : Int) :
    ∃ c r, intChars n = c :: r ∧ (c = '-' ∨ Text.isDigit c = true) := by
  obtain ⟨d, ds, hds, hd⟩ := Text.digitChars_eq_cons n.natAbs
  rw [intChars, hds]
  split_ifs
  · exact ⟨'-', d :: ds, rfl, Or.inl rfl⟩
  · exact ⟨d, ds, rfl, Or.inr hd⟩

/-- No value starts with a closing bracket, so that a sequence with items is not taken for one
without. -/
theorem Spells.ne_closing {cs : List Char} {v : Json} (h : Spells cs v rest) (r : List Char) :
    skipBlanks cs ≠ ']' :: r := by
  intro hr
  cases h with
  | null hcs => rw [hcs] at hr; cases hr
  | @bool _ b _ hcs => rw [hcs] at hr; cases b <;> cases hr
  | @int _ n _ hcs _ _ =>
    obtain ⟨c, r', heq, hc⟩ := intChars_eq_cons n
    rw [hcs, heq, List.cons_append] at hr
    obtain ⟨rfl, -⟩ := List.cons.inj hr
    revert hc
    decide
  | str hcs => rw [hcs] at hr; cases hr
  | noItems hcs _ => rw [hcs] at hr; cases hr
  | arr hcs _ => rw [hcs] at hr; cases hr
  | noMembers hcs _ => rw [hcs] at hr; cases hr
  | obj hcs _ => rw [hcs] at hr; cases hr

theorem SpellsItems.ne_closing {cs : List Char} {items : List Json}
    (h : SpellsItems cs items rest) (r : List Char) : skipBlanks cs ≠ ']' :: r := by
  cases h with
  | last hv _ => exact hv.ne_closing r
  | cons hv _ _ => exact hv.ne_closing r

theorem SpellsMembers.ne_closing {cs : List Char} {members : List (String × Json)}
    (h : SpellsMembers cs members rest) (r : List Char) : skipBlanks cs ≠ '\x7d' :: r := by
  intro hr
  cases h with
  | last hk _ _ _ => rw [hk] at hr; cases hr
  | cons hk _ _ _ _ => rw [hk] at hr; cases hr

theorem readValue_items {fuel : Nat} {cs cs' : List Char} {ds : List Draft}
    (hcs : skipBlanks cs = '[' :: cs') (hopen : ∀ r, skipBlanks cs' ≠ ']' :: r)
    (h : readItems fuel cs' = (ds, some rest)) :
    readValue (fuel + 1) cs = (.arr ds true, some rest) := by
  simp only [readValue, hcs]
  rw [readItems_skipBlanks, h]
  rfl

theorem readValue_members {fuel : Nat} {cs cs' : List Char} {ds : List (Option String × Draft)}
    (hcs : skipBlanks cs = '\x7b' :: cs') (hopen : ∀ r, skipBlanks cs' ≠ '\x7d' :: r)
    (h : readMembers fuel cs' = (ds, some rest)) :
    readValue (fuel + 1) cs = (.obj ds true, some rest) := by
  simp only [readValue, hcs]
  rw [readMembers_skipBlanks, h]
  rfl

section Members

variable {fuel : Nat} {cs cs₁ cs₂ r r' : List Char} {k : String} {d : Draft}

/-- A member that is the last one. -/
theorem readMembers_last (hk : skipBlanks cs = writeString k cs₁)
    (hcolon : skipBlanks cs₁ = ':' :: cs₂) (hv : readValue fuel cs₂ = (d, some r))
    (hclose : skipBlanks r = '\x7d' :: r') :
    readMembers (fuel + 1) cs = ([(some k, d)], some r') := by
  simp only [readMembers, hk, writeString, readString_flatMap, hcolon, hv, hclose, Option.map_some,
    String.ofList_toList]

/-- A member that others follow. -/
theorem readMembers_comma (hk : skipBlanks cs = writeString k cs₁)
    (hcolon : skipBlanks cs₁ = ':' :: cs₂) (hv : readValue fuel cs₂ = (d, some r))
    (hcomma : skipBlanks r = ',' :: r') : readMembers (fuel + 1) cs =
      ((some k, d) :: (readMembers fuel r').1, (readMembers fuel r').2) := by
  simp only [readMembers, hk, writeString, readString_flatMap, hcolon, hv, hcomma, Option.map_some,
    String.ofList_toList]

end Members

mutual

/-- The reader reads what is spelled, with two steps of fuel for each character, and what follows is
shorter. -/
theorem Spells.read {cs : List Char} {v : Json} {rest : List Char} (h : Spells cs v rest) :
    rest.length < cs.length ∧
      ∀ fuel, 2 * cs.length ≤ fuel → readValue fuel cs = (Draft.ofJson v, some rest) := by
  have hskip := length_skipBlanks_le cs
  -- every token takes a character, so the fuel of a part is what its text is shorter by
  cases h with
  | null hcs =>
    rw [hcs] at hskip
    simp at hskip
    refine ⟨by omega, fun fuel hfuel => ?_⟩
    obtain ⟨fuel, rfl⟩ : ∃ f, fuel = f + 1 := ⟨fuel - 1, by omega⟩
    rw [readValue, hcs]
    rfl
  | @bool _ b _ hcs =>
    rw [hcs] at hskip
    have hlen : rest.length < cs.length := by
      cases b <;> simp at hskip <;> omega
    refine ⟨hlen, fun fuel hfuel => ?_⟩
    obtain ⟨fuel, rfl⟩ : ∃ f, fuel = f + 1 := ⟨fuel - 1, by omega⟩
    rw [readValue, hcs]
    cases b <;> rfl
  | @int _ n _ hcs hn hrest =>
    obtain ⟨c, r, heq, -⟩ := intChars_eq_cons n
    have hlen : rest.length < cs.length := by
      rw [hcs, heq] at hskip
      simp at hskip
      omega
    refine ⟨hlen, fun fuel hfuel => ?_⟩
    obtain ⟨fuel, rfl⟩ : ∃ f, fuel = f + 1 := ⟨fuel - 1, by omega⟩
    exact readValue_int hcs hn hrest
  | @str _ s _ hcs =>
    rw [hcs] at hskip
    have hlen := length_writeString s rest
    refine ⟨by omega, fun fuel hfuel => ?_⟩
    obtain ⟨fuel, rfl⟩ : ∃ f, fuel = f + 1 := ⟨fuel - 1, by omega⟩
    exact readValue_str hcs
  | @noItems _ cs' _ hcs hcs' =>
    have hskip' := length_skipBlanks_le cs'
    rw [hcs] at hskip
    rw [hcs'] at hskip'
    simp only [List.length_cons] at hskip hskip'
    refine ⟨by omega, fun fuel hfuel => ?_⟩
    obtain ⟨fuel, rfl⟩ : ∃ f, fuel = f + 1 := ⟨fuel - 1, by omega⟩
    rw [readValue, hcs]
    simp only [hcs']
    rfl
  | arr hcs hitems =>
    rw [hcs, List.length_cons] at hskip
    have ⟨hlen, hread⟩ := hitems.read
    refine ⟨by omega, fun fuel hfuel => ?_⟩
    obtain ⟨fuel, rfl⟩ : ∃ f, fuel = f + 1 := ⟨fuel - 1, by omega⟩
    exact readValue_items hcs hitems.ne_closing (hread fuel (by omega))
  | @noMembers _ cs' _ hcs hcs' =>
    have hskip' := length_skipBlanks_le cs'
    rw [hcs] at hskip
    rw [hcs'] at hskip'
    simp only [List.length_cons] at hskip hskip'
    refine ⟨by omega, fun fuel hfuel => ?_⟩
    obtain ⟨fuel, rfl⟩ : ∃ f, fuel = f + 1 := ⟨fuel - 1, by omega⟩
    rw [readValue, hcs]
    simp only [hcs']
    rfl
  | obj hcs hmembers =>
    rw [hcs, List.length_cons] at hskip
    have ⟨hlen, hread⟩ := hmembers.read
    refine ⟨by omega, fun fuel hfuel => ?_⟩
    obtain ⟨fuel, rfl⟩ : ∃ f, fuel = f + 1 := ⟨fuel - 1, by omega⟩
    exact readValue_members hcs hmembers.ne_closing (hread fuel (by omega))

theorem SpellsItems.read {cs : List Char} {items : List Json} {rest : List Char}
    (h : SpellsItems cs items rest) : rest.length < cs.length ∧
      ∀ fuel, 2 * cs.length + 1 ≤ fuel →
        readItems fuel cs = (Draft.ofItems items, some rest) := by
  cases h with
  | @last _ v cs' _ hv hclose =>
    have ⟨hlen, hread⟩ := hv.read
    have hskip := length_skipBlanks_le cs'
    rw [hclose, List.length_cons] at hskip
    refine ⟨by omega, fun fuel hfuel => ?_⟩
    obtain ⟨fuel, rfl⟩ : ∃ f, fuel = f + 1 := ⟨fuel - 1, by omega⟩
    rw [readItems, hread fuel (by omega)]
    simp only [hclose]
    rfl
  | @cons _ v cs' cs'' items _ hv hcomma hrest =>
    have ⟨hlen, hread⟩ := hv.read
    have ⟨hlen', hread'⟩ := hrest.read
    have hskip := length_skipBlanks_le cs'
    rw [hcomma, List.length_cons] at hskip
    refine ⟨by omega, fun fuel hfuel => ?_⟩
    obtain ⟨fuel, rfl⟩ : ∃ f, fuel = f + 1 := ⟨fuel - 1, by omega⟩
    -- the item takes at least one character and the comma another, which pays for the next step
    rw [readItems, hread fuel (by omega)]
    simp only [hcomma, hread' fuel (by omega)]
    rfl

theorem SpellsMembers.read {cs : List Char} {members : List (String × Json)} {rest : List Char}
    (h : SpellsMembers cs members rest) : rest.length < cs.length ∧
      ∀ fuel, 2 * cs.length + 1 ≤ fuel →
        readMembers fuel cs = (Draft.ofMembers members, some rest) := by
  have hskip := length_skipBlanks_le cs
  cases h with
  | @last _ k cs₁ cs₂ v cs₃ _ hk hcolon hv hclose =>
    have ⟨hlen, hread⟩ := hv.read
    have hskip₁ := length_skipBlanks_le cs₁
    have hskip₃ := length_skipBlanks_le cs₃
    have hkey := length_writeString k cs₁
    rw [hk] at hskip
    rw [hcolon, List.length_cons] at hskip₁
    rw [hclose, List.length_cons] at hskip₃
    refine ⟨by omega, fun fuel hfuel => ?_⟩
    obtain ⟨fuel, rfl⟩ : ∃ f, fuel = f + 1 := ⟨fuel - 1, by omega⟩
    rw [readMembers_last hk hcolon (hread fuel (by omega)) hclose]
    rfl
  | @cons _ k cs₁ cs₂ v cs₃ cs₄ members _ hk hcolon hv hcomma hrest =>
    have ⟨hlen, hread⟩ := hv.read
    have ⟨hlen', hread'⟩ := hrest.read
    have hskip₁ := length_skipBlanks_le cs₁
    have hskip₃ := length_skipBlanks_le cs₃
    have hkey := length_writeString k cs₁
    rw [hk] at hskip
    rw [hcolon, List.length_cons] at hskip₁
    rw [hcomma, List.length_cons] at hskip₃
    refine ⟨by omega, fun fuel hfuel => ?_⟩
    obtain ⟨fuel, rfl⟩ : ∃ f, fuel = f + 1 := ⟨fuel - 1, by omega⟩
    rw [readMembers_comma hk hcolon (hread fuel (by omega)) hcomma, hread' fuel (by omega)]
    rfl

end

/-! ## Writing -/

theorem skipBlanks_of_not_blank {c : Char} (h : isJsonBlank c = false) (r : List Char) :
    skipBlanks (c :: r) = c :: r := by
  rw [skipBlanks, List.dropWhile_cons_of_neg (by simp [h])]

theorem skipBlanks_intChars (n : Int) (rest : List Char) :
    skipBlanks (intChars n ++ rest) = intChars n ++ rest := by
  obtain ⟨c, r, heq, hc⟩ := intChars_eq_cons n
  rw [heq, List.cons_append]
  apply skipBlanks_of_not_blank
  rcases hc with rfl | hdigit
  · rfl
  · apply Bool.eq_false_iff.2
    intro hblank
    simp only [isJsonBlank, Bool.or_eq_true, decide_eq_true_eq] at hblank
    revert hdigit
    rcases hblank with ((rfl | rfl) | rfl) | rfl <;> decide

theorem skipBlanks_lineBreak (level : Nat) (cs : List Char) :
    skipBlanks (lineBreak level cs) = skipBlanks cs := by
  have hspaces : ∀ c ∈ List.replicate (2 * level) ' ', isJsonBlank c = true := by
    intro c hc
    rw [List.eq_of_mem_replicate hc]
    rfl
  rw [lineBreak, skipBlanks, List.dropWhile_cons_of_pos (by rfl)]
  exact List.dropWhile_append_of_pos hspaces

theorem Spells.of_skipBlanks {cs cs' : List Char} {v : Json} (h : Spells cs v rest)
    (heq : skipBlanks cs' = skipBlanks cs) : Spells cs' v rest := by
  cases h with
  | null hcs => exact .null (heq.trans hcs)
  | bool hcs => exact .bool (heq.trans hcs)
  | int hcs hn hrest => exact .int (heq.trans hcs) hn hrest
  | str hcs => exact .str (heq.trans hcs)
  | noItems hcs hcs' => exact .noItems (heq.trans hcs) hcs'
  | arr hcs hitems => exact .arr (heq.trans hcs) hitems
  | noMembers hcs hcs' => exact .noMembers (heq.trans hcs) hcs'
  | obj hcs hmembers => exact .obj (heq.trans hcs) hmembers

theorem Spells.lineBreak {cs : List Char} {v : Json} (h : Spells cs v rest) (level : Nat) :
    Spells (lineBreak level cs) v rest :=
  h.of_skipBlanks (skipBlanks_lineBreak level cs)

/-- The values that both writers write alike. -/
theorem spells_scalar {v : Json} (h : v.plain = true) (hrest : EndsNumber rest)
    (harr : ∀ items, v ≠ .arr items) (hobj : ∀ members, v ≠ .obj members) :
    Spells (v.write rest) v rest := by
  cases v with
  | null => exact .null rfl
  | bool b => cases b <;> exact .bool rfl
  | int n =>
    rw [write]
    exact .int (skipBlanks_intChars n rest) (of_decide_eq_true h) hrest
  | float x => cases h
  | str s =>
    rw [write]
    exact .str rfl
  | arr items => exact absurd rfl (harr items)
  | obj members => exact absurd rfl (hobj members)

/-- A comma or a closing bracket or brace ends a number, and so does a line break. -/
theorem EndsNumber.lineBreak (level : Nat) (rest : List Char) :
    EndsNumber (lineBreak level rest) := .cons (by decide) _

mutual

/-- The compact form of a value spells it. -/
theorem spells_write (v : Json) (h : v.plain = true) {rest : List Char}
    (hrest : EndsNumber rest) : Spells (v.write rest) v rest := by
  -- empty sequences and objects have no item to recurse into, and a rule of their own
  match v with
  | .arr [] => exact .noItems rfl rfl
  | .arr (v :: items) =>
    rw [write]
    exact .arr rfl (spellsItems_write (v :: items) (List.cons_ne_nil _ _) h rest)
  | .obj [] => exact .noMembers rfl rfl
  | .obj (m :: members) =>
    rw [write]
    exact .obj rfl (spellsMembers_write (m :: members) (List.cons_ne_nil _ _) h rest)
  | .null | .bool _ | .int _ | .float _ | .str _ => exact spells_scalar h hrest nofun nofun

theorem spellsItems_write (items : List Json) (hne : items ≠ [])
    (h : plainItems items = true) (rest : List Char) :
    SpellsItems (writeItems items (']' :: rest)) items rest := by
  match items with
  | [] => exact absurd rfl hne
  | [v] =>
    rw [plainItems, Bool.and_eq_true] at h
    exact .last (spells_write v h.1 (.cons (by decide) _)) rfl
  | v :: w :: items =>
    rw [plainItems, Bool.and_eq_true] at h
    rw [writeItems]
    exact .cons (spells_write v h.1 (.cons (by decide) _)) rfl
      (spellsItems_write (w :: items) (List.cons_ne_nil _ _) h.2 rest)

theorem spellsMembers_write (members : List (String × Json)) (hne : members ≠ [])
    (h : plainMembers members = true) (rest : List Char) :
    SpellsMembers (writeMembers members ('\x7d' :: rest)) members rest := by
  match members with
  | [] => exact absurd rfl hne
  | [(k, v)] =>
    rw [plainMembers, Bool.and_eq_true] at h
    exact .last rfl rfl (spells_write v h.1 (.cons (by decide) _)) rfl
  | (k, v) :: m :: members =>
    rw [plainMembers, Bool.and_eq_true] at h
    rw [writeMembers]
    exact .cons rfl rfl (spells_write v h.1 (.cons (by decide) _)) rfl
      (spellsMembers_write (m :: members) (List.cons_ne_nil _ _) h.2 rest)

end

mutual

/-- The indented form of a value spells it at any level. -/
theorem spells_writeIndented (level : Nat) (v : Json) (h : v.plain = true) {rest : List Char}
    (hrest : EndsNumber rest) : Spells (v.writeIndented level rest) v rest := by
  match v with
  | .arr [] => exact .noItems rfl rfl
  | .arr (v :: items) =>
    rw [writeIndented]
    exact .arr rfl
      (spellsItems_writeIndented (level + 1) level (v :: items) (List.cons_ne_nil _ _) h rest)
  | .obj [] => exact .noMembers rfl rfl
  | .obj (m :: members) =>
    rw [writeIndented]
    exact .obj rfl
      (spellsMembers_writeIndented (level + 1) level (m :: members) (List.cons_ne_nil _ _) h rest)
  | .null | .bool _ | .int _ | .float _ | .str _ =>
    rw [writeIndented]
    exact spells_scalar h hrest nofun nofun

theorem spellsItems_writeIndented (level outer : Nat) (items : List Json) (hne : items ≠ [])
    (h : plainItems items = true) (rest : List Char) :
    SpellsItems (writeIndentedItems level items (lineBreak outer (']' :: rest))) items rest := by
  match items with
  | [] => exact absurd rfl hne
  | [v] =>
    rw [plainItems, Bool.and_eq_true] at h
    rw [writeIndentedItems]
    exact .last ((spells_writeIndented level v h.1 (.lineBreak _ _)).lineBreak level)
      (skipBlanks_lineBreak outer _)
  | v :: w :: items =>
    rw [plainItems, Bool.and_eq_true] at h
    rw [writeIndentedItems]
    exact .cons ((spells_writeIndented level v h.1 (.cons (by decide) _)).lineBreak level) rfl
      (spellsItems_writeIndented level outer (w :: items) (List.cons_ne_nil _ _) h.2 rest)

theorem spellsMembers_writeIndented (level outer : Nat) (members : List (String × Json))
    (hne : members ≠ []) (h : plainMembers members = true) (rest : List Char) :
    SpellsMembers (writeIndentedMembers level members (lineBreak outer ('\x7d' :: rest)))
      members rest := by
  match members with
  | [] => exact absurd rfl hne
  | [(k, v)] =>
    rw [plainMembers, Bool.and_eq_true] at h
    rw [writeIndentedMembers]
    have hv := spells_writeIndented level v h.1 (.lineBreak outer ('\x7d' :: rest))
    exact .last (skipBlanks_lineBreak level _) rfl (hv.of_skipBlanks rfl)
      (skipBlanks_lineBreak outer _)
  | (k, v) :: m :: members =>
    rw [plainMembers, Bool.and_eq_true] at h
    rw [writeIndentedMembers]
    have hv := spells_writeIndented level v h.1
      (.cons (c := ',') (by decide)
        (writeIndentedMembers level (m :: members) (Json.lineBreak outer ('\x7d' :: rest))))
    exact .cons (skipBlanks_lineBreak level _) rfl (hv.of_skipBlanks rfl) rfl
      (spellsMembers_writeIndented level outer (m :: members) (List.cons_ne_nil _ _) h.2 rest)

end

mutual

/-- What follows a value stands behind its text. -/
theorem write_append (v : Json) (rest : List Char) : v.write rest = v.write [] ++ rest := by
  match v with
  | .null | .bool true | .bool false | .int _ | .float _ => simp [write]
  | .str s => simp [write, writeString]
  | .arr items =>
    rw [write, write, writeItems_append items, writeItems_append items [']']]
    simp
  | .obj members =>
    rw [write, write, writeMembers_append members, writeMembers_append members ['\x7d']]
    simp

theorem writeItems_append (items : List Json) (rest : List Char) :
    writeItems items rest = writeItems items [] ++ rest := by
  match items with
  | [] => rfl
  | [v] => exact write_append v rest
  | v :: w :: items =>
    rw [writeItems, writeItems, write_append v, write_append v (',' :: writeItems (w :: items) []),
      writeItems_append (w :: items) rest]
    simp

theorem writeMembers_append (members : List (String × Json)) (rest : List Char) :
    writeMembers members rest = writeMembers members [] ++ rest := by
  match members with
  | [] => rfl
  | [(k, v)] =>
    rw [writeMembers, writeMembers, write_append v]
    simp [writeString]
  | (k, v) :: m :: members =>
    rw [writeMembers, writeMembers, write_append v,
      write_append v (',' :: writeMembers (m :: members) []),
      writeMembers_append (m :: members) rest]
    simp [writeString]

end

/-- The text of an object stands between braces. -/
theorem toList_render_obj (members : List (String × Json)) :
    (Json.obj members).render.toList = '\x7b' :: (writeMembers members [] ++ ['\x7d']) := by
  rw [render, String.toList_ofList, write, writeMembers_append]

/-! ## Whole texts -/

theorem Draft.read_of_spells {cs : List Char} {v : Json} (h : Spells cs v []) :
    Draft.read (String.ofList cs) = (Draft.ofJson v, true) := by
  have hread := h.read.2 (2 * cs.length + 2) (by omega)
  simp only [Draft.read, String.toList_ofList, hread]
  rfl

theorem Draft.read_render {v : Json} (h : v.plain = true) :
    Draft.read v.render = (Draft.ofJson v, true) :=
  Draft.read_of_spells (spells_write v h .nil)

theorem Draft.read_renderIndented {v : Json} (h : v.plain = true) :
    Draft.read v.renderIndented = (Draft.ofJson v, true) :=
  Draft.read_of_spells (spells_writeIndented 0 v h .nil)

end ToolRelay.Json
