import ToolRelay.Proofs.Json.Layout

/-!
# How far the reader goes

The reader of JSON text needs only the front of it: what it has used of a text makes the same value,
whatever comes behind, as long as that does not go on a number. The text of an object reaches from
its opening to its closing brace, so that a text denotes an object exactly when only the blanks of
JSON stand around the braces; any other white space there is an error.

## Main definitions

* `Json.Reads`: a reader makes something of a text, whatever follows.

## Main results

* `Json.readValue_used`, `Json.readItems_used`, `Json.readMembers_used`: what was used of a text.
* `Json.exists_braces`: the text of an object from brace to brace.
* `Json.read?_between_blanks`: the text of an object between white space.
-/

namespace ToolRelay.Json

variable {cs r t : List Char} {c : Char} {d : Draft}

/-! ## Texts -/

section Texts

/-- What was read behind a part of a text, with that part in front. -/
def StringRead.after (f : Option (List Char) → Option (List Char)) (q : StringRead) : StringRead :=
  q.map fun q => (f q.1, q.2)

variable {high : Option Nat}

/-- A character or an escape at the front of a text is read whatever comes behind it. -/
def IsUnit (high : Option Nat) (front : List Char) : Prop :=
  ∃ high' f, ∀ t, readString high (front ++ t) = (readString high' t).after f

theorem isUnit_unicode {a b c d : Char} {n : Nat} (h : hexQuad? a b c d = some n) :
    IsUnit high ['\\', 'u', a, b, c, d] := by
  cases high with
  | none =>
    have hread := fun t => readString.eq_4 a b c d t n h
    rcases hhigh : isHighSurrogate n
    · rcases hlow : isLowSurrogate n <;> rw [hhigh, hlow] at hread
      · exact ⟨none, Option.map (Char.ofNat n :: ·), hread⟩
      · exact ⟨none, fun _ => none, hread⟩
    · rw [hhigh] at hread
      exact ⟨some n, id, fun t => (hread t).trans (Option.map_id_apply ..).symm⟩
  | some half =>
    have hread := fun t => readString.eq_5 a b c d t n half h
    rcases hhigh : isHighSurrogate n
    · rcases hlow : isLowSurrogate n <;> rw [hhigh, hlow] at hread
      · exact ⟨none, fun _ => none, hread⟩
      · exact ⟨none, Option.map (pairedChar half n :: ·), hread⟩
    · rw [hhigh] at hread
      exact ⟨some n, fun _ => none, hread⟩

theorem isUnit_letter {e c : Char} (h : simpleEscape? e = some c) : IsUnit high ['\\', e] := by
  have hu : e ≠ 'u' := by
    rintro rfl
    cases h
  have hread : ∀ t, readString high ('\\' :: e :: t) =
      if high.isSome = true then (readString none t).spoil else (readString none t).push c := by
    intro t
    rw [readString.eq_6 high e t fun _ _ _ _ _ he _ => hu he, h]
  cases high with
  | none => exact ⟨none, Option.map (c :: ·), hread⟩
  | some half => exact ⟨none, fun _ => none, hread⟩

theorem isUnit_char {c : Char} (hq : c ≠ '"') (hb : c ≠ '\\') (hc : ¬c.toNat < 32) :
    IsUnit high [c] := by
  have hread : ∀ t, readString high (c :: t) =
      if high.isSome = true then (readString none t).spoil else (readString none t).push c := by
    intro t
    rw [readString.eq_7 high c t hq (fun _ _ _ _ _ h => (hb h).elim) (fun _ _ h => (hb h).elim),
      if_neg (by simp [hb, hc])]
  cases high with
  | none => exact ⟨none, Option.map (c :: ·), hread⟩
  | some half => exact ⟨none, fun _ => none, hread⟩

/-- A text that is not broken off begins with its closing quote, or with a character or an
escape. -/
theorem readString_cases {cs : List Char} {q : Option (List Char) × List Char}
    (h : readString high cs = some q) :
    (∃ r, cs = '"' :: r) ∨ ∃ front rest, front ≠ [] ∧ cs = front ++ rest ∧ IsUnit high front := by
  have hunit {front rest : List Char} (hne : front ≠ []) (h : IsUnit high front) :
      (∃ r, front ++ rest = '"' :: r) ∨
        ∃ front' rest', front' ≠ [] ∧ front ++ rest = front' ++ rest' ∧ IsUnit high front' :=
    .inr ⟨front, rest, hne, rfl, h⟩
  fun_cases readString high cs with
  | case1 => cases h
  | case2 _ r => exact .inl ⟨r, rfl⟩
  | case3 _ a b c d r hn =>
    rw [readString.eq_3 a b c d r _ hn] at h
    cases h
  | case4 a b c d r n hn | case5 a b c d r n hn | case6 a b c d r n hn
  | case7 a b c d r n half hn | case8 a b c d r n half hn | case9 a b c d r n half hn =>
    exact hunit (List.cons_ne_nil _ _) (isUnit_unicode hn)
  | case10 _ e r hu he =>
    rw [readString.eq_6 _ e r hu, he] at h
    cases h
  | case11 _ e r _ c hc | case12 _ e r _ c hc =>
    exact hunit (List.cons_ne_nil _ _) (isUnit_letter hc)
  | case13 _ c r hq hu hb hc =>
    rw [readString.eq_7 _ c r hq hu hb, if_pos hc] at h
    cases h
  | case14 _ c r hq hu hb hc | case15 _ c r hq hu hb hc =>
    rw [not_or] at hc
    exact hunit (List.cons_ne_nil _ _) (isUnit_char hq hc.2 hc.1)

/-- What was used of a text up to its closing quote. -/
theorem readString_used {high : Option Nat} {cs r : List Char} {s : Option (List Char)}
    (h : readString high cs = some (s, r)) :
    ∃ used, cs = used ++ r ∧ ∀ t, readString high (used ++ t) = some (s, t) := by
  induction hn : cs.length using Nat.strongRecOn generalizing high cs s with
  | _ n ih =>
    rcases readString_cases h with ⟨r', rfl⟩ | ⟨front, rest, hne, rfl, high', f, hunit⟩
    · rw [readString] at h
      cases h
      exact ⟨['"'], rfl, fun t => rfl⟩
    · rw [hunit, StringRead.after, Option.map_eq_some_iff] at h
      obtain ⟨⟨s', r'⟩, hread, heq⟩ := h
      obtain ⟨rfl, rfl⟩ := Prod.mk.inj heq
      have hlt : rest.length < n := by
        have := List.length_pos_of_ne_nil hne
        simp only [List.length_append] at hn
        omega
      obtain ⟨used, rfl, hused⟩ := ih _ hlt hread rfl
      refine ⟨front ++ used, (List.append_assoc _ _ _).symm, fun t => ?_⟩
      rw [List.append_assoc, hunit, hused]
      rfl

end Texts

/-! ## Numbers -/

/-- What follows does not go on a run of digits. -/
def EndsDigits (rest : List Char) : Prop := ∀ c, rest.head? = some c → Text.isDigit c = false

theorem EndsNumber.endsDigits {rest : List Char} (h : EndsNumber rest) : EndsDigits rest := by
  intro c hc
  have hno := h c hc
  simp only [continuesNumber, Bool.or_eq_false_iff] at hno
  exact hno.1.1.1

theorem EndsDigits.cons {c : Char} (h : Text.isDigit c = false) (rest : List Char) :
    EndsDigits (c :: rest) := by
  intro c' hc'
  obtain rfl := Option.some.inj hc'
  exact h

/-- Read a run of digits, and what it stands for. -/
def readRun {α : Type} (f : List Char → α) (cs : List Char) : Option (α × List Char) :=
  if (cs.takeWhile Text.isDigit).isEmpty then none
  else some (f (cs.takeWhile Text.isDigit), cs.dropWhile Text.isDigit)

theorem readRun_used {α : Type} {f : List Char → α} {a : α} (h : readRun f cs = some (a, r)) :
    ∃ ds, ds ≠ [] ∧ cs = ds ++ r ∧ ∀ t, EndsDigits t → readRun f (ds ++ t) = some (a, t) := by
  rw [readRun] at h
  split_ifs at h with hempty
  cases h
  refine ⟨cs.takeWhile Text.isDigit, by simpa using hempty,
    List.takeWhile_append_dropWhile.symm, fun t ht => ?_⟩
  have hall : ∀ c ∈ cs.takeWhile Text.isDigit, Text.isDigit c = true :=
    List.all_eq_true.1 List.all_takeWhile
  rw [readRun, Text.takeWhile_word hall ht, Text.dropWhile_word hall ht, if_neg hempty]

theorem readWhole_used {ds : List Char} (h : readWhole cs = some (ds, r)) :
    ∃ used, cs = used ++ r ∧ ∀ t, EndsDigits t → readWhole (used ++ t) = some (ds, t) := by
  by_cases hzero : ∃ rest, cs = '0' :: rest
  · obtain ⟨rest, rfl⟩ := hzero
    rw [readWhole] at h
    split_ifs at h with hno
    cases h
    refine ⟨['0'], rfl, fun t ht => ?_⟩
    rw [List.singleton_append, readWhole, if_neg]
    simpa [Option.any_eq_true, EndsDigits] using ht
  · have hrun : ∀ cs, (¬∃ rest, cs = '0' :: rest) → readWhole cs = readRun id cs :=
      fun cs hcs => readWhole.eq_2 cs fun rest hrest => hcs ⟨rest, hrest⟩
    rw [hrun cs hzero] at h
    obtain ⟨used, hne, rfl, hused⟩ := readRun_used h
    refine ⟨used, rfl, fun t ht => ?_⟩
    rw [hrun, hused t ht]
    -- the first digit is the one that was read, and so no zero
    obtain ⟨c, used, rfl⟩ := List.exists_cons_of_ne_nil hne
    rintro ⟨rest, hrest⟩
    exact hzero ⟨used ++ r, by rw [(List.cons.inj hrest).1]; rfl⟩

theorem readFraction_used {fraction : Option (List Char)}
    (h : readFraction cs = some (fraction, r)) :
    ∃ used, cs = used ++ r ∧ ∀ t, EndsDigits t → t.head? ≠ some '.' →
      EndsDigits (used ++ t) ∧ readFraction (used ++ t) = some (fraction, t) := by
  by_cases hdot : ∃ rest, cs = '.' :: rest
  · obtain ⟨rest, rfl⟩ := hdot
    obtain ⟨used, -, rfl, hused⟩ := readRun_used (f := some) h
    exact ⟨'.' :: used, rfl, fun t ht _ => ⟨.cons (by decide) _, hused t ht⟩⟩
  · rw [readFraction.eq_2 cs fun rest hrest => hdot ⟨rest, hrest⟩] at h
    cases h
    refine ⟨[], rfl, fun t ht hno => ⟨ht, readFraction.eq_2 t ?_⟩⟩
    rintro rest rfl
    exact hno rfl

/-- The sign of a power. -/
def signChar (negative : Bool) : Char := if negative then '-' else '+'

/-- What the digits of a power stand for. -/
def powerOf (negative : Bool) (ds : List Char) : Option Int :=
  some (if negative then -(Text.natOfDigits ds : Int) else Text.natOfDigits ds)

theorem readPower_signChar (negative : Bool) (cs : List Char) :
    readPower (signChar negative :: cs) = readRun (powerOf negative) cs := by
  cases negative <;> rfl

theorem readPower_of_no_sign (h : ∀ negative rest, cs ≠ signChar negative :: rest) :
    readPower cs = readRun (powerOf false) cs := by
  rw [readPower]
  · rfl
  · exact h false
  · exact h true

theorem readPower_used {power : Option Int} (h : readPower cs = some (power, r)) :
    ∃ used, cs = used ++ r ∧ ∀ t, EndsDigits t → readPower (used ++ t) = some (power, t) := by
  by_cases hsign : ∃ negative rest, cs = signChar negative :: rest
  · obtain ⟨negative, rest, rfl⟩ := hsign
    rw [readPower_signChar] at h
    obtain ⟨used, -, rfl, hused⟩ := readRun_used h
    exact ⟨signChar negative :: used, rfl,
      fun t ht => (readPower_signChar negative _).trans (hused t ht)⟩
  · push Not at hsign
    rw [readPower_of_no_sign hsign] at h
    obtain ⟨used, hne, rfl, hused⟩ := readRun_used h
    obtain ⟨c, used, rfl⟩ := List.exists_cons_of_ne_nil hne
    refine ⟨c :: used, rfl, fun t ht => ?_⟩
    rw [readPower_of_no_sign, hused t ht]
    -- the first digit is the one that was read, and so no sign
    intro negative rest hrest
    exact hsign negative (used ++ r) (by rw [← (List.cons.inj hrest).1]; rfl)

theorem readExponent_used {exponent : Option Int} (h : readExponent cs = some (exponent, r)) :
    ∃ used, cs = used ++ r ∧ ∀ t, EndsNumber t → EndsDigits (used ++ t) ∧
      (used ++ t).head? ≠ some '.' ∧ readExponent (used ++ t) = some (exponent, t) := by
  by_cases hmark : ∃ c rest, (c = 'e' ∨ c = 'E') ∧ cs = c :: rest
  · obtain ⟨c, rest, hc, rfl⟩ := hmark
    have hpower : ∀ cs, readExponent (c :: cs) = readPower cs := by
      rcases hc with rfl | rfl <;> exact fun _ => rfl
    rw [hpower] at h
    obtain ⟨used, rfl, hused⟩ := readPower_used h
    refine ⟨c :: used, rfl, fun t ht => ⟨.cons ?_ _, ?_, (hpower _).trans (hused t ht.endsDigits)⟩⟩
    · rcases hc with rfl | rfl <;> decide
    · rcases hc with rfl | rfl <;> simp
  · rw [readExponent.eq_3 cs (fun rest hrest => hmark ⟨'e', rest, .inl rfl, hrest⟩)
      fun rest hrest => hmark ⟨'E', rest, .inr rfl, hrest⟩] at h
    cases h
    -- without an exponent what follows must not be taken for one, nor for a fraction
    refine ⟨[], rfl, fun t ht => ⟨ht.endsDigits, fun hdot => ?_, readExponent_of_ends ht⟩⟩
    exact absurd (ht '.' hdot) (by decide)

/-- A number is read whatever follows, as long as it does not go on the number. -/
theorem readNumber_used {negative : Bool} {d : Draft} (h : readNumber negative cs = (d, some r)) :
    ∃ used, cs = used ++ r ∧ ∀ t, EndsNumber t → readNumber negative (used ++ t) = (d, some t) := by
  rw [readNumber] at h
  rcases hwhole : readWhole cs with _ | ⟨whole, cs₁⟩
  · rw [hwhole] at h
    cases h
  rw [hwhole] at h
  dsimp only at h
  rcases hfraction : readFraction cs₁ with _ | ⟨fraction, cs₂⟩
  · rw [hfraction] at h
    cases h
  rw [hfraction] at h
  dsimp only at h
  rcases hexponent : readExponent cs₂ with _ | ⟨exponent, cs₃⟩
  · rw [hexponent] at h
    cases h
  rw [hexponent] at h
  cases h
  obtain ⟨digits, rfl, hw⟩ := readWhole_used hwhole
  obtain ⟨used, rfl, hf⟩ := readFraction_used hfraction
  obtain ⟨used', rfl, he⟩ := readExponent_used hexponent
  -- each part ends where the next one begins, whatever comes behind the last
  refine ⟨digits ++ (used ++ used'), by simp, fun t ht => ?_⟩
  obtain ⟨hdigits, hdot, hread⟩ := he t ht
  obtain ⟨hdigits', hread'⟩ := hf _ hdigits hdot
  rw [List.append_assoc, List.append_assoc, readNumber, hw _ hdigits']
  dsimp only
  rw [hread']
  dsimp only
  rw [hread]

/-! ## Values without parts -/

theorem readWord_used {word : List Char} {d' : Draft} (h : readWord word d cs = (d', some r)) :
    ∃ used, cs = used ++ r ∧ ∀ t, EndsNumber t → readWord word d (used ++ t) = (d', some t) := by
  rw [readWord] at h
  by_cases hfront : word.isPrefixOf cs = true
  · rw [if_pos hfront] at h
    obtain ⟨rfl, hr⟩ := Prod.mk.inj h
    obtain ⟨rest, rfl⟩ := List.isPrefixOf_iff_prefix.1 hfront
    rw [List.drop_left, Option.some.injEq] at hr
    refine ⟨word, by rw [hr], fun t _ => ?_⟩
    rw [readWord, if_pos (List.isPrefixOf_iff_prefix.2 (List.prefix_append _ _)), List.drop_left]
  · rw [if_neg hfront] at h
    cases h

/-- Read the rest of a text as a value. -/
def readText (cs : List Char) : Draft × Option (List Char) :=
  match readString none cs with
  | none => (.broken, none)
  | some (none, r) => (.halfPair, some r)
  | some (some s, r) => (.str (String.ofList s), some r)

theorem readText_used (h : readText cs = (d, some r)) :
    ∃ used, cs = used ++ r ∧ ∀ t, EndsNumber t → readText (used ++ t) = (d, some t) := by
  rw [readText] at h
  rcases hread : readString none cs with _ | ⟨s, r'⟩
  · rw [hread] at h
    cases h
  · rw [hread] at h
    obtain ⟨used, rfl, hused⟩ := readString_used hread
    -- whether the text holds half of a pair is known once it was read
    cases s <;> cases h <;> exact ⟨used, rfl, fun t _ => by rw [readText, hused]⟩

/-- A number is read from its first digit on. -/
theorem readNumber_cons_used (h : readNumber false (c :: cs) = (d, some r)) :
    ∃ used, cs = used ++ r ∧ ∀ t, EndsNumber t →
      readNumber false (c :: (used ++ t)) = (d, some t) := by
  obtain ⟨used, hcs, hused⟩ := readNumber_used h
  cases used with
  | nil => cases hused [] .nil
  | cons c' used =>
    obtain ⟨rfl, rfl⟩ := List.cons.inj hcs
    exact ⟨used, rfl, hused⟩

/-! ## Tokens -/

/-- A token of one character, with the blanks before it. -/
def Token (front : List Char) (c : Char) : Prop :=
  ∃ blanks, front = blanks ++ [c] ∧ (∀ b ∈ blanks, isJsonBlank b = true) ∧ isJsonBlank c = false

variable {front : List Char}

theorem Token.skipBlanks (h : Token front c) (t : List Char) :
    skipBlanks (front ++ t) = c :: t := by
  obtain ⟨blanks, rfl, hblanks, hc⟩ := h
  rw [List.append_assoc, Json.skipBlanks, List.dropWhile_append_of_pos hblanks]
  exact skipBlanks_of_not_blank hc t

theorem Token.length_pos (h : Token front c) : 0 < front.length := by
  obtain ⟨blanks, rfl, -, -⟩ := h
  simp

theorem Token.endsNumber (h : Token front c) (hc : continuesNumber c = false) (t : List Char) :
    EndsNumber (front ++ t) := by
  obtain ⟨blanks, rfl, hblanks, -⟩ := h
  rw [List.append_assoc]
  exact (endsNumber_of_blank hblanks).append (.cons hc t)

/-- The token that a text begins with. -/
theorem exists_token (h : skipBlanks cs = c :: r) : ∃ front, cs = front ++ r ∧ Token front c := by
  have hcut : cs.takeWhile isJsonBlank ++ c :: r = cs := by
    rw [← h]
    exact List.takeWhile_append_dropWhile
  have hc : isJsonBlank c = false := by
    have hhead := List.head?_dropWhile_not isJsonBlank cs
    rw [show cs.dropWhile isJsonBlank = c :: r from h] at hhead
    simpa using hhead
  exact ⟨cs.takeWhile isJsonBlank ++ [c], by rw [← List.append_cons, hcut], _, rfl,
    List.all_eq_true.1 List.all_takeWhile, hc⟩

/-! ## One step of the reader -/

/-- Items begin with a value, and behind it there is a bracket, or a comma and more items. -/
theorem readItems_inv {fuel : Nat} {items : List Draft}
    (h : readItems (fuel + 1) cs = (items, some r)) :
    ∃ d cs', readValue fuel cs = (d, some cs') ∧
      ((skipBlanks cs' = ']' :: r ∧ items = [d]) ∨
        ∃ cs'' rest, skipBlanks cs' = ',' :: cs'' ∧ readItems fuel cs'' = (rest, some r) ∧
          items = d :: rest) := by
  rw [readItems] at h
  split at h
  · cases h
  · rename_i d cs' hv
    refine ⟨d, cs', hv, ?_⟩
    split at h
    · rename_i cs'' hcomma
      obtain ⟨rfl, hr⟩ := Prod.mk.inj h
      exact .inr ⟨cs'', _, hcomma, Prod.ext rfl hr, rfl⟩
    · rename_i cs'' hclose
      cases h
      exact .inl ⟨hclose, rfl⟩
    · cases h

/-- Members begin with a key, a colon and a value, and behind it there is a brace, or a comma and
more members. -/
theorem readMembers_inv {fuel : Nat} {members : List (Option String × Draft)}
    (h : readMembers (fuel + 1) cs = (members, some r)) :
    ∃ cs₀ key cs₁ cs₂ d cs₃, skipBlanks cs = '"' :: cs₀ ∧ readString none cs₀ = some (key, cs₁) ∧
      skipBlanks cs₁ = ':' :: cs₂ ∧ readValue fuel cs₂ = (d, some cs₃) ∧
      ((skipBlanks cs₃ = '\x7d' :: r ∧ members = [(key.map String.ofList, d)]) ∨
        ∃ cs₄ rest, skipBlanks cs₃ = ',' :: cs₄ ∧ readMembers fuel cs₄ = (rest, some r) ∧
          members = (key.map String.ofList, d) :: rest) := by
  rw [readMembers] at h
  -- whatever is missing breaks the text off
  split at h
  swap
  · cases h
  rename_i cs₀ hquote
  split at h
  · cases h
  rename_i key cs₁ hkey
  dsimp only at h
  split at h
  swap
  · cases h
  rename_i cs₂ hcolon
  split at h
  · cases h
  rename_i d cs₃ hv
  refine ⟨cs₀, key, cs₁, cs₂, d, cs₃, hquote, hkey, hcolon, hv, ?_⟩
  split at h
  · rename_i cs₄ hcomma
    obtain ⟨rfl, hr⟩ := Prod.mk.inj h
    exact .inr ⟨cs₄, _, hcomma, Prod.ext rfl hr, rfl⟩
  · rename_i hclose
    cases h
    exact .inl ⟨hclose, rfl⟩
  · cases h

/-- A value is missing where a bracket closes. -/
theorem readValue_closing (fuel : Nat) (h : skipBlanks cs = ']' :: r) :
    readValue fuel cs = (.broken, none) := by
  cases fuel with
  | zero => rfl
  | succ fuel =>
    rw [readValue, h]
    rfl

/-- What was read as items did not begin with the bracket that ends them. -/
theorem not_closing_of_readItems {fuel : Nat} {items : List Draft}
    (h : readItems fuel cs = (items, some t)) : skipBlanks cs ≠ ']' :: r := by
  intro hclose
  cases fuel with
  | zero => cases h
  | succ fuel =>
    rw [readItems, readValue_closing fuel hclose] at h
    cases h

theorem not_closing_of_readMembers {fuel : Nat} {members : List (Option String × Draft)}
    (h : readMembers fuel cs = (members, some t)) : skipBlanks cs ≠ '\x7d' :: r := by
  intro hclose
  cases fuel with
  | zero => cases h
  | succ fuel =>
    rw [readMembers, hclose] at h
    cases h

/-! ## What the reader makes of a text -/

/-- A reader makes something of a text whatever follows, as long as it does not go on a number. Two
steps of fuel for each character are enough, because every part begins or ends with a token. -/
def Reads {α : Type} (read : Nat → List Char → α × Option (List Char)) (used : List Char) (a : α) :
    Prop :=
  ∀ t, EndsNumber t → ∀ fuel, 2 * used.length < fuel → read fuel (used ++ t) = (a, some t)

variable {used : List Char} {items : List Draft} {members : List (Option String × Draft)}

theorem Reads.of_succ {α : Type} {read : Nat → List Char → α × Option (List Char)} {a : α}
    (h : ∀ t, EndsNumber t → ∀ fuel, 2 * used.length ≤ fuel →
      read (fuel + 1) (used ++ t) = (a, some t)) : Reads read used a := by
  intro t ht fuel hfuel
  obtain ⟨fuel, rfl⟩ : ∃ f, fuel = f + 1 := ⟨fuel - 1, by omega⟩
  exact h t ht fuel (by omega)

theorem Reads.blanks_append {blanks : List Char} (h : Reads readValue used d)
    (hblanks : ∀ b ∈ blanks, isJsonBlank b = true) : Reads readValue (blanks ++ used) d := by
  intro t ht fuel hfuel
  rw [List.length_append] at hfuel
  rw [← readValue_skipBlanks, List.append_assoc, skipBlanks, List.dropWhile_append_of_pos hblanks]
  exact (readValue_skipBlanks fuel _).trans (h t ht fuel (by omega))

theorem Reads.arr (h : Reads readItems used items) :
    Reads readValue ('[' :: used) (.arr items true) := by
  refine .of_succ fun t ht fuel hfuel => ?_
  rw [List.length_cons] at hfuel
  have hitems := h t ht fuel (by omega)
  exact readValue_items rfl (fun r => not_closing_of_readItems hitems) hitems

theorem Reads.obj (h : Reads readMembers used members) :
    Reads readValue ('\x7b' :: used) (.obj members true) := by
  refine .of_succ fun t ht fuel hfuel => ?_
  rw [List.length_cons] at hfuel
  have hmembers := h t ht fuel (by omega)
  exact readValue_members rfl (fun r => not_closing_of_readMembers hmembers) hmembers

theorem reads_noItems (hclose : Token front ']') :
    Reads readValue ('[' :: front) (.arr [] true) := by
  refine .of_succ fun t _ fuel _ => ?_
  rw [readValue, List.cons_append, skipBlanks_of_not_blank (by decide)]
  simp only [hclose.skipBlanks]

theorem reads_noMembers (hclose : Token front '\x7d') :
    Reads readValue ('\x7b' :: front) (.obj [] true) := by
  refine .of_succ fun t _ fuel _ => ?_
  rw [readValue, List.cons_append, skipBlanks_of_not_blank (by decide)]
  simp only [hclose.skipBlanks]

section Rows

variable {used' front' front'' : List Char}

/-- An item that is the last one: what follows it is no part of a number. -/
theorem Reads.last_item (h : Reads readValue used d) (hclose : Token front ']') :
    Reads readItems (used ++ front) [d] := by
  refine .of_succ fun t ht fuel hfuel => ?_
  have hpos := hclose.length_pos
  rw [List.length_append] at hfuel
  have hv := h (front ++ t) (hclose.endsNumber (by decide) t) fuel (by omega)
  rw [List.append_assoc, readItems, hv]
  simp only [hclose.skipBlanks]

theorem Reads.cons_item (h : Reads readValue used d) (hcomma : Token front ',')
    (hrest : Reads readItems used' items) :
    Reads readItems (used ++ (front ++ used')) (d :: items) := by
  refine .of_succ fun t ht fuel hfuel => ?_
  have hpos := hcomma.length_pos
  simp only [List.length_append] at hfuel
  have hv := h (front ++ (used' ++ t)) (hcomma.endsNumber (by decide) _) fuel (by omega)
  have hitems := hrest t ht fuel (by omega)
  rw [List.append_assoc, List.append_assoc, readItems, hv]
  simp only [hcomma.skipBlanks, hitems]

variable {name : List Char} {key : Option (List Char)}

/-- A member that is the last one: a key, a colon, a value, and the brace. -/
theorem Reads.last_member (hquote : Token front '"')
    (hname : ∀ t, readString none (name ++ t) = some (key, t)) (hcolon : Token front' ':')
    (h : Reads readValue used d) (hclose : Token front'' '\x7d') :
    Reads readMembers (front ++ (name ++ (front' ++ (used ++ front''))))
      [(key.map String.ofList, d)] := by
  refine .of_succ fun t ht fuel hfuel => ?_
  have hpos := hquote.length_pos
  simp only [List.length_append] at hfuel
  have hv := h (front'' ++ t) (hclose.endsNumber (by decide) t) fuel (by omega)
  simp only [List.append_assoc, readMembers, hquote.skipBlanks, hname, hcolon.skipBlanks, hv,
    hclose.skipBlanks]

/-- A member that others follow. -/
theorem Reads.cons_member (hquote : Token front '"')
    (hname : ∀ t, readString none (name ++ t) = some (key, t)) (hcolon : Token front' ':')
    (h : Reads readValue used d) (hcomma : Token front'' ',')
    (hrest : Reads readMembers used' members) :
    Reads readMembers (front ++ (name ++ (front' ++ (used ++ (front'' ++ used')))))
      ((key.map String.ofList, d) :: members) := by
  refine .of_succ fun t ht fuel hfuel => ?_
  have hpos := hquote.length_pos
  simp only [List.length_append] at hfuel
  have hv := h (front'' ++ (used' ++ t)) (hcomma.endsNumber (by decide) _) fuel (by omega)
  have hmembers := hrest t ht fuel (by omega)
  simp only [List.append_assoc, readMembers, hquote.skipBlanks, hname, hcolon.skipBlanks, hv,
    hcomma.skipBlanks, hmembers]

end Rows

/-! ## What the reader has used -/

/-- A value begins with a character behind blanks, and the rest of it is what decides. -/
theorem exists_reads_of_token {cs' : List Char} (hcs : skipBlanks cs = c :: cs')
    (h : ∃ used, cs' = used ++ r ∧ Reads readValue (c :: used) d) :
    ∃ used, cs = used ++ r ∧ Reads readValue used d := by
  obtain ⟨used, rfl, hused⟩ := h
  obtain ⟨front, rfl, blanks, rfl, hblanks, -⟩ := exists_token hcs
  exact ⟨blanks ++ c :: used, by simp, hused.blanks_append hblanks⟩

/-- A value that has no parts is read by a reader of its own. -/
theorem exists_reads_of_read {f : List Char → Draft × Option (List Char)} {cs' : List Char}
    (hcs : skipBlanks cs = c :: cs')
    (hf : ∃ used, cs' = used ++ r ∧ ∀ t, EndsNumber t → f (used ++ t) = (d, some t))
    (hread : ∀ fuel cs r, skipBlanks cs = c :: r → readValue (fuel + 1) cs = f r) :
    ∃ used, cs = used ++ r ∧ Reads readValue used d := by
  obtain ⟨used, hused, hf⟩ := hf
  have hc : isJsonBlank c = false := by
    obtain ⟨front, -, -, -, -, hc⟩ := exists_token hcs
    exact hc
  refine exists_reads_of_token hcs ⟨used, hused, .of_succ fun t ht fuel _ => ?_⟩
  exact (hread fuel _ _ (skipBlanks_of_not_blank hc (used ++ t))).trans (hf t ht)

/-- An object begins with a brace, and what is read behind it ends with one. -/
theorem exists_reads_of_brace {fuel : Nat}
    (hmembers : ∀ members, readMembers fuel cs = (members, some r) →
      ∃ used, cs = used ++ '\x7d' :: r ∧ Reads readMembers (used ++ ['\x7d']) members)
    (h : (match skipBlanks cs with
      | '\x7d' :: r => (Draft.obj [] true, some r)
      | r => (.obj (readMembers fuel r).1 (readMembers fuel r).2.isSome, (readMembers fuel r).2)) =
        (d, some r)) :
    ∃ used, cs = used ++ '\x7d' :: r ∧ Reads readValue ('\x7b' :: (used ++ ['\x7d'])) d := by
  split at h
  · rename_i hclose
    cases h
    obtain ⟨front, rfl, hfront⟩ := exists_token hclose
    have hreads := reads_noMembers hfront
    obtain ⟨blanks, rfl, -, -⟩ := hfront
    exact ⟨blanks, by simp, hreads⟩
  · rw [readMembers_skipBlanks] at h
    obtain ⟨rfl, hr⟩ := Prod.mk.inj h
    obtain ⟨used, rfl, hused⟩ := hmembers _ (Prod.ext rfl hr)
    rw [hr]
    exact ⟨used, rfl, hused.obj⟩

mutual

/-- What the reader has used of a text makes the value, whatever follows. -/
theorem readValue_used {fuel : Nat} {cs r : List Char} {d : Draft}
    (h : readValue fuel cs = (d, some r)) : ∃ used, cs = used ++ r ∧ Reads readValue used d := by
  match fuel with
  | 0 => cases h
  | fuel + 1 =>
    rw [readValue] at h
    -- the first character decides what is read, by a reader of its own or from parts
    split at h
    case h_1 hcs | h_2 hcs | h_3 hcs =>
      refine exists_reads_of_read hcs (readWord_used h) fun _ _ _ hcs => ?_
      rw [readValue, hcs]
      rfl
    case h_4 hcs =>
      obtain ⟨used, hused, hread⟩ := readNumber_used h
      refine exists_reads_of_read hcs ⟨used, hused, hread⟩ fun _ _ _ hcs => ?_
      rw [readValue, hcs]
      rfl
    case h_5 hcs =>
      refine exists_reads_of_read (f := readText) hcs (readText_used h) fun _ _ _ hcs => ?_
      rw [readValue, hcs]
      rfl
    case h_6 hcs =>
      refine exists_reads_of_token hcs ?_
      split at h
      · rename_i hclose
        cases h
        obtain ⟨front, rfl, hfront⟩ := exists_token hclose
        exact ⟨front, rfl, reads_noItems hfront⟩
      · rw [readItems_skipBlanks] at h
        obtain ⟨rfl, hr⟩ := Prod.mk.inj h
        obtain ⟨used, rfl, hused⟩ := readItems_used (Prod.ext rfl hr)
        rw [hr]
        exact ⟨used, rfl, hused.arr⟩
    case h_7 hcs =>
      obtain ⟨used, hused, hreads⟩ := exists_reads_of_brace (fun _ => readMembers_used) h
      exact exists_reads_of_token hcs ⟨used ++ ['\x7d'], by simp [hused], hreads⟩
    case h_8 hcs =>
      split at h
      · rename_i hdigit
        exact exists_reads_of_read hcs (readNumber_cons_used h)
          fun _ _ _ hcs => readValue_digit hcs hdigit
      · cases h
    case h_9 => cases h

/-- What was used up to the closing bracket makes the items. -/
theorem readItems_used {fuel : Nat} {cs r : List Char} {items : List Draft}
    (h : readItems fuel cs = (items, some r)) :
    ∃ used, cs = used ++ r ∧ Reads readItems used items := by
  match fuel with
  | 0 => cases h
  | fuel + 1 =>
    obtain ⟨d, cs', hv, ⟨hclose, rfl⟩ | ⟨cs'', rest, hcomma, hrest, rfl⟩⟩ := readItems_inv h
    · obtain ⟨used, rfl, hused⟩ := readValue_used hv
      obtain ⟨front, rfl, hfront⟩ := exists_token hclose
      exact ⟨_, (List.append_assoc _ _ _).symm, hused.last_item hfront⟩
    · obtain ⟨used, rfl, hused⟩ := readValue_used hv
      obtain ⟨front, rfl, hfront⟩ := exists_token hcomma
      obtain ⟨used', rfl, hused'⟩ := readItems_used hrest
      exact ⟨_, by simp, hused.cons_item hfront hused'⟩

/-- What was used up to the closing brace makes the members. -/
theorem readMembers_used {fuel : Nat} {cs r : List Char} {members : List (Option String × Draft)}
    (h : readMembers fuel cs = (members, some r)) :
    ∃ used, cs = used ++ '\x7d' :: r ∧ Reads readMembers (used ++ ['\x7d']) members := by
  match fuel with
  | 0 => cases h
  | fuel + 1 =>
    obtain ⟨cs₀, key, cs₁, cs₂, d, cs₃, hquote, hkey, hcolon, hv, hend⟩ := readMembers_inv h
    obtain ⟨front, rfl, hfront⟩ := exists_token hquote
    obtain ⟨name, rfl, hname⟩ := readString_used hkey
    obtain ⟨front', rfl, hfront'⟩ := exists_token hcolon
    obtain ⟨used, rfl, hused⟩ := readValue_used hv
    rcases hend with ⟨hclose, rfl⟩ | ⟨cs₄, rest, hcomma, hrest, rfl⟩
    · obtain ⟨front'', rfl, hfront''⟩ := exists_token hclose
      have hmember := Reads.last_member hfront hname hfront' hused hfront''
      obtain ⟨blanks, rfl, -, -⟩ := hfront''
      exact ⟨front ++ (name ++ (front' ++ (used ++ blanks))), by simp, by simpa using hmember⟩
    · obtain ⟨front'', rfl, hfront''⟩ := exists_token hcomma
      obtain ⟨used', rfl, hused'⟩ := readMembers_used hrest
      have hmember := Reads.cons_member hfront hname hfront' hused hfront'' hused'
      exact ⟨front ++ (name ++ (front' ++ (used ++ (front'' ++ used')))), by simp,
        by simpa using hmember⟩

end

/-! ## Objects -/

variable {closed : Bool}

theorem readWord_ne_obj {word : List Char} {d : Draft} (hd : ∀ ms c, d ≠ .obj ms c) :
    (readWord word d cs).1 ≠ .obj members closed := by
  rw [readWord]
  split_ifs
  · exact hd members closed
  · simp

theorem readNumber_ne_obj {negative : Bool} :
    (readNumber negative cs).1 ≠ .obj members closed := by
  rw [readNumber]
  split
  · simp
  · split
    · simp
    · split
      · simp
      · simp only [NumberText.toDraft]
        split_ifs <;> (try split) <;> simp

/-- What is read as an object starts with a brace. -/
theorem skipBlanks_of_readValue_obj {fuel : Nat}
    (h : (readValue fuel cs).1 = .obj members closed) : ∃ r, skipBlanks cs = '\x7b' :: r := by
  cases fuel with
  | zero => cases h
  | succ fuel =>
    rw [readValue] at h
    -- the character in front decides what can be read
    split at h
    · exact absurd h (readWord_ne_obj (by simp))
    · exact absurd h (readWord_ne_obj (by simp))
    · exact absurd h (readWord_ne_obj (by simp))
    · exact absurd h readNumber_ne_obj
    · split at h <;> cases h
    · split at h <;> cases h
    · next r heq => exact ⟨r, heq⟩
    · split at h
      · exact absurd h readNumber_ne_obj
      · cases h
    · cases h

/-- The text of an object reaches from brace to brace, and only blanks stand before it. -/
theorem exists_braces_of_readValue {fuel : Nat}
    (h : readValue fuel cs = (.obj members closed, some r)) :
    ∃ blanks inner, cs = blanks ++ '\x7b' :: (inner ++ '\x7d' :: r) ∧
      (∀ b ∈ blanks, isJsonBlank b = true) ∧
        Reads readValue ('\x7b' :: (inner ++ ['\x7d'])) (.obj members closed) := by
  match fuel with
  | 0 => cases h
  | fuel + 1 =>
    obtain ⟨cs', hcs⟩ := skipBlanks_of_readValue_obj (congrArg Prod.fst h)
    rw [readValue, hcs] at h
    obtain ⟨inner, rfl, hreads⟩ := exists_reads_of_brace (fun _ => readMembers_used) h
    obtain ⟨front, rfl, blanks, rfl, hblanks, -⟩ := exists_token hcs
    exact ⟨blanks, inner, by simp, hblanks, hreads⟩

/-- An object comes from a draft of one. -/
theorem Draft.toJson?_eq_obj {levels : Nat} {d : Draft} {ms : List (String × Json)}
    (h : d.toJson? levels = some (.obj ms)) : ∃ members closed, d = .obj members closed := by
  cases d with
  | obj members closed => exact ⟨members, closed, rfl⟩
  | arr items closed =>
    rw [Draft.toJson?] at h
    split_ifs at h
    simp at h
  | _ => simp [Draft.toJson?] at h

/-! ## Whole texts -/

/-- A text that denotes a value is a value with blanks behind it. -/
theorem exists_readValue {v : Json} (h : read? (String.ofList cs) = some v) :
    ∃ d r, readValue (2 * cs.length + 2) cs = (d, some r) ∧ (∀ b ∈ r, isJsonBlank b = true) ∧
      d.toJson? maxLevels = some v := by
  rcases hread : readValue (2 * cs.length + 2) cs with ⟨d, _ | r⟩
  · simp only [read?, Draft.read, String.toList_ofList, hread] at h
    cases h
  · simp only [read?, Draft.read, String.toList_ofList, hread] at h
    rcases hend : (skipBlanks r).isEmpty
    · rw [hend] at h
      cases h
    · rw [hend] at h
      exact ⟨d, r, rfl, List.dropWhile_eq_nil_iff.1 (List.isEmpty_iff.1 hend), h⟩

variable {front' back back' body : List Char} {ms : List (String × Json)}

/-- The text of an object reaches from brace to brace, and any blanks may stand on either side. -/
theorem exists_braces (h : read? (String.ofList cs) = some (.obj ms)) :
    ∃ front inner back, cs = front ++ '\x7b' :: (inner ++ '\x7d' :: back) ∧
      (∀ b ∈ front ++ back, isJsonBlank b = true) ∧
        ∀ front' back', (∀ b ∈ front' ++ back', isJsonBlank b = true) →
          read? (String.ofList (front' ++ '\x7b' :: (inner ++ '\x7d' :: back'))) =
            some (.obj ms) := by
  obtain ⟨d, back, hread, hback, hvalue⟩ := exists_readValue h
  obtain ⟨members, closed, rfl⟩ := Draft.toJson?_eq_obj hvalue
  obtain ⟨front, inner, hcs, hfront, hreads⟩ := exists_braces_of_readValue hread
  refine ⟨front, inner, back, hcs, List.forall_mem_append.2 ⟨hfront, hback⟩,
    fun front' back' hblanks => ?_⟩
  obtain ⟨hfront', hback'⟩ := List.forall_mem_append.1 hblanks
  -- between the braces nothing has changed
  have hcut : front' ++ '\x7b' :: (inner ++ '\x7d' :: back') =
      front' ++ '\x7b' :: (inner ++ ['\x7d']) ++ back' := by simp
  rw [hcut, ← hvalue]
  refine read?_of_readValue ?_ hback'
  exact hreads.blanks_append hfront' back' (endsNumber_of_blank hback') _
    (by simp only [List.length_append]; omega)

/-- The front of a text, when it is without some character, ends before every place of it. -/
theorem exists_between_of_front (h : front ++ cs = front' ++ c :: r) (hc : c ∉ front) :
    ∃ between, front' = front ++ between ∧ cs = between ++ c :: r := by
  rcases List.append_eq_append_iff.1 h with ⟨between, rfl, rfl⟩ | ⟨between, rfl, hr⟩
  · exact ⟨between, rfl, rfl⟩
  · cases between with
    | nil => exact ⟨[], by simp, hr.symm⟩
    | cons c' between =>
      obtain ⟨rfl, -⟩ := List.cons.inj hr
      exact absurd (by simp) hc

/-- The end of a text, when it is without some character, begins behind every place of it. -/
theorem exists_between_of_back (h : cs ++ back = front ++ c :: back') (hc : c ∉ back) :
    ∃ between, back' = between ++ back ∧ cs = front ++ c :: between := by
  have hrev := congrArg List.reverse h
  simp only [List.reverse_append, List.reverse_cons, List.append_assoc, List.singleton_append]
    at hrev
  obtain ⟨between, hback, hcs⟩ := exists_between_of_front hrev (by simpa using hc)
  refine ⟨between.reverse, ?_, ?_⟩
  · rw [← List.reverse_reverse back', hback, List.reverse_append, List.reverse_reverse]
  · rw [← List.reverse_reverse cs, hcs]
    simp

/-- Of the white space around the text of an object only the blanks of JSON are allowed. -/
theorem read?_between_blanks (hfront : ∀ b ∈ front, Text.isBlank b = true)
    (hback : ∀ b ∈ back, Text.isBlank b = true) :
    read? (String.ofList (front ++ body ++ back)) = some (.obj ms) ↔
      read? (String.ofList body) = some (.obj ms) ∧
        ∀ b ∈ front ++ back, isJsonBlank b = true := by
  constructor
  · intro h
    obtain ⟨f, inner, b, hcs, hblanks, hread⟩ := exists_braces h
    -- no white space is a brace
    rw [List.append_assoc] at hcs
    obtain ⟨f, rfl, hbody⟩ := exists_between_of_front hcs fun hin => by cases hfront _ hin
    rw [← List.cons_append, ← List.append_assoc] at hbody
    obtain ⟨b, rfl, rfl⟩ := exists_between_of_back hbody fun hin => by cases hback _ hin
    simp only [List.forall_mem_append] at hblanks ⊢
    have hall := hread f b (List.forall_mem_append.2 ⟨hblanks.1.2, hblanks.2.1⟩)
    rw [List.append_assoc, List.cons_append]
    exact ⟨hall, hblanks.1.1, hblanks.2.2⟩
  · rintro ⟨h, hblanks⟩
    obtain ⟨f, inner, b, rfl, hblanks', hread⟩ := exists_braces h
    simp only [List.forall_mem_append] at hblanks hblanks'
    have hall := hread (front ++ f) (b ++ back) (by
      simp only [List.forall_mem_append]
      exact ⟨⟨hblanks.1, hblanks'.1⟩, hblanks'.2, hblanks.2⟩)
    simpa using hall

end ToolRelay.Json
