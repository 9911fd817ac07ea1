import ToolRelay.Proofs.Text.Numerals
import ToolRelay.Toml.Printer
import ToolRelay.Toml.Scalar

/-!
# Written scalars

Every text is read back from the spelling in which it is written, and so are truth values and
integers. Each spelling is read character by character, and each of the two in three quotes has to
tell the quotes of the text from those that close it.

## Main results

* `Toml.readBasic_basicChars`: texts between double quotes.
* `Toml.readMultiBasic_multiBasicChars`: texts between three double quotes.
* `Toml.readLiteral_plain`, `Toml.readMultiLiteral_plain`: texts between single quotes.
* `Toml.readText?_textChars`: texts in the spelling that is chosen.
* `Toml.readWord_digitChars`: integers.
-/

namespace ToolRelay.Toml

/-! ## Escapes -/

/-- The escape of a control character denotes it. -/
theorem codePoint?_of_control {c : Char} (h : c.toNat < 128) :
    codePoint? ['0', '0', (Text.hexDigit (c.toNat / 16)).toUpper,
      (Text.hexDigit (c.toNat % 16)).toUpper] = some c := by
  have hzero : Text.hexValue? '0' = some 0 := by decide
  have hhigh : Text.hexValue? (Text.hexDigit (c.toNat / 16)).toUpper = some (c.toNat / 16) :=
    Text.hexValue?_toUpper_hexDigit (by omega)
  have hlow : Text.hexValue? (Text.hexDigit (c.toNat % 16)).toUpper = some (c.toNat % 16) :=
    Text.hexValue?_toUpper_hexDigit (by omega)
  have hvalue : 16 * (16 * (16 * (16 * 0 + 0) + 0) + c.toNat / 16) + c.toNat % 16 = c.toNat := by
    omega
  simp only [codePoint?, List.foldlM_cons, List.foldlM_nil, hzero, hhigh, hlow, Option.map_some,
    Option.bind_eq_bind, Option.bind_some, Option.pure_def, hvalue, Char.ofNat_toNat]
  rw [if_pos (Or.inl (by omega))]

/-- The characters that stand for themselves between double quotes. -/
def IsPlain (c : Char) : Prop := c ≠ '"' ∧ c ≠ '\\' ∧ 32 ≤ c.toNat ∧ c.toNat ≠ 127

theorem IsPlain.isShown {c : Char} (h : IsPlain c) : isShown c = true := by
  simp [Toml.isShown, h.2.2.1, h.2.2.2]

/-- Everything that the written form of a character can be. -/
theorem escaped_cases (c : Char) :
    (∃ e, escaped c = ['\\', e] ∧ simpleEscape? e = some c ∧ e ≠ 'u' ∧ e ≠ 'U' ∧ isGap e = false ∧
        e ≠ '\n' ∧ e ≠ '\x0d') ∨
      (∃ h l, escaped c = ['\\', 'u', '0', '0', h, l] ∧ codePoint? ['0', '0', h, l] = some c) ∨
      (escaped c = [c] ∧ IsPlain c) := by
  rw [escaped]
  -- seven characters have a short escape, the other control characters one by number
  split_ifs with hb ht hn hf hr hq hs hctl
  · subst hb; exact Or.inl ⟨'b', rfl, by decide⟩
  · subst ht; exact Or.inl ⟨'t', rfl, by decide⟩
  · subst hn; exact Or.inl ⟨'n', rfl, by decide⟩
  · subst hf; exact Or.inl ⟨'f', rfl, by decide⟩
  · subst hr; exact Or.inl ⟨'r', rfl, by decide⟩
  · subst hq; exact Or.inl ⟨'"', rfl, by decide⟩
  · subst hs; exact Or.inl ⟨'\\', rfl, by decide⟩
  · refine Or.inr (Or.inl ⟨_, _, rfl, codePoint?_of_control ?_⟩)
    simp only [Bool.or_eq_true, decide_eq_true_eq, beq_iff_eq] at hctl
    omega
  · simp only [Bool.or_eq_true, decide_eq_true_eq, beq_iff_eq, not_or] at hctl
    exact Or.inr (Or.inr ⟨rfl, hq, hs, by omega, hctl.2⟩)

/-! ## Between double quotes -/

theorem readBasic_escape {e c : Char} (he : simpleEscape? e = some c) (hu : e ≠ 'u')
    (hU : e ≠ 'U') (r : List Char) :
    readBasic ('\\' :: e :: r) = TextRead.push c (readBasic r) := by
  rw [readBasic]
  · rw [he]
    rfl
  · exact fun _ _ _ _ _ h _ => hu h
  · exact fun _ _ _ _ _ _ _ _ _ h _ => hU h

theorem readBasic_plain {c : Char} (h : IsPlain c) (r : List Char) :
    readBasic (c :: r) = TextRead.push c (readBasic r) := by
  rw [readBasic]
  · rw [if_pos (by simp [h.isShown, h.2.1])]
  · exact h.1
  · exact fun _ _ _ _ _ hc _ => h.2.1 hc
  · exact fun _ _ _ _ _ _ _ _ _ hc _ => h.2.1 hc
  · exact fun _ _ hc _ => h.2.1 hc

theorem readBasic_escaped (c : Char) (r : List Char) :
    readBasic (escaped c ++ r) = TextRead.push c (readBasic r) := by
  rcases escaped_cases c with ⟨e, heq, he, hu, hU, -⟩ | ⟨h, l, heq, hcode⟩ | ⟨heq, hplain⟩
  · rw [heq]
    exact readBasic_escape he hu hU r
  · rw [heq]
    show readBasic ('\\' :: 'u' :: '0' :: '0' :: h :: l :: r) = _
    rw [readBasic, hcode]
    rfl
  · rw [heq]
    exact readBasic_plain hplain r

theorem readBasic_basicChars (cs r : List Char) :
    readBasic (basicChars cs ++ '"' :: r) = some (cs, r) := by
  induction cs with
  | nil => rfl
  | cons c cs ih =>
    rw [basicChars, List.flatMap_cons, List.append_assoc, readBasic_escaped]
    exact congrArg (TextRead.push c) ih

/-! ## Between single quotes -/

/-- A text without single quotes and characters that need an escape, on one line. -/
theorem readLiteral_plain {cs : List Char} (h : ∀ c ∈ cs, c ≠ '\x27' ∧ isShown c = true)
    (r : List Char) : readLiteral (cs ++ '\x27' :: r) = some (cs, r) := by
  induction cs with
  | nil => rfl
  | cons c cs ih =>
    have hc := h c List.mem_cons_self
    rw [List.cons_append, readLiteral, if_neg (by simp [hc.1]), if_pos hc.2,
      ih fun d hd => h d (List.mem_cons_of_mem c hd)]
    rfl

/-! ## Between three quotes -/

section Three

variable {c e : Char} {r : List Char}

theorem readMultiBasic_escape (he : simpleEscape? e = some c) (hu : e ≠ 'u') (hU : e ≠ 'U')
    (hgap : isGap e = false) (hn : e ≠ '\n') (hr : e ≠ '\x0d') (r : List Char) :
    readMultiBasic false ('\\' :: e :: r) = TextRead.push c (readMultiBasic false r) := by
  have hline : endsLine (e :: r) = false := by
    rw [endsLine, List.dropWhile_cons_of_neg (by simp [hgap]), lineEnd?]
    · rfl
    · exact fun _ h => hn (List.cons.inj h).1
    · exact fun _ h => hr (List.cons.inj h).1
  rw [readMultiBasic]
  · rw [hline, he]
    rfl
  · exact fun _ _ _ _ _ h _ => hu h
  · exact fun _ _ _ _ _ _ _ _ _ h _ => hU h

/-- A character that starts nothing else is read as itself. -/
theorem readMultiBasic_self (hq : ∀ r', c = '"' → r ≠ '"' :: '"' :: r') (hs : c ≠ '\\')
    (hr : c ≠ '\x0d') (h : c = '\n' ∨ isShown c = true) :
    readMultiBasic false (c :: r) = TextRead.push c (readMultiBasic false r) := by
  rw [readMultiBasic]
  · rw [if_neg (by simp), if_pos]
    rcases h with h | h <;> simp [h, hs]
  · exact fun r' hc heq => hq r' hc heq
  · exact fun _ _ _ _ _ hc _ => hs hc
  · exact fun _ _ _ _ _ _ _ _ _ hc _ => hs hc
  · exact fun _ _ hc _ => hs hc
  · exact fun _ hc _ => hr hc

theorem readMultiBasic_escaped (c : Char) (r : List Char) :
    readMultiBasic false (escaped c ++ r) = TextRead.push c (readMultiBasic false r) := by
  rcases escaped_cases c with ⟨e, heq, he, hu, hU, hgap, hn, hr⟩ | ⟨h, l, heq, hcode⟩ |
    ⟨heq, hplain⟩
  · rw [heq]
    exact readMultiBasic_escape he hu hU hgap hn hr r
  · rw [heq]
    show readMultiBasic false ('\\' :: 'u' :: '0' :: '0' :: h :: l :: r) = _
    rw [readMultiBasic, hcode]
    rfl
  · rw [heq]
    have hr : c ≠ '\x0d' := by
      rintro rfl
      exact absurd hplain.2.2.1 (by decide)
    exact readMultiBasic_self (fun _ hc => absurd hc hplain.1) hplain.2.1 hr (Or.inr hplain.isShown)

/-- Quotes behind the first three closing ones belong to the text. -/
theorem innerQuotes_replicate {q : Char} {k : Nat} (hk : k ≤ 2) (hr : r.head? ≠ some q) :
    innerQuotes q (List.replicate k q ++ r) = List.replicate k q := by
  have hall : ∀ x ∈ List.replicate k q, (x == q) = true := fun x hx =>
    beq_iff_eq.2 (List.eq_of_mem_replicate hx)
  have hstop : r.takeWhile (· == q) = [] := by
    rcases r with _ | ⟨x, xs⟩
    · rfl
    · exact List.takeWhile_cons_of_neg fun hx => hr (congrArg some (beq_iff_eq.1 hx))
  rw [innerQuotes, List.takeWhile_append_of_pos hall, hstop, List.append_nil,
    List.take_of_length_le (by simpa using hk)]

theorem readMultiBasic_close {k : Nat} (hk : k ≤ 2) (hr : r.head? ≠ some '"') :
    readMultiBasic false ('"' :: '"' :: '"' :: (List.replicate k '"' ++ r)) =
      some (List.replicate k '"', r) := by
  rw [readMultiBasic, innerQuotes_replicate hk hr, List.drop_left]

/-- Only a quote that may stand as it is starts with a quote. -/
theorem multiBasicChars_cons {d : Char} {quotes : Nat} (h : d ≠ '"' ∨ 2 ≤ quotes)
    (ds : List Char) : ∃ x xs, multiBasicChars quotes (d :: ds) = x :: xs ∧ x ≠ '"' := by
  rw [multiBasicChars]
  split_ifs with hd hmany hbreak
  · exact ⟨_, _, rfl, by decide⟩
  · exact absurd h (by simp [hd, hmany])
  · exact ⟨_, _, rfl, by decide⟩
  · rcases escaped_cases d with ⟨e, heq, -⟩ | ⟨_, _, heq, -⟩ | ⟨heq, hplain⟩
    · exact ⟨_, _, by rw [heq]; rfl, by decide⟩
    · exact ⟨_, _, by rw [heq]; rfl, by decide⟩
    · exact ⟨_, _, by rw [heq]; rfl, hplain.1⟩

theorem readMultiBasic_multiBasicChars (cs : List Char) (quotes : Nat)
    (hr : r.head? ≠ some '"') :
    readMultiBasic false (multiBasicChars quotes cs ++ '"' :: '"' :: '"' :: r) = some (cs, r) := by
  induction cs generalizing quotes with
  | nil => exact readMultiBasic_close (Nat.zero_le 2) hr
  | cons c cs ih =>
    rw [multiBasicChars]
    split_ifs with hc hmany hbreak
    · rw [List.cons_append, List.cons_append, readMultiBasic_escape (c := '"') rfl (by decide)
        (by decide) (by decide) (by decide) (by decide), ih, hc]
      rfl
    · -- a quote that stands as it is: whether it closes the text depends on what follows
      subst hc
      have hself : (∀ r', multiBasicChars (quotes + 1) cs ++ '"' :: '"' :: '"' :: r ≠
            '"' :: '"' :: r') →
          readMultiBasic false
              ('"' :: (multiBasicChars (quotes + 1) cs ++ '"' :: '"' :: '"' :: r)) =
            some ('"' :: cs, r) := by
        intro hopen
        rw [readMultiBasic_self (fun r' _ => hopen r') (by decide) (by decide) (Or.inr rfl), ih]
        rfl
      rcases cs with _ | ⟨d, ds⟩
      · exact readMultiBasic_close (k := 1) (by decide) hr
      · by_cases hd : d ≠ '"' ∨ 2 ≤ quotes + 1
        · obtain ⟨x, xs, hxs, hx⟩ := multiBasicChars_cons hd ds
          refine hself fun r' heq => hx ?_
          rw [hxs] at heq
          exact (List.cons.inj heq).1
        · -- two quotes in a row: a third would have been escaped
          obtain ⟨rfl, hfew⟩ : d = '"' ∧ quotes + 1 < 2 := by
            constructor
            · by_contra hne
              exact hd (Or.inl hne)
            · by_contra hge
              exact hd (Or.inr (by omega))
          have htwo : multiBasicChars (quotes + 1) ('"' :: ds) =
              '"' :: multiBasicChars (quotes + 2) ds := by
            rw [multiBasicChars, if_pos rfl, if_neg (by omega)]
          rcases ds with _ | ⟨x, xs⟩
          · rw [htwo]
            exact readMultiBasic_close (k := 2) (by decide) hr
          · obtain ⟨y, ys, hys, hy⟩ := multiBasicChars_cons (d := x)
              (Or.inr (by omega : 2 ≤ quotes + 2)) xs
            refine hself fun r' heq => hy ?_
            rw [htwo, hys] at heq
            exact (List.cons.inj (List.cons.inj heq).2).1
    · subst hbreak
      rw [List.cons_append, readMultiBasic_self (fun _ h => absurd h (by decide)) (by decide)
        (by decide) (Or.inl rfl), ih]
      rfl
    · rw [List.append_assoc, readMultiBasic_escaped, ih]
      rfl

/-- A character that starts nothing else is read as itself. -/
theorem readMultiLiteral_self (hq : ∀ r', c = '\x27' → r ≠ '\x27' :: '\x27' :: r')
    (hr : c ≠ '\x0d') (h : c = '\n' ∨ isShown c = true) :
    readMultiLiteral (c :: r) = TextRead.push c (readMultiLiteral r) := by
  rw [readMultiLiteral]
  · rw [if_pos]
    rcases h with h | h <;> simp [h]
  · exact fun r' hc heq => hq r' hc heq
  · exact fun _ hc _ => hr hc

theorem readMultiLiteral_close {k : Nat} (hk : k ≤ 2) (hr : r.head? ≠ some '\x27') :
    readMultiLiteral ('\x27' :: '\x27' :: '\x27' :: (List.replicate k '\x27' ++ r)) =
      some (List.replicate k '\x27', r) := by
  rw [readMultiLiteral, innerQuotes_replicate hk hr, List.drop_left]

theorem le_longestRun (q : Char) (cs : List Char) (run : Nat) : run ≤ longestRun q cs run := by
  induction cs generalizing run with
  | nil => exact le_rfl
  | cons c cs ih =>
    rw [longestRun]
    split_ifs
    · exact le_trans (Nat.le_succ run) (ih (run + 1))
    · exact le_max_left _ _

/-- A text without long runs of single quotes and characters that need an escape. -/
theorem readMultiLiteral_plain {cs : List Char} {run : Nat}
    (hrun : longestRun '\x27' cs run ≤ 2)
    (h : ∀ c ∈ cs, c ≠ '\x0d' ∧ (c = '\n' ∨ isShown c = true)) (hr : r.head? ≠ some '\x27') :
    readMultiLiteral (cs ++ '\x27' :: '\x27' :: '\x27' :: r) = some (cs, r) := by
  induction cs generalizing run with
  | nil => exact readMultiLiteral_close (Nat.zero_le 2) hr
  | cons c cs ih =>
    have hc := h c List.mem_cons_self
    have hcs : ∀ d ∈ cs, d ≠ '\x0d' ∧ (d = '\n' ∨ isShown d = true) :=
      fun d hd => h d (List.mem_cons_of_mem c hd)
    rw [longestRun] at hrun
    -- it is enough that this character does not begin the closing quotes
    have hself : ∀ run', longestRun '\x27' cs run' ≤ 2 → (∀ r', c = '\x27' →
          cs ++ '\x27' :: '\x27' :: '\x27' :: r ≠ '\x27' :: '\x27' :: r') →
        readMultiLiteral (c :: cs ++ '\x27' :: '\x27' :: '\x27' :: r) = some (c :: cs, r) := by
      intro run' hrun' hopen
      rw [List.cons_append, readMultiLiteral_self hopen hc.1 hc.2, ih hrun' hcs]
      rfl
    by_cases hquote : c = '\x27'
    · subst hquote
      rw [if_pos rfl] at hrun
      rcases cs with _ | ⟨d, ds⟩
      · exact readMultiLiteral_close (k := 1) (by decide) hr
      · by_cases hd : d = '\x27'
        · subst hd
          rcases ds with _ | ⟨x, xs⟩
          · exact readMultiLiteral_close (k := 2) (by decide) hr
          · refine hself _ hrun fun r' _ heq => ?_
            have hx : x = '\x27' := (List.cons.inj (List.cons.inj heq).2).1
            rw [hx, longestRun, if_pos rfl, longestRun, if_pos rfl] at hrun
            have hle := le_longestRun '\x27' xs (run + 1 + 1 + 1)
            omega
        · exact hself _ hrun fun r' _ heq => hd (List.cons.inj heq).1
    · rw [if_neg hquote, max_le_iff] at hrun
      exact hself 0 hrun.2 fun r' hq _ => hquote hq

end Three

/-! ## Texts in the spelling that is chosen -/

theorem lineEnd?_eq_none {cs : List Char} (h : ∀ c ∈ cs.head?, c ≠ '\n' ∧ c ≠ '\x0d') :
    lineEnd? cs = none := by
  rw [lineEnd?]
  · rintro r rfl
    exact (h '\n' rfl).1 rfl
  · rintro r rfl
    exact (h '\x0d' rfl).2 rfl

theorem dropFirstBreak_of_head {cs : List Char} (h : ∀ c ∈ cs.head?, c ≠ '\n' ∧ c ≠ '\x0d') :
    dropFirstBreak cs = cs := by
  rw [dropFirstBreak, lineEnd?_eq_none h]
  rfl

/-- No written form of a character starts with a quote. -/
theorem escaped_eq_cons (c : Char) :
    ∃ x xs, escaped c = x :: xs ∧ x ≠ '"' ∧ x ≠ '\n' ∧ x ≠ '\x0d' := by
  rcases escaped_cases c with ⟨e, heq, -⟩ | ⟨_, _, heq, -⟩ | ⟨heq, hplain⟩
  · exact ⟨_, _, heq, by decide⟩
  · exact ⟨_, _, heq, by decide⟩
  · refine ⟨_, _, heq, hplain.1, ?_, ?_⟩
    · rintro rfl
      exact absurd hplain.2.2.1 (by decide)
    · rintro rfl
      exact absurd hplain.2.2.1 (by decide)

variable {cs r : List Char}

theorem readText?_basic (cs : List Char) (hr : r.head? ≠ some '"') :
    readText? ('"' :: (basicChars cs ++ ['"']) ++ r) = some (String.ofList cs, r) := by
  have hread := readBasic_basicChars cs r
  rw [List.cons_append, List.append_assoc, List.singleton_append]
  rw [readText?]
  · rw [hread]
    rfl
  · intro r' heq
    rcases cs with _ | ⟨c, cs⟩
    · rw [(List.cons.inj heq).2] at hr
      exact hr rfl
    · obtain ⟨x, xs, hxs, hx, -⟩ := escaped_eq_cons c
      rw [basicChars, List.flatMap_cons, hxs] at heq
      exact hx (List.cons.inj heq).1

theorem readText?_literal (h : ∀ c ∈ cs, c ≠ '\x27' ∧ isShown c = true)
    (hr : r.head? ≠ some '\x27') :
    readText? ('\x27' :: (cs ++ ['\x27']) ++ r) = some (String.ofList cs, r) := by
  have hread := readLiteral_plain h r
  rw [List.cons_append, List.append_assoc, List.singleton_append]
  rw [readText?]
  · rw [hread]
    rfl
  · intro r' heq
    rcases cs with _ | ⟨c, cs⟩
    · rw [(List.cons.inj heq).2] at hr
      exact hr rfl
    · exact (h c List.mem_cons_self).1 (List.cons.inj heq).1

/-- A text that starts with no line break is not written with one in front. -/
theorem multiBasicChars_of_ne_break {d : Char} (h : d ≠ '\n') (quotes : Nat) (ds : List Char) :
    ∃ x xs, multiBasicChars quotes (d :: ds) = x :: xs ∧ x ≠ '\n' ∧ x ≠ '\x0d' := by
  rw [multiBasicChars, if_neg h]
  split_ifs
  · exact ⟨_, _, rfl, by decide⟩
  · exact ⟨_, _, rfl, by decide⟩
  · obtain ⟨x, xs, hxs, -, hx⟩ := escaped_eq_cons d
    exact ⟨_, _, by rw [hxs]; rfl, hx⟩

/-- A line break in front of a text in three quotes, which is dropped. -/
def firstBreak (cs : List Char) : List Char := if cs.contains '\n' then ['\n'] else []

/-- No more than that line break is dropped. -/
theorem dropFirstBreak_firstBreak {written : List Char}
    (h : '\n' ∉ cs → ∀ c ∈ written.head?, c ≠ '\n' ∧ c ≠ '\x0d') :
    dropFirstBreak (firstBreak cs ++ written) = written := by
  rw [firstBreak]
  split_ifs with hbreak
  · rfl
  · exact dropFirstBreak_of_head (h (by simpa using hbreak))

theorem readText?_multiBasic (cs : List Char) (hr : r.head? ≠ some '"') :
    readText? (['"', '"', '"'] ++ firstBreak cs ++ multiBasicChars 0 cs ++ ['"', '"', '"'] ++ r) =
      some (String.ofList cs, r) := by
  have hread := readMultiBasic_multiBasicChars cs 0 hr
  have hdrop : dropFirstBreak (firstBreak cs ++ (multiBasicChars 0 cs ++ '"' :: '"' :: '"' :: r)) =
      multiBasicChars 0 cs ++ '"' :: '"' :: '"' :: r := by
    apply dropFirstBreak_firstBreak
    intro hno x hx
    rcases cs with _ | ⟨c, cs⟩
    · cases hx
      decide
    · have hc : c ≠ '\n' := fun hc => hno (hc ▸ List.mem_cons_self)
      obtain ⟨y, ys, hys, hy⟩ := multiBasicChars_of_ne_break hc 0 cs
      rw [hys] at hx
      obtain rfl : y = x := Option.some.inj hx
      exact hy
  have hform : ['"', '"', '"'] ++ firstBreak cs ++ multiBasicChars 0 cs ++ ['"', '"', '"'] ++ r =
      '"' :: '"' :: '"' ::
        (firstBreak cs ++ (multiBasicChars 0 cs ++ '"' :: '"' :: '"' :: r)) := by simp
  rw [hform, readText?, hdrop, hread]
  rfl

theorem readText?_multiLiteral (hrun : longestRun '\x27' cs 0 ≤ 2)
    (h : ∀ c ∈ cs, c ≠ '\x0d' ∧ (c = '\n' ∨ isShown c = true)) (hr : r.head? ≠ some '\x27') :
    readText? (['\x27', '\x27', '\x27'] ++ firstBreak cs ++ cs ++ ['\x27', '\x27', '\x27'] ++ r) =
      some (String.ofList cs, r) := by
  have hread := readMultiLiteral_plain hrun h hr
  have hdrop : dropFirstBreak (firstBreak cs ++ (cs ++ '\x27' :: '\x27' :: '\x27' :: r)) =
      cs ++ '\x27' :: '\x27' :: '\x27' :: r := by
    apply dropFirstBreak_firstBreak
    intro hno x hx
    rcases cs with _ | ⟨c, cs⟩
    · cases hx
      decide
    · obtain rfl : c = x := Option.some.inj hx
      exact ⟨fun hc => hno (hc ▸ List.mem_cons_self), (h c List.mem_cons_self).1⟩
  have hform : ['\x27', '\x27', '\x27'] ++ firstBreak cs ++ cs ++ ['\x27', '\x27', '\x27'] ++ r =
      '\x27' :: '\x27' :: '\x27' ::
        (firstBreak cs ++ (cs ++ '\x27' :: '\x27' :: '\x27' :: r)) := by simp
  rw [hform, readText?, hdrop, hread]
  rfl

theorem not_needsEscape {c : Char} (h : needsEscape c = false) :
    c ≠ '\x0d' ∧ (c = '\n' ∨ isShown c = true) := by
  constructor
  · rintro rfl
    exact absurd h (by decide)
  · by_cases hbreak : c = '\n'
    · exact Or.inl hbreak
    · refine Or.inr ?_
      simp only [needsEscape, Bool.or_eq_false_iff, Bool.and_eq_false_iff, decide_eq_false_iff_not,
        bne_eq_false_iff_eq, hbreak, or_false, beq_eq_false_iff_ne] at h
      obtain ⟨hlow | rfl, hdel⟩ := h
      · simp [isShown, hdel, Nat.not_lt.1 hlow]
      · rfl

/-- A text has none of a character when it has no run of it. -/
theorem ne_of_longestRun {q : Char} {run : Nat} (h : longestRun q cs run = 0) :
    ∀ c ∈ cs, c ≠ q := by
  induction cs generalizing run with
  | nil => exact fun c hc => absurd hc List.not_mem_nil
  | cons d ds ih =>
    rw [longestRun] at h
    split_ifs at h with hd
    · have hle := le_longestRun q ds (run + 1)
      omega
    · intro c hc
      rcases List.mem_cons.1 hc with rfl | hc
      · exact hd
      · exact ih (by omega : longestRun q ds 0 = 0) c hc

/-- Every text is read back from its written form. -/
theorem readText?_textChars (s : String) (hdouble : r.head? ≠ some '"')
    (hsingle : r.head? ≠ some '\x27') : readText? (textChars s ++ r) = some (s, r) := by
  have hs : s = String.ofList s.toList := String.ofList_toList.symm
  rw [textChars]
  generalize s.toList = cs at hs ⊢
  rw [hs]
  have hplain : (cs.any needsEscape) = false →
      ∀ c ∈ cs, c ≠ '\x0d' ∧ (c = '\n' ∨ isShown c = true) := fun h c hc =>
    not_needsEscape (Bool.eq_false_iff.2 (List.any_eq_false.1 h c hc))
  have hfirst : (if cs.contains '\n' then ['\n'] else []) = firstBreak cs := rfl
  -- one case for each spelling that can be chosen, with what makes the text fit it
  dsimp only
  rw [hfirst]
  split_ifs with hbasic hliteral hmultiBasic hmultiLiteral hbreak
  · exact readText?_basic cs hdouble
  · simp only [Bool.and_eq_true, Bool.not_eq_true', beq_iff_eq] at hliteral
    obtain ⟨⟨hescape, hrun⟩, hone⟩ := hliteral
    refine readText?_literal (fun c hc => ⟨ne_of_longestRun hrun c hc, ?_⟩) hsingle
    refine (hplain hescape c hc).2.resolve_left ?_
    rintro rfl
    rw [List.contains_iff_mem.2 hc] at hone
    cases hone
  · exact readText?_multiBasic cs hdouble
  · simp only [Bool.and_eq_true, Bool.not_eq_true', decide_eq_true_eq] at hmultiLiteral
    exact readText?_multiLiteral hmultiLiteral.2 (hplain hmultiLiteral.1) hsingle
  · exact readText?_multiBasic cs hdouble
  · exact readText?_basic cs hdouble

/-! ## Words -/

section Digits

variable {ds : List Char} (hds : ∀ c ∈ ds, Text.isDigit c = true)

theorem isWordChar_of_isDigit {c : Char} (h : Text.isDigit c = true) : isWordChar c = true := by
  have hdigit : c.isDigit = true := by
    simpa [Text.isDigit, Char.isDigit, Char.le_def, and_comm] using h
  simp [isWordChar, Char.isAlphanum, hdigit]

include hds

/-- No word of digits has another character at its front. -/
theorem expect?_of_digits {x : Char} (hx : Text.isDigit x = false) : expect? x ds = none := by
  rcases ds with _ | ⟨d, ds⟩
  · rfl
  · rw [expect?, if_neg (Text.ne_of_class (hds d List.mem_cons_self) hx)]

theorem date?_of_digits : date? ds = none := by
  rw [date?, fixedNumber?]
  dsimp only
  split_ifs
  · have hdash := expect?_of_digits
      (fun c hc => hds c (List.mem_of_mem_drop hc) : ∀ c ∈ ds.drop 4, _) (x := '-') (by decide)
    simp only [Option.bind_eq_bind, Option.bind_some, hdash, Option.bind_none]
  · rfl

theorem time?_of_digits : time? ds = none := by
  rw [time?, fixedNumber?]
  dsimp only
  split_ifs
  · have hcolon := expect?_of_digits
      (fun c hc => hds c (List.mem_of_mem_drop hc) : ∀ c ∈ ds.drop 2, _) (x := ':') (by decide)
    simp only [Option.bind_eq_bind, Option.bind_some, hcolon, Option.bind_none]
  · rfl

theorem digitsOf?_of_digits {afterDigit : Bool} (h : afterDigit = true ∨ ds ≠ []) :
    digitsOf? Text.isDigit afterDigit ds = some ds := by
  induction ds generalizing afterDigit with
  | nil =>
    rw [digitsOf?, if_pos (h.resolve_right fun hne => hne rfl)]
  | cons d ds ih =>
    have hd := hds d List.mem_cons_self
    have hmark : (d == '_') = false := beq_eq_false_iff_ne.2 (Text.ne_of_class hd (by decide))
    rw [digitsOf?, hmark, hd, ih (fun c hc => hds c (List.mem_cons_of_mem d hc)) (Or.inl rfl)]
    rfl

theorem numberOf_of_digits : numberOf 10 ds = Text.natOfDigits ds := by
  have hstep : ∀ n, ds.foldl (fun n c => 10 * n + (Text.hexValue? c).getD 0) n =
      ds.foldl (fun n c => 10 * n + Text.digitValue c) n := by
    induction ds with
    | nil => exact fun _ => rfl
    | cons d ds ih =>
      intro n
      have hd : Text.hexValue? d = some (Text.digitValue d) := by
        rw [Text.hexValue?, if_pos (hds d List.mem_cons_self)]
        rfl
      rw [List.foldl_cons, List.foldl_cons, hd]
      exact ih (fun c hc => hds c (List.mem_cons_of_mem d hc)) _
  exact hstep 0

end Digits

theorem integerOf?_digitChars {n : Nat} (h : (n : Int) ≤ Int64.maxValue.toInt) :
    integerOf? (Decimal.digitChars n) = some (n : Int) := by
  have hds : ∀ c ∈ Decimal.digitChars n, Text.isDigit c = true :=
    fun c hc => Text.isDigit_of_mem_digitChars hc
  have hne := Text.digitChars_ne_nil n
  have hwhole : wholeDigits? (Decimal.digitChars n) = some (Decimal.digitChars n) := by
    rw [wholeDigits?, digitsOf?_of_digits hds (Or.inr hne), Option.bind_eq_bind, Option.bind_some,
      if_neg]
    rintro ⟨hlong, hzero⟩
    rw [Text.head?_digitChars hzero] at hlong
    exact absurd hlong (by decide)
  have hnumber : numberOf 10 (Decimal.digitChars n) = n := by
    rw [numberOf_of_digits hds, Text.natOfDigits_digitChars]
  have hrange : Int64.minValue.toInt ≤ (n : Int) ∧ (n : Int) ≤ Int64.maxValue.toInt :=
    ⟨le_trans (by decide) (Int.natCast_nonneg n), h⟩
  -- a numeral has neither a sign nor the letter of another base
  have hsign : splitSign (Decimal.digitChars n) = (false, false, Decimal.digitChars n) := by
    rw [splitSign]
    · rintro r hr
      exact absurd (hds '+' (by rw [hr]; exact List.mem_cons_self)) (by decide)
    · rintro r hr
      exact absurd (hds '-' (by rw [hr]; exact List.mem_cons_self)) (by decide)
  have hletter : ∀ x, Text.isDigit x = false → ∀ r, Decimal.digitChars n ≠ '0' :: x :: r := by
    intro x hx r hr
    have hdigit := hds x (by rw [hr]; exact List.mem_cons_of_mem _ List.mem_cons_self)
    rw [hx] at hdigit
    cases hdigit
  rw [integerOf?]
  · simp only [hsign, hwhole, Option.bind_eq_bind, Option.bind_some, hnumber, Option.pure_def]
    exact if_pos hrange
  · exact hletter 'x' (by decide)
  · exact hletter 'o' (by decide)
  · exact hletter 'b' (by decide)

/-- An integer is read back from its numeral. -/
theorem readWord_digitChars {n : Nat} (h : (n : Int) ≤ Int64.maxValue.toInt) (r : List Char) :
    readWord (Decimal.digitChars n ++ '\n' :: r) = some (.int n, '\n' :: r) := by
  have hds : ∀ c ∈ Decimal.digitChars n, Text.isDigit c = true :=
    fun c hc => Text.isDigit_of_mem_digitChars hc
  have hword : ∀ c ∈ Decimal.digitChars n, isWordChar c = true :=
    fun c hc => isWordChar_of_isDigit (hds c hc)
  have hnot : ∀ cs : List Char, ∀ c ∈ cs, Text.isDigit c = false →
      (Decimal.digitChars n == cs) = false := by
    intro cs c hc hno
    apply beq_eq_false_iff_ne.2
    intro heq
    exact Text.ne_of_class (hds c (heq ▸ hc)) hno rfl
  have hbreak : ∀ c ∈ ('\n' :: r).head?, isWordChar c = false := by
    rintro _ ⟨⟩
    decide
  have htake := Text.takeWhile_word hword hbreak
  have hdrop := Text.dropWhile_word hword hbreak
  have hvalue : wordValue? (Decimal.digitChars n) = some (.int n) := by
    rw [wordValue?, hnot "true".toList 't' (by decide) (by decide),
      hnot "false".toList 'f' (by decide) (by decide), isDateTime, date?_of_digits hds,
      time?_of_digits hds, integerOf?_digitChars h]
    rfl
  rw [readWord]
  simp only [htake, hdrop, date?_of_digits hds, hvalue]
  rfl

theorem readWord_bool (b : Bool) (r : List Char) :
    readWord ((if b then "true" else "false").toList ++ '\n' :: r) = some (.bool b, '\n' :: r) := by
  cases b <;> rfl

theorem scalarChars_int (n : Nat) : scalarChars (.int n) = Decimal.digitChars n := by
  show (toString (n : Int)).toList = Nat.toDigits 10 n
  exact String.toList_ofList

end ToolRelay.Toml
