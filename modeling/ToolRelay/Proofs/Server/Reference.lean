import ToolRelay.Proofs.Text.Numerals
import ToolRelay.Server.Entry

/-!
# Texts with references

Every text is cut at its references in exactly one way: plain text, and then each `$` with the
longest name that follows it and the plain text up to the next `$`. A credential that is nothing but
one reference stands for the value of its variable, and fails when that is not set; this is its only
way to fail. In every other text each reference is replaced on its own and the plain text stays, so
that no value is read for references again. Going from one `$` to the next comes to the end of the
text after as many rounds as there are.

## Main definitions

* `Reference.Cut`: a text cut at its references.
* `Reference.Cut.expanded`: the text with its references replaced.
* `Reference.Sweep`: how far the replacing has come; `Reference.Sweep.round` goes on to the next
  `$`.

## Main results

* `Reference.Cut.eq_of_text_eq`, `Reference.Cut.exists_text_eq`: every text is cut in exactly one
  way.
* `Reference.expandChars_text`, `Reference.Sweep.rounds_text`: what replacing comes to.
* `Reference.expand_spec`: what a credential stands for.
-/

namespace ToolRelay.Reference

/-! ## Cutting a text -/

/-- The characters of names: ASCII letters and digits, and the underscore. -/
def NameChar (c : Char) : Prop :=
  ('A' ≤ c ∧ c ≤ 'Z') ∨ ('a' ≤ c ∧ c ≤ 'z') ∨ ('0' ≤ c ∧ c ≤ '9') ∨ c = '_'

theorem isNameChar_iff {c : Char} : isNameChar c = true ↔ NameChar c := by
  have hupper : c.isUpper = true ↔ 'A' ≤ c ∧ c ≤ 'Z' := decide_eq_true_iff
  have hlower : c.isLower = true ↔ 'a' ≤ c ∧ c ≤ 'z' := by
    change (decide _ && decide _) = true ↔ _
    rw [Bool.and_eq_true, decide_eq_true_iff, decide_eq_true_iff]
    rfl
  have hdigit : c.isDigit = true ↔ '0' ≤ c ∧ c ≤ '9' := by
    change (decide _ && decide _) = true ↔ _
    rw [Bool.and_eq_true, decide_eq_true_iff, decide_eq_true_iff]
    rfl
  change (c.isUpper || c.isLower || c.isDigit || c == '_') = true ↔ _
  simp only [Bool.or_eq_true, hupper, hlower, hdigit, beq_iff_eq, or_assoc, NameChar]

theorem isNameChar_eq_false_iff {c : Char} : isNameChar c = false ↔ ¬NameChar c := by
  rw [← isNameChar_iff, Bool.not_eq_true]

/-- A reference, and the text behind it up to the next one. -/
@[ext]
structure Mention where
  /-- The name that is referred to; it may be empty. -/
  name : List Char
  /-- The text up to the next reference. -/
  after : List Char
  /-- The name has characters of names only. -/
  name_chars : ∀ c ∈ name, NameChar c
  /-- No character of a name follows. -/
  maximal : ∀ c ∈ after.head?, ¬NameChar c
  /-- No reference begins in the text behind. -/
  plain : '$' ∉ after

/-- The text of a reference and of what is behind it. -/
def Mention.text (m : Mention) : List Char := '$' :: (m.name ++ m.after)

/-- What a reference stands for: the value of its variable if it has a name that is set, and
otherwise itself. -/
def Mention.value (env : Environment) (m : Mention) : List Char :=
  if m.name = [] then ['$']
  else (env (String.ofList m.name)).elim ('$' :: m.name) String.toList

/-- A text cut at its references. -/
@[ext]
structure Cut where
  /-- The text before the first reference. -/
  front : List Char
  /-- The references in order. -/
  mentions : List Mention
  /-- No reference begins in the text before the first one. -/
  plain : '$' ∉ front

namespace Cut

/-- The text that was cut. -/
def text (k : Cut) : List Char := k.front ++ k.mentions.flatMap Mention.text

/-- The text with its references replaced. -/
def expanded (env : Environment) (k : Cut) : List Char :=
  k.front ++ k.mentions.flatMap fun m => m.value env ++ m.after

/-- What is cut behind the name of a first reference. -/
def behind (m : Mention) (ms : List Mention) : Cut := ⟨m.after, ms, m.plain⟩

variable {front : List Char} {plain : '$' ∉ front} {m : Mention} {ms : List Mention}

theorem text_cons :
    (Cut.mk front (m :: ms) plain).text = front ++ '$' :: (m.name ++ (behind m ms).text) := by
  simp [text, behind, Mention.text]

theorem expanded_cons (env : Environment) :
    (Cut.mk front (m :: ms) plain).expanded env =
      front ++ (m.value env ++ (behind m ms).expanded env) := by
  simp [expanded, behind]

/-- No character of a name follows the name of a reference. -/
theorem head?_text_behind (m : Mention) (ms : List Mention) :
    ∀ c ∈ (behind m ms).text.head?, isNameChar c = false := by
  intro c hc
  rw [text, behind, List.head?_append] at hc
  rcases hafter : m.after.head? with _ | d
  · -- nothing stands between this reference and the next one
    rw [hafter, Option.none_or] at hc
    cases ms with
    | nil => cases hc
    | cons m' ms =>
      obtain rfl : '$' = c := Option.some.inj hc
      decide
  · rw [hafter] at hc
    obtain rfl : d = c := Option.some.inj hc
    exact isNameChar_eq_false_iff.2 (m.maximal d hafter)

theorem takeWhile_name (m : Mention) (ms : List Mention) :
    (m.name ++ (behind m ms).text).takeWhile isNameChar = m.name :=
  Text.takeWhile_word (fun c hc => isNameChar_iff.2 (m.name_chars c hc)) (head?_text_behind m ms)

theorem dropWhile_name (m : Mention) (ms : List Mention) :
    (m.name ++ (behind m ms).text).dropWhile isNameChar = (behind m ms).text :=
  Text.dropWhile_word (fun c hc => isNameChar_iff.2 (m.name_chars c hc)) (head?_text_behind m ms)

/-- The text before the first reference goes up to the first `$`. -/
theorem ne_dollar_of_plain (plain : '$' ∉ front) : ∀ c ∈ front, (c != '$') = true := by
  intro c hc
  rw [bne_iff_ne]
  rintro rfl
  exact plain hc

/-- Every reference begins with a `$`. -/
theorem head?_mentions (ms : List Mention) :
    ∀ c ∈ (ms.flatMap Mention.text).head?, (c != '$') = false := by
  intro c hc
  cases ms with
  | nil => simp at hc
  | cons m ms =>
    obtain rfl : '$' = c := Option.some.inj hc
    rfl

theorem takeWhile_front (k : Cut) : k.text.takeWhile (· != '$') = k.front :=
  Text.takeWhile_word (ne_dollar_of_plain k.plain) (head?_mentions k.mentions)

theorem dropWhile_front (k : Cut) :
    k.text.dropWhile (· != '$') = k.mentions.flatMap Mention.text :=
  Text.dropWhile_word (ne_dollar_of_plain k.plain) (head?_mentions k.mentions)

theorem front_eq_of_text_eq {k k' : Cut} (h : k.text = k'.text) : k.front = k'.front := by
  rw [← takeWhile_front, h, takeWhile_front]

theorem mentions_of_text_eq {k k' : Cut} (h : k.text = k'.text) :
    k.mentions.flatMap Mention.text = k'.mentions.flatMap Mention.text := by
  rw [← dropWhile_front, h, dropWhile_front]

/-- A text is cut in at most one way. -/
theorem eq_of_text_eq {k k' : Cut} (h : k.text = k'.text) : k = k' := by
  obtain ⟨front, ms, plain⟩ := k
  obtain ⟨front', ms', plain'⟩ := k'
  -- what is behind the first reference is a cut again, with one reference less
  induction ms generalizing front front' ms' with
  | nil =>
    cases ms' with
    | nil => exact Cut.ext (front_eq_of_text_eq h) rfl
    | cons m' ms' => cases mentions_of_text_eq h
  | cons m ms ih =>
    cases ms' with
    | nil => cases mentions_of_text_eq h
    | cons m' ms' =>
      -- the name is cut off from both texts, and what is behind it is cut in the same way
      have hrest : m.name ++ (behind m ms).text = m'.name ++ (behind m' ms').text := by
        simpa [Mention.text, text, behind] using mentions_of_text_eq h
      have hname : m.name = m'.name := by rw [← takeWhile_name m ms, hrest, takeWhile_name]
      have htext : (behind m ms).text = (behind m' ms').text := by
        rw [← dropWhile_name m ms, hrest, dropWhile_name]
      have hbehind : behind m ms = behind m' ms' := ih m.after m.plain m'.after ms' m'.plain htext
      obtain ⟨hafter, hms⟩ := Cut.mk.inj hbehind
      refine Cut.ext (front_eq_of_text_eq h) ?_
      rw [Mention.ext hname hafter, hms]

/-- Every text is cut in some way. -/
theorem exists_text_eq (cs : List Char) : ∃ k : Cut, k.text = cs := by
  induction cs using expandChars.induct with
  | case1 => exact ⟨⟨[], [], List.not_mem_nil⟩, rfl⟩
  | case2 rest ih =>
    -- the cut of what is behind the name goes on from here, with its front as the text behind
    obtain ⟨k, hk⟩ := ih
    have hname : ∀ d ∈ rest.takeWhile isNameChar, NameChar d := fun d hd =>
      isNameChar_iff.1 (List.all_eq_true.1 List.all_takeWhile d hd)
    have hmaximal : ∀ d ∈ k.front.head?, ¬NameChar d := by
      intro d hd
      -- the name was cut off where its class ends
      have hhead := List.head?_dropWhile_not isNameChar rest
      rw [← hk, text, List.head?_append, Option.mem_def.1 hd] at hhead
      exact isNameChar_eq_false_iff.1 (by simpa using hhead)
    refine ⟨⟨[], ⟨_, k.front, hname, hmaximal, k.plain⟩ :: k.mentions, List.not_mem_nil⟩, ?_⟩
    rw [text_cons]
    exact congrArg ('$' :: ·) ((congrArg _ hk).trans List.takeWhile_append_dropWhile)
  | case3 c rest hc ih =>
    obtain ⟨k, hk⟩ := ih
    refine ⟨⟨c :: k.front, k.mentions, ?_⟩, congrArg (c :: ·) hk⟩
    exact List.not_mem_cons_of_ne_of_not_mem (Ne.symm hc) k.plain

/-- There are as many references as `$`. -/
theorem count_text (k : Cut) : k.text.count '$' = k.mentions.length := by
  obtain ⟨front, ms, plain⟩ := k
  induction ms generalizing front with
  | nil => simpa [text] using List.count_eq_zero.2 plain
  | cons m ms ih =>
    have hname : '$' ∉ m.name := fun h => absurd (isNameChar_iff.2 (m.name_chars _ h)) (by decide)
    rw [text_cons, List.count_append, List.count_eq_zero.2 plain, List.count_cons_self,
      List.count_append, List.count_eq_zero.2 hname, behind, ih]
    simp

end Cut

/-! ## Replacing -/

theorem replace_name (env : Environment) (m : Mention) : replace env m.name = m.value env := by
  rw [replace, Mention.value]
  by_cases hname : m.name = []
  · simp [hname]
  · rw [if_neg (by simpa using hname), if_neg hname]
    cases env (String.ofList m.name) <;> rfl

theorem expandChars_dollar (env : Environment) (rest : List Char) :
    expandChars env ('$' :: rest) =
      replace env (rest.takeWhile isNameChar) ++ expandChars env (rest.dropWhile isNameChar) := by
  rw [expandChars, if_pos rfl]

theorem expandChars_append_of_plain (env : Environment) {front : List Char} (plain : '$' ∉ front)
    (rest : List Char) : expandChars env (front ++ rest) = front ++ expandChars env rest := by
  induction front with
  | nil => rfl
  | cons c front ih =>
    have hc : c ≠ '$' := (List.ne_of_not_mem_cons plain).symm
    rw [List.cons_append, expandChars, if_neg hc, ih (List.not_mem_of_not_mem_cons plain),
      List.cons_append]

/-- Each reference of a text is replaced on its own, and all else stays. -/
theorem expandChars_text (env : Environment) (k : Cut) :
    expandChars env k.text = k.expanded env := by
  obtain ⟨front, ms, plain⟩ := k
  induction ms generalizing front with
  | nil =>
    rw [Cut.text, Cut.expanded, expandChars_append_of_plain env plain]
    simp [expandChars]
  | cons m ms ih =>
    rw [Cut.text_cons, Cut.expanded_cons, expandChars_append_of_plain env plain,
      expandChars_dollar, Cut.takeWhile_name, Cut.dropWhile_name, replace_name, Cut.behind, ih]

/-- How far the replacing has come. -/
structure Sweep where
  /-- What was put out. -/
  out : List Char
  /-- What is left of the text. -/
  rest : List Char

namespace Sweep

/-- Go on behind the next reference, if there is one. -/
def round (env : Environment) (s : Sweep) : Option Sweep :=
  match s.rest.dropWhile (· != '$') with
  | [] => none
  | _ :: r =>
    some ⟨s.out ++ (s.rest.takeWhile (· != '$') ++ replace env (r.takeWhile isNameChar)),
      r.dropWhile isNameChar⟩

/-- Go on for a number of rounds. -/
def rounds (env : Environment) : Nat → Sweep → Option Sweep
  | 0, s => some s
  | n + 1, s => (s.round env).bind (rounds env n)

variable {front : List Char} {plain : '$' ∉ front}

/-- A round takes away one reference, with the text before it. -/
theorem round_cons (env : Environment) (out : List Char) (m : Mention) (ms : List Mention) :
    (Sweep.mk out (Cut.mk front (m :: ms) plain).text).round env =
      some ⟨out ++ (front ++ m.value env), (Cut.behind m ms).text⟩ := by
  have hrest : (m :: ms).flatMap Mention.text = '$' :: (m.name ++ (Cut.behind m ms).text) := by
    simp [Mention.text, Cut.text, Cut.behind]
  rw [round, Cut.dropWhile_front, Cut.takeWhile_front, hrest]
  simp only [Cut.takeWhile_name, Cut.dropWhile_name, replace_name]

theorem round_nil (env : Environment) (out : List Char) :
    (Sweep.mk out (Cut.mk front [] plain).text).round env = none := by
  rw [round, Cut.dropWhile_front]
  rfl

/-- Replacing comes to its end in as many rounds as there are references. -/
theorem rounds_text (env : Environment) (out : List Char) (k : Cut) :
    ∃ s, rounds env k.mentions.length ⟨out, k.text⟩ = some s ∧ s.round env = none ∧
      s.out ++ s.rest = out ++ k.expanded env := by
  obtain ⟨front, ms, plain⟩ := k
  induction ms generalizing out front with
  | nil => exact ⟨_, rfl, round_nil env out, rfl⟩
  | cons m ms ih =>
    obtain ⟨s, hrounds, hend, hout⟩ := ih (out ++ (front ++ m.value env)) m.after m.plain
    refine ⟨s, ?_, hend, ?_⟩
    · rw [List.length_cons, rounds, round_cons, Option.bind_some]
      exact hrounds
    · rw [hout, Cut.expanded_cons, List.append_assoc, List.append_assoc]
      rfl

end Sweep

/-! ## Credentials -/

/-- A text is nothing but a reference to a name. -/
structure Refers (text name : String) : Prop where
  /-- The text is the name behind a `$`. -/
  text_eq : text.toList = '$' :: name.toList
  /-- The name is not empty. -/
  name_ne : name.toList ≠ []
  /-- The name has characters of names only. -/
  name_chars : ∀ c ∈ name.toList, NameChar c

variable {env : Environment} {text : String}

theorem whole?_eq_some_iff {name : String} :
    whole? text.toList = some name ↔ Refers text name := by
  constructor
  · intro h
    rw [whole?.eq_def] at h
    split at h
    · next cs hcs =>
      rw [Option.ite_none_right_eq_some, Bool.and_eq_true, Bool.not_eq_true',
        List.isEmpty_eq_false_iff, List.all_eq_true] at h
      obtain ⟨⟨hne, hchars⟩, hname⟩ := h
      obtain rfl := Option.some.inj hname
      rw [← String.toList_ofList (l := cs)] at hcs hne hchars
      exact ⟨hcs, hne, fun c hc => isNameChar_iff.1 (hchars c hc)⟩
    · cases h
  · rintro ⟨htext, hne, hchars⟩
    have hall : name.toList.all isNameChar = true :=
      List.all_eq_true.2 fun c hc => isNameChar_iff.2 (hchars c hc)
    rw [htext, whole?, List.isEmpty_eq_false_iff.2 hne, hall, String.ofList_toList]
    rfl

theorem expand_of_refers {name : String} (h : Refers text name) :
    expand env text = (env name).elim (.error name) .ok := by
  rw [expand, whole?_eq_some_iff.2 h]
  dsimp only
  cases env name <;> rfl

/-- A text that is more than one reference has its references replaced. -/
theorem expand_of_not_refers (h : ¬∃ name, Refers text name) {k : Cut} (hk : k.text = text.toList) :
    expand env text = .ok (String.ofList (k.expanded env)) := by
  have hwhole : whole? text.toList = none :=
    Option.eq_none_iff_forall_ne_some.2 fun name hname => h ⟨name, whole?_eq_some_iff.1 hname⟩
  rw [expand, hwhole, ← hk, expandChars_text]

/-- A credential fails only as a reference to a variable that is not set. -/
theorem expand_eq_error_iff {name : String} :
    expand env text = .error name ↔ Refers text name ∧ env name = none := by
  constructor
  · intro h
    by_cases hrefers : ∃ name, Refers text name
    · obtain ⟨name', hname⟩ := hrefers
      rw [expand_of_refers hname] at h
      cases henv : env name' with
      | none =>
        rw [henv] at h
        obtain rfl : name' = name := Except.error.inj h
        exact ⟨hname, henv⟩
      | some value =>
        rw [henv] at h
        cases h
    · obtain ⟨k, hk⟩ := Cut.exists_text_eq text.toList
      rw [expand_of_not_refers hrefers hk] at h
      cases h
  · rintro ⟨hname, henv⟩
    rw [expand_of_refers hname, henv]
    rfl

theorem resolveKey_eq_error_iff {e : Entry} (hkey : e.apiKey = some text) {why : ConfigFault} :
    e.resolveKey env = .error why ↔
      ∃ name, why = .unsetVariable name ∧ Refers text name ∧ env name = none := by
  simp only [← expand_eq_error_iff, Entry.resolveKey, hkey]
  cases expand env text with
  | ok value => simp
  | error name => simp [eq_comm]

/-- What a credential stands for. Its text is cut at its references in exactly one way. A credential
that is nothing but one reference stands for the value of its variable, and without one it is the
only kind that fails. Any other stands for its text with the references replaced, and replacing them
comes to its end after as many rounds as there are `$`. -/
theorem expand_spec (env : Environment) (text : String) :
    ∃ k : Cut, k.text = text.toList ∧ (∀ k' : Cut, k'.text = text.toList → k' = k) ∧
      (∀ name, Refers text name → expand env text = (env name).elim (.error name) .ok) ∧
      ((¬∃ name, Refers text name) → expand env text = .ok (String.ofList (k.expanded env))) ∧
      (∀ e : Entry, e.apiKey = some text → ∀ why, e.resolveKey env = .error why ↔
        ∃ name, why = .unsetVariable name ∧ Refers text name ∧ env name = none) ∧
      ∃ s, Sweep.rounds env (text.toList.count '$') ⟨[], text.toList⟩ = some s ∧
        s.round env = none ∧ s.out ++ s.rest = k.expanded env := by
  obtain ⟨k, hk⟩ := Cut.exists_text_eq text.toList
  obtain ⟨s, hrounds, hend, hout⟩ := Sweep.rounds_text env [] k
  rw [← Cut.count_text, hk] at hrounds
  exact ⟨k, hk, fun k' hk' => Cut.eq_of_text_eq (hk'.trans hk.symm), fun name => expand_of_refers,
    fun hno => expand_of_not_refers hno hk, fun e hkey why => resolveKey_eq_error_iff hkey,
    s, hrounds, hend, hout⟩

/-- A value is put in as it is, and a `$` without a name stays. -/
example :
    expand (fun name => if name = "A" then some "$B" else some "no") "é$A$A-$" = .ok "é$B$B-$" := by
  cbv

end ToolRelay.Reference
