import ToolRelay.Proofs.Toml.Scalar
import ToolRelay.Toml.Reader

/-!
# Reading back a written document

A document of sections is read line by line: a header begins the next table of the sequence, and
each line below it puts a scalar into that table.

## Main definitions

* `Scalar`: the scalars that are read back from what is written of them.
* `Reads`: the tables that lines lead to, however much fuel beyond their length there is.

## Main results

* `read?_renderSections`: a document of sections is read back.
-/

namespace ToolRelay.Toml

/-- A name that stands in a key without quotes. -/
def IsBare (k : String) : Prop := k.toList ≠ [] ∧ ∀ c ∈ k.toList, isKeyChar c = true

/-- A scalar that is read back: any text, any truth value, and a number that fits. -/
inductive Scalar : Toml → Prop where
  | str (s : String) : Scalar (.str s)
  | bool (b : Bool) : Scalar (.bool b)
  | int {n : Nat} (h : (n : Int) ≤ Int64.maxValue.toInt) : Scalar (.int n)

/-! ## Parts of a line -/

section Line

variable {k : String} {v : Toml} {r : List Char}

theorem IsBare.eq_cons (hk : IsBare k) : ∃ c cs, k.toList = c :: cs ∧ isKeyChar c = true := by
  obtain ⟨hne, hall⟩ := hk
  obtain ⟨c, cs, hcs⟩ := List.exists_cons_of_ne_nil hne
  exact ⟨c, cs, hcs, hall c (by rw [hcs]; exact List.mem_cons_self)⟩

theorem readName?_bare (hk : IsBare k) (hr : ∀ c ∈ r.head?, isKeyChar c = false) :
    readName? (k.toList ++ r) = some (k, r) := by
  have htake := Text.takeWhile_word hk.2 hr
  have hdrop := Text.dropWhile_word hk.2 hr
  have hname : (k.toList).isEmpty = false := List.isEmpty_eq_false_iff.2 hk.1
  obtain ⟨c, cs, hcs, hc⟩ := hk.eq_cons
  rw [hcs] at htake hdrop hname ⊢
  rw [List.cons_append] at htake hdrop ⊢
  rw [readName?]
  · simp only [htake, hdrop, hname]
    rw [← hcs, String.ofList_toList]
    rfl
  · intro rest h
    exact Text.ne_of_class hc (by decide) (List.cons.inj h).1
  · intro rest h
    exact Text.ne_of_class hc (by decide) (List.cons.inj h).1

theorem skipGaps_of_head {cs : List Char} (h : ∀ c ∈ cs.head?, isGap c = false) :
    skipGaps cs = cs := by
  cases cs with
  | nil => rfl
  | cons c cs => exact List.dropWhile_cons_of_neg (by simp [h c rfl])

theorem isGap_of_isKeyChar {c : Char} (hc : isKeyChar c = true) : isGap c = false := by
  have hspace := Text.ne_of_class (x := ' ') hc (by decide)
  have htab := Text.ne_of_class (x := '\t') hc (by decide)
  simp [isGap, hspace, htab]

/-- A key without quotes and dots is one name. -/
theorem readKey?_bare (hk : IsBare k) (hr : ∀ c ∈ r.head?, isKeyChar c = false)
    (hdot : ∀ rest, skipGaps r ≠ '.' :: rest) :
    readKey? (k.toList ++ r).length (k.toList ++ r) = some ([k], skipGaps r) := by
  obtain ⟨c, cs, hcs, hc⟩ := hk.eq_cons
  have hgap : skipGaps (k.toList ++ r) = k.toList ++ r := by
    rw [hcs]
    apply skipGaps_of_head
    rintro c' ⟨⟩
    exact isGap_of_isKeyChar hc
  have hlen : (k.toList ++ r).length = (cs ++ r).length + 1 := by simp [hcs]
  rw [hlen, readKey?, hgap, readName?_bare hk hr]
  simp only [Option.bind_eq_bind, Option.bind_some]
  rfl

/-- A line that begins with neither a blank nor a comment nor a line break is not skipped. -/
theorem skipLines_of_head {c : Char} {cs : List Char} (hgap : isGap c = false) (hhash : c ≠ '#')
    (hbreak : c ≠ '\n') (hreturn : c ≠ '\x0d') (fuel : Nat) :
    skipLines fuel (c :: cs) = some (c :: cs) := by
  cases fuel with
  | zero => rfl
  | succ fuel =>
    have hskip : skipGaps (c :: cs) = c :: cs := skipGaps_of_head (by rintro _ ⟨⟩; exact hgap)
    have hcomment : skipComment? (c :: cs) = some (c :: cs) := by
      rw [skipComment?]
      intro rest h
      exact hhash (List.cons.inj h).1
    have hend : lineEnd? (c :: cs) = none := lineEnd?_eq_none (by
      rintro _ ⟨⟩
      exact ⟨hbreak, hreturn⟩)
    rw [skipLines, hskip, hcomment]
    simp only [Option.bind_eq_bind, Option.bind_some, hend]

theorem finishLine?_break (r : List Char) : finishLine? ('\n' :: r) = some r := rfl

/-- What is read as a text begins with a quote. -/
theorem head_of_readText? {cs : List Char} (h : (readText? cs).isSome) :
    ∃ rest, cs = '"' :: rest ∨ cs = '\x27' :: rest := by
  rw [readText?.eq_def] at h
  split at h
  · exact ⟨_, Or.inl rfl⟩
  · exact ⟨_, Or.inr rfl⟩
  · exact ⟨_, Or.inl rfl⟩
  · exact ⟨_, Or.inr rfl⟩
  · cases h

/-- What is written of a scalar begins with no blank. -/
theorem Scalar.skipGaps_eq (hv : Scalar v) :
    skipGaps (scalarChars v ++ '\n' :: r) = scalarChars v ++ '\n' :: r := by
  apply skipGaps_of_head
  intro c hc
  cases hv with
  | str s =>
    have hread := readText?_textChars (r := '\n' :: r) s (by simp) (by simp)
    obtain ⟨rest, hrest | hrest⟩ := head_of_readText? (Option.isSome_of_eq_some hread) <;>
    · rw [scalarChars, hrest] at hc
      cases hc
      decide
  | bool b =>
    cases b <;>
    · cases hc
      decide
  | @int n h =>
    obtain ⟨d, ds, hd, hdigit⟩ := Text.digitChars_eq_cons n
    rw [scalarChars_int, hd] at hc
    cases hc
    by_contra hgap
    simp only [isGap, Bool.not_eq_false, Bool.or_eq_true, beq_iff_eq] at hgap
    rcases hgap with rfl | rfl <;> exact absurd hdigit (by decide)

/-- A scalar is read back from what is written of it. -/
theorem Scalar.readValue?_eq (hv : Scalar v) (fuel : Nat) :
    readValue? (fuel + 1) (scalarChars v ++ '\n' :: r) = some (v, '\n' :: r) := by
  cases hv with
  | str s =>
    have hread := readText?_textChars (r := '\n' :: r) s (by simp) (by simp)
    rw [scalarChars]
    obtain ⟨rest, hrest | hrest⟩ := head_of_readText? (Option.isSome_of_eq_some hread) <;>
    · rw [hrest] at hread ⊢
      rw [readValue?, hread]
      rfl
  | bool b =>
    have hword := readWord_bool b r
    cases b <;> exact hword
  | @int n h =>
    have hword := readWord_digitChars h r
    obtain ⟨d, ds, hd, hdigit⟩ := Text.digitChars_eq_cons n
    rw [scalarChars_int]
    rw [hd, List.cons_append] at hword ⊢
    rw [readValue?, hword]
    -- a digit begins neither a text nor a sequence nor a table
    all_goals exact fun rest h => Text.ne_of_class hdigit (by decide) (List.cons.inj h).1

end Line

/-! ## Lines -/

/-- Lines lead from where a reader stands to the tables of the document. -/
def Reads (p : Progress) (cs : List Char) (root : Entries) : Prop :=
  ∀ fuel, cs.length < fuel → readLines? fuel p cs = some root

section Lines

variable {p : Progress} {k : String} {r : List Char} {root last : Entries}

theorem Reads.nil (p : Progress) : Reads p [] p.root := by
  intro fuel hfuel
  obtain ⟨fuel, rfl⟩ := Nat.exists_eq_succ_of_ne_zero hfuel.ne'
  rfl

/-- A line without text is skipped. -/
theorem Reads.blank (h : Reads p r last) : Reads p ('\n' :: r) last := by
  intro fuel hfuel
  have hskip : skipLines ('\n' :: r).length ('\n' :: r) = skipLines r.length r := rfl
  obtain ⟨fuel, rfl⟩ := Nat.exists_eq_succ_of_ne_zero (Nat.zero_lt_of_lt hfuel).ne'
  have hread := h (fuel + 1) (lt_trans (Nat.lt_succ_self _) hfuel)
  rw [readLines?] at hread ⊢
  rw [hskip]
  exact hread

/-- A header in double brackets begins the next table of a sequence. -/
theorem Reads.header (hk : IsBare k) (hopen : openNext [k] p.root = some root)
    (h : Reads ⟨root, [k]⟩ r last) :
    Reads p ('[' :: '[' :: (k.toList ++ ']' :: ']' :: '\n' :: r)) last := by
  intro fuel hfuel
  obtain ⟨fuel, rfl⟩ := Nat.exists_eq_succ_of_ne_zero (Nat.zero_lt_of_lt hfuel).ne'
  have hskip (n : Nat) : skipLines n ('[' :: '[' :: (k.toList ++ ']' :: ']' :: '\n' :: r)) =
      some ('[' :: '[' :: (k.toList ++ ']' :: ']' :: '\n' :: r)) :=
    skipLines_of_head (by decide) (by decide) (by decide) (by decide) n
  have hgap : skipGaps (']' :: ']' :: '\n' :: r) = ']' :: ']' :: '\n' :: r := rfl
  have hkey := readKey?_bare (r := ']' :: ']' :: '\n' :: r) hk (by rintro _ ⟨⟩; decide)
    (by rw [hgap]; simp)
  have hrest := h fuel (by simp at hfuel; omega)
  rw [readLines?, hskip]
  simp only [Option.bind_eq_bind, Option.bind_some, hkey, hgap]
  simp only [expect?, if_true, Option.bind_some, hopen, finishLine?_break]
  exact hrest

/-- A line puts a value under its key, into the table that the last header began. -/
theorem Reads.assignment {v : Toml} {w : List Char} (hk : IsBare k)
    (hgap : skipGaps (w ++ '\n' :: r) = w ++ '\n' :: r)
    (hv : ∀ fuel, readValue? (fuel + 2) (w ++ '\n' :: r) = some (v, '\n' :: r))
    (hassign : assignIn p.header [k] v p.root = some root) (h : Reads ⟨root, p.header⟩ r last) :
    Reads p (k.toList ++ ' ' :: '=' :: ' ' :: (w ++ '\n' :: r)) last := by
  intro fuel hfuel
  obtain ⟨fuel, rfl⟩ := Nat.exists_eq_succ_of_ne_zero (Nat.zero_lt_of_lt hfuel).ne'
  have hkey := readKey?_bare (r := ' ' :: '=' :: ' ' :: (w ++ '\n' :: r)) hk
    (by rintro _ ⟨⟩; decide) (fun rest hrest => absurd (List.cons.inj hrest).1 (by decide))
  have hequals : skipGaps (' ' :: '=' :: ' ' :: (w ++ '\n' :: r)) =
      '=' :: ' ' :: (w ++ '\n' :: r) := rfl
  have hspace : skipGaps (' ' :: (w ++ '\n' :: r)) = w ++ '\n' :: r := hgap
  have hrest := h fuel (by simp at hfuel; omega)
  obtain ⟨c, cs, hcs, hc⟩ := hk.eq_cons
  have hskip (n : Nat) : skipLines n (c :: (cs ++ ' ' :: '=' :: ' ' :: (w ++ '\n' :: r))) =
      some (c :: (cs ++ ' ' :: '=' :: ' ' :: (w ++ '\n' :: r))) :=
    skipLines_of_head (isGap_of_isKeyChar hc) (Text.ne_of_class hc (by decide))
      (Text.ne_of_class hc (by decide)) (Text.ne_of_class hc (by decide)) n
  have hbracket : c ≠ '[' := Text.ne_of_class hc (by decide)
  -- the line begins with a character of the key, so it is neither empty nor a header
  rw [hcs, List.cons_append] at hkey ⊢
  rw [readLines?, hskip]
  simp only [Option.bind_eq_bind, Option.bind_some]
  split
  · next heq => cases heq
  · next heq => exact absurd (List.cons.inj heq).1 hbracket
  · next heq => exact absurd (List.cons.inj heq).1 hbracket
  · simp only [hkey, hequals, expect?, if_true, Option.bind_some, hspace, hv, hassign,
      finishLine?_break]
    exact hrest

/-! ## Sections -/

/-- The entries of a section, while it is read. -/
def entriesOf (fields : List (String × Toml)) : Entries := fields.map fun m => (m.1, .value m.2)

/-- The tables of a document that has had only sections of one key. -/
def tablesOf (key : String) (sections : List Entries) : Entries := [(key, .tables sections)]

theorem openNext_tablesOf (key : String) (sections : List Entries) :
    openNext [key] (tablesOf key sections) = some (tablesOf key (sections ++ [[]])) := by
  simp [openNext, splitPath, modifyAt, tablesOf, setItem]

/-- A value under a new key is put at the end of the last table. -/
theorem assignIn_tablesOf {key k : String} {v : Toml} {entries : Entries} (sections : List Entries)
    (hnew : entries.lookup k = none) :
    assignIn [key] [k] v (tablesOf key (sections ++ [entries])) =
      some (tablesOf key (sections ++ [entries ++ [(k, .value v)]])) := by
  simp [assignIn, assign, splitPath, modifyAt, tablesOf, setItem, hnew]

theorem lookup_entriesOf {fields : List (String × Toml)} (h : k ∉ fields.map (·.1)) :
    (entriesOf fields).lookup k = none := by
  rw [List.lookup_eq_none_iff]
  intro m hm
  obtain ⟨field, hfield, rfl⟩ := List.mem_map.1 hm
  exact bne_iff_ne.2 fun hk => h (List.mem_map.2 ⟨field, hfield, hk.symm⟩)

/-- The fields of a section: bare names, each of its own, with scalars. -/
structure IsSection (fields : List (String × Toml)) : Prop where
  /-- The names need no quotes. -/
  bare : ∀ m ∈ fields, IsBare m.1
  /-- The values are read back. -/
  scalar : ∀ m ∈ fields, Scalar m.2
  /-- No name occurs twice. -/
  nodup : (fields.map (·.1)).Nodup

variable {key : String} {done : List Entries}

/-- The lines of a section are read into the last table, after the fields that it has already. -/
theorem Reads.assignments {had fields : List (String × Toml)} (hs : IsSection (had ++ fields))
    (h : Reads ⟨tablesOf key (done ++ [entriesOf (had ++ fields)]), [key]⟩ r last) :
    Reads ⟨tablesOf key (done ++ [entriesOf had]), [key]⟩ (fields.flatMap assignmentChars ++ r)
      last := by
  -- each line moves the first of the fields still to come behind those that the table has
  induction fields generalizing had with
  | nil =>
    rw [List.append_nil] at h
    exact h
  | cons m fields ih =>
    have hm : m ∈ had ++ m :: fields := List.mem_append_right _ List.mem_cons_self
    have hsplit : had ++ m :: fields = had ++ [m] ++ fields := by simp
    have hnew : m.1 ∉ had.map (·.1) := by
      have hnodup := hs.nodup
      rw [List.map_append, List.map_cons, List.nodup_append] at hnodup
      exact fun hin => hnodup.2.2 _ hin _ List.mem_cons_self rfl
    have hgap := (hs.scalar m hm).skipGaps_eq (r := fields.flatMap assignmentChars ++ r)
    have hline : (m :: fields).flatMap assignmentChars ++ r = m.1.toList ++ ' ' :: '=' :: ' ' ::
        (scalarChars m.2 ++ '\n' :: (fields.flatMap assignmentChars ++ r)) := by
      simp [assignmentChars]
    rw [hline]
    refine Reads.assignment (hs.bare m hm) hgap (fun fuel => (hs.scalar m hm).readValue?_eq _)
      (assignIn_tablesOf done (lookup_entriesOf hnew)) ?_
    rw [hsplit] at hs h
    have hrest := ih hs h
    rwa [entriesOf, List.map_append] at hrest

/-- A section is read into a table of its own, behind those of the sections before it. -/
theorem Reads.table {fields : List (String × Toml)} (hkey : IsBare key) {header : List String}
    {root : Entries} (hopen : openNext [key] root = some (tablesOf key (done ++ [[]])))
    (hs : IsSection fields) (h : Reads ⟨tablesOf key (done ++ [entriesOf fields]), [key]⟩ r last) :
    Reads ⟨root, header⟩ (sectionChars key fields ++ r) last := by
  have hline : sectionChars key fields ++ r = '[' :: '[' ::
      (key.toList ++ ']' :: ']' :: '\n' :: (fields.flatMap assignmentChars ++ r)) := by
    simp [sectionChars]
  rw [hline]
  refine Reads.header hkey hopen ?_
  have hlines : Reads ⟨tablesOf key (done ++ [entriesOf []]), [key]⟩
      (fields.flatMap assignmentChars ++ r) last := Reads.assignments hs h
  exact hlines

/-- Sections with an empty line between them are read into as many tables. -/
theorem Reads.sections (hkey : IsBare key) {sections : List (List (String × Toml))}
    {fields : List (String × Toml)} {header : List String} {root : Entries}
    (hopen : openNext [key] root = some (tablesOf key (done ++ [[]])))
    (hs : ∀ s ∈ fields :: sections, IsSection s) :
    Reads ⟨root, header⟩ (['\n'].intercalate ((fields :: sections).map (sectionChars key)))
      (tablesOf key (done ++ (fields :: sections).map entriesOf)) := by
  have hfirst := hs fields List.mem_cons_self
  induction sections generalizing fields header root done with
  | nil =>
    have htext : ['\n'].intercalate ([fields].map (sectionChars key)) =
        sectionChars key fields ++ [] := by
      simp [List.intercalate]
    rw [htext]
    exact Reads.table hkey hopen hfirst (Reads.nil _)
  | cons next rest ih =>
    have htext : ['\n'].intercalate ((fields :: next :: rest).map (sectionChars key)) =
        sectionChars key fields ++
          '\n' :: ['\n'].intercalate ((next :: rest).map (sectionChars key)) := by
      simp [List.intercalate]
    have hafter : done ++ (fields :: next :: rest).map entriesOf =
        done ++ [entriesOf fields] ++ (next :: rest).map entriesOf := by simp
    rw [htext, hafter]
    refine Reads.table hkey hopen hfirst (Reads.blank ?_)
    exact ih (openNext_tablesOf key _) (fun s hmem => hs s (List.mem_cons_of_mem _ hmem))
      (hs next (List.mem_cons_of_mem _ List.mem_cons_self))

theorem entriesToToml_entriesOf (fields : List (String × Toml)) :
    Item.entriesToToml (entriesOf fields) = fields := by
  induction fields with
  | nil => rfl
  | cons m fields ih =>
    obtain ⟨k, v⟩ := m
    change (k, v) :: Item.entriesToToml (entriesOf fields) = _
    rw [ih]

theorem sectionsToToml_entriesOf (sections : List (List (String × Toml))) :
    Item.sectionsToToml (sections.map entriesOf) = sections.map .table := by
  induction sections with
  | nil => rfl
  | cons fields rest ih =>
    rw [List.map_cons, Item.sectionsToToml, entriesToToml_entriesOf, ih]
    rfl

end Lines

/-- The value of a document is that of the tables which its lines lead to. -/
theorem read?_of_reads {text : String} {root : Entries}
    (hmark : ∀ c ∈ text.toList.head?, c ≠ Text.byteOrderMark)
    (h : Reads ⟨[], []⟩ text.toList root) :
    read? text = some (.table (Item.entriesToToml root)) := by
  have hlines := h (text.toList.length + 1) (Nat.lt_succ_self _)
  rw [read?]
  generalize text.toList = cs at hmark hlines ⊢
  cases cs with
  | nil =>
    dsimp only
    rw [hlines]
    rfl
  | cons c cs =>
    dsimp only
    rw [if_neg (hmark c rfl), hlines]
    rfl

/-- A document of sections is read back: under its key, the tables of the sections in their
order. -/
theorem read?_renderSections {key : String} {sections : List (List (String × Toml))}
    (hkey : IsBare key) (hs : ∀ s ∈ sections, IsSection s) :
    read? (renderSections key sections) = some (.table [(key, .arr (sections.map .table))]) := by
  cases sections with
  | nil =>
    -- without a section the key is written with an empty sequence
    have hassign : assignIn [] [key] (.arr []) [] = some [(key, .value (.arr []))] := by
      simp [assignIn, assign, splitPath, modifyAt]
    have hreads : Reads ⟨[], []⟩ (key.toList ++ [' ', '=', ' ', '[', ']', '\n'])
        [(key, .value (.arr []))] :=
      Reads.assignment (w := ['[', ']']) hkey rfl (fun _ => rfl) hassign (Reads.nil _)
    obtain ⟨c, cs, hcs, hc⟩ := hkey.eq_cons
    rw [renderSections, read?_of_reads _ (by rw [String.toList_append]; exact hreads)]
    · rfl
    · rw [String.toList_append, hcs]
      rintro _ ⟨⟩
      exact Text.ne_of_class hc (by decide)
  | cons fields sections =>
    have hopen : openNext [key] [] = some (tablesOf key ([] ++ [[]])) := by
      simp [openNext, splitPath, modifyAt, tablesOf]
    have hreads : Reads ⟨[], []⟩ _ _ := Reads.sections hkey hopen hs
    rw [List.nil_append] at hreads
    have hhead : (['\n'].intercalate ((fields :: sections).map (sectionChars key))).head? =
        some '[' := by
      cases sections <;> simp [List.intercalate, sectionChars]
    change read? (String.ofList _) = _
    rw [read?_of_reads _ (by rw [String.toList_ofList]; exact hreads)]
    · rw [tablesOf, Item.entriesToToml, Item.toToml, sectionsToToml_entriesOf]
      rfl
    · rw [String.toList_ofList, hhead]
      rintro _ ⟨⟩
      decide

end ToolRelay.Toml
