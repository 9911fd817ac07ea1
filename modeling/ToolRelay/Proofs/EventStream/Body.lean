import ToolRelay.EventStream
import ToolRelay.Proofs.Text.Trimmed

/-!
# Bodies of events

A body of events is a sequence of lines: comments, the fields `event`, `id` and `data`, and blank
lines, which set the events apart. The data of the events is told from the lines alone, without the
reader: the data fields between two blank lines, with line feeds between them. Reading the text of
the lines gives the same.

## Main definitions

* `EventStream.BodyLine`: a line, and the text of it.
* `EventStream.eventsOf`: the data of the events that some lines make up.
* `EventStream.Body`: a body, which ends with or without line ends.
* `EventStream.Body.events`, `EventStream.Body.heard`: the data of its events, and what is left of
  it when the text is trimmed.

## Main results

* `EventStream.data_events_textOf`: the reader finds the events that the lines make up.
* `EventStream.Body.heard_of_events`: trimming takes white space from the last event at most.
* `EventStream.Body.data_events_trimChars`: the reader finds the events in the trimmed text.
-/

namespace ToolRelay.EventStream

/-! ## Lines -/

/-- How a line ends. -/
inductive LineEnd where
  /-- With a line feed. -/
  | feed
  /-- With a carriage return and a line feed. -/
  | returnFeed
  deriving DecidableEq, Repr

/-- The characters that end a line. -/
def LineEnd.chars : LineEnd → List Char
  | .feed => ['\n']
  | .returnFeed => ['\r', '\n']

theorem LineEnd.isBlank_of_mem {e : LineEnd} : ∀ c ∈ e.chars, Text.isBlank c = true := by
  apply List.all_eq_true.1
  cases e <;> decide

/-- The fields of an event. -/
inductive Field where
  /-- The name. -/
  | event
  /-- The identifier. -/
  | id
  /-- A line of the data. -/
  | data
  deriving DecidableEq, Repr

/-- The name of a field. -/
def Field.chars : Field → List Char
  | .event => "event".toList
  | .id => "id".toList
  | .data => "data".toList

/-- A line of a body, without its end. -/
inductive BodyLine where
  /-- Nothing. -/
  | blank
  /-- A colon and a text that counts for nothing. -/
  | comment (text : List Char)
  /-- A field's name, a colon, a space or none, and the value. -/
  | field (name : Field) (spaced : Bool) (value : List Char)
  deriving DecidableEq, Repr

/-- A text without line ends. -/
def Unbroken (cs : List Char) : Prop := '\n' ∉ cs ∧ '\r' ∉ cs

instance (cs : List Char) : Decidable (Unbroken cs) := inferInstanceAs (Decidable (_ ∧ _))

theorem Unbroken.append {cs cs' : List Char} (h : Unbroken cs) (h' : Unbroken cs') :
    Unbroken (cs ++ cs') := by
  simp only [Unbroken, List.mem_append, not_or]
  exact ⟨⟨h.1, h'.1⟩, h.2, h'.2⟩

theorem Unbroken.mono {cs cs' : List Char} (h : Unbroken cs) (hsub : cs' ⊆ cs) : Unbroken cs' :=
  ⟨fun hc => h.1 (hsub hc), fun hc => h.2 (hsub hc)⟩

namespace BodyLine

/-- The text of a line. -/
def chars : BodyLine → List Char
  | .blank => []
  | .comment text => ':' :: text
  | .field name spaced value => name.chars ++ ':' :: ((if spaced then [' '] else []) ++ value)

/-- A line without text. -/
def isBlank : BodyLine → Bool
  | .blank => true
  | _ => false

/-- The value of a data field. -/
def data? : BodyLine → Option (List Char)
  | .field .data _ value => some value
  | _ => none

/-- A line is one line, and its value begins behind the space if there is one. -/
def Plain : BodyLine → Prop
  | .blank => True
  | .comment text => Unbroken text
  | .field _ spaced value => Unbroken value ∧ (spaced = false → value.head? ≠ some ' ')

instance : DecidablePred Plain
  | .blank => inferInstanceAs (Decidable True)
  | .comment text => inferInstanceAs (Decidable (Unbroken text))
  | .field _ spaced value =>
    inferInstanceAs (Decidable (Unbroken value ∧ (spaced = false → value.head? ≠ some ' ')))

/-- What is left of a line when the white space at its end is taken away. -/
def trimmed : BodyLine → BodyLine
  | .blank => .blank
  | .comment text => .comment (Text.trimEnd text)
  | .field name spaced value =>
    .field name (spaced && !(Text.trimEnd value).isEmpty) (Text.trimEnd value)

variable {line : BodyLine}

theorem Plain.unbroken (h : line.Plain) : Unbroken line.chars := by
  cases line with
  | blank => exact ⟨List.not_mem_nil, List.not_mem_nil⟩
  | comment text =>
    have hcolon : Unbroken [':'] := by decide
    exact hcolon.append h
  | field name spaced value =>
    have hname : Unbroken (name.chars ++ [':']) := by cases name <;> decide
    have hspace : Unbroken (if spaced then [' '] else []) := by cases spaced <;> decide
    rw [chars, List.append_cons]
    exact hname.append (hspace.append h.1)

theorem Plain.trimmed (h : line.Plain) : line.trimmed.Plain := by
  have hpart : ∀ cs, Unbroken cs → Unbroken (Text.trimEnd cs) := fun cs hcs =>
    hcs.mono (List.rdropWhile_prefix Text.isBlank cs).subset
  cases line with
  | blank => trivial
  | comment text => exact hpart text h
  | field name spaced value =>
    refine ⟨hpart value h.1, fun hspaced => ?_⟩
    -- a value that is left begins as it did
    obtain ⟨blanks, hvalue, -⟩ := Text.exists_trimEnd_append value
    rcases hleft : Text.trimEnd value with _ | ⟨c, rest⟩
    · simp
    · rw [hleft] at hvalue hspaced
      have hhead := h.2 (by simpa using hspaced)
      rw [hvalue] at hhead
      exact hhead

theorem eq_blank (h : line.isBlank = true) : line = .blank := by
  cases line with
  | blank => rfl
  | _ => cases h

/-- A line that is not blank begins with a colon or a field's name, and so with none of the
characters that would be taken for something else. -/
theorem exists_chars_eq_cons (h : line.isBlank = false) :
    ∃ c rest, line.chars = c :: rest ∧ Text.isBlank c = false ∧ c ≠ Text.byteOrderMark ∧
      c ≠ '\x7b' ∧ c ≠ '[' := by
  cases line with
  | blank => cases h
  | comment text => exact ⟨':', text, rfl, by decide⟩
  | field name spaced value =>
    cases name with
    | event => exact ⟨'e', _, rfl, by decide⟩
    | id => exact ⟨'i', _, rfl, by decide⟩
    | data => exact ⟨'d', _, rfl, by decide⟩

theorem isBlank_trimmed (line : BodyLine) : line.trimmed.isBlank = line.isBlank := by
  cases line <;> rfl

theorem data?_trimmed (line : BodyLine) : line.trimmed.data? = line.data?.map Text.trimEnd := by
  cases line with
  | field name spaced value => cases name <;> rfl
  | _ => rfl

/-- Trimming the text of a line trims the line. -/
theorem trimEnd_chars (line : BodyLine) : Text.trimEnd line.chars = line.trimmed.chars := by
  -- the colon stays, and with it everything before it
  have hcolon : Text.isBlank ':' = false := by decide
  cases line with
  | blank => rfl
  | comment text => exact Text.trimEnd_append_cons hcolon [] text
  | field name spaced value =>
    rw [chars, Text.trimEnd_append_cons hcolon, trimmed, chars]
    by_cases hleft : Text.trimEnd value = []
    · -- where nothing is left of the value, the space before it goes as well
      have hspace : ∀ c ∈ if spaced then [' '] else [], Text.isBlank c = true := by
        apply List.all_eq_true.1
        cases spaced <;> decide
      have hblank := List.forall_mem_append.2 ⟨hspace, Text.trimEnd_eq_nil_iff.1 hleft⟩
      rw [Text.trimEnd_eq_nil_iff.2 hblank]
      simp [hleft]
    · rw [Text.trimEnd_append hleft]
      simp [hleft]

end BodyLine

/-- The text of lines with their ends. -/
def textOf (lines : List (BodyLine × LineEnd)) : List Char :=
  lines.flatMap fun l => l.1.chars ++ l.2.chars

theorem textOf_cons (l : BodyLine × LineEnd) (lines : List (BodyLine × LineEnd)) :
    textOf (l :: lines) = l.1.chars ++ (l.2.chars ++ textOf lines) := by
  rw [textOf, List.flatMap_cons, List.append_assoc]
  rfl

/-- A line is read up to its end. -/
theorem splitLine?_line {cs : List Char} (h : Unbroken cs) (e : LineEnd) (rest : List Char) :
    splitLine? (cs ++ (e.chars ++ rest)) = some (cs, rest) := by
  induction cs with
  | nil => cases e <;> rfl
  | cons c cs ih =>
    have hc : c ≠ '\n' ∧ c ≠ '\r' :=
      ⟨fun hc => h.1 (by simp [hc]), fun hc => h.2 (by simp [hc])⟩
    -- the character ends no line, so none of the rules before the last one applies
    rw [List.cons_append, splitLine?, ih (h.mono (List.subset_cons_self c cs))]
    · rfl
    all_goals intros; simp_all

/-! ## Events -/

/-- The data of the event that lines without a blank one make up: none without a data field. -/
def dataOf? (block : List BodyLine) : Option (List Char) :=
  let values := block.filterMap BodyLine.data?
  if values.isEmpty then none else some (['\n'].intercalate values)

/-- The data of the events that some lines make up: blank lines set them apart. -/
def eventsOf (lines : List BodyLine) : List (List Char) :=
  (lines.splitOnP BodyLine.isBlank).filterMap dataOf?

theorem eventsOf_append_blank (before after : List BodyLine) :
    eventsOf (before ++ .blank :: after) = eventsOf before ++ eventsOf after := by
  have hblank : BodyLine.isBlank .blank = true := rfl
  rw [eventsOf, List.splitOnP_append_cons before after hblank, List.filterMap_append]
  rfl

theorem eventsOf_block {block : List BodyLine} (h : ∀ l ∈ block, l.isBlank = false) :
    eventsOf block = (dataOf? block).toList := by
  rw [eventsOf, List.splitOnP_eq_singleton h]
  cases hd : dataOf? block <;> simp [hd]

/-- Data lines followed by line feeds, without the last of these. -/
theorem dropLast_flatMap {values : List (List Char)} (h : values ≠ []) :
    (values.flatMap (· ++ ['\n'])).dropLast = ['\n'].intercalate values := by
  induction values with
  | nil => exact absurd rfl h
  | cons v values ih =>
    cases values with
    | nil => simp
    | cons w values =>
      have hne : (w :: values).flatMap (· ++ ['\n']) ≠ [] := by simp
      rw [List.flatMap_cons, List.dropLast_append_of_ne_nil hne, ih (List.cons_ne_nil _ _),
        List.intercalate_cons_cons]

/-! ## Reading -/

section Gathered

variable {g : Gathering} {line : BodyLine} {block : List BodyLine}

/-- A field is split at its colon. -/
theorem splitField_field {name : Field} {spaced : Bool} {value : List Char}
    (h : spaced = false → value.head? ≠ some ' ') :
    splitField (BodyLine.field name spaced value).chars = (name.chars, value) := by
  have hname : ∀ c ∈ name.chars, decide (c ≠ ':') = true := by
    apply List.all_eq_true.1
    cases name <;> decide
  simp only [splitField, BodyLine.chars, List.takeWhile_append_of_pos hname,
    List.dropWhile_append_of_pos hname, List.takeWhile_cons, List.dropWhile_cons, ne_eq,
    not_true_eq_false, decide_false, Bool.false_eq_true, if_false, List.append_nil]
  cases spaced with
  | true => rfl
  | false =>
    rcases value with _ | ⟨c, rest⟩
    · rfl
    · have hc : c ≠ ' ' := fun hc => h rfl (by rw [hc]; rfl)
      simp [hc]

/-- A comment is a field without a name. -/
theorem splitField_comment (text : List Char) :
    splitField (':' :: text) = ([], (splitField (':' :: text)).2) := by
  have hname : (splitField (':' :: text)).1 = [] := by
    simp only [splitField]
    split <;> rfl
  rw [← hname]

/-- A line adds its data and a line feed to what is gathered. -/
theorem data_add (h : line.Plain) :
    (g.add line.chars).data = g.data ++ line.data?.toList.flatMap (· ++ ['\n']) := by
  cases line with
  | blank => simp [BodyLine.chars, Gathering.add, splitField, BodyLine.data?]
  | comment text =>
    rw [BodyLine.chars, Gathering.add, splitField_comment]
    simp [BodyLine.data?]
  | field name spaced value =>
    rw [Gathering.add, splitField_field h.2]
    cases name <;> simp [Field.chars, BodyLine.data?]

/-- What some lines gather. -/
def gathered (block : List BodyLine) : Gathering :=
  block.foldl (fun g l => g.add l.chars) {}

theorem gathered_append_singleton (block : List BodyLine) (line : BodyLine) :
    gathered (block ++ [line]) = (gathered block).add line.chars := by
  rw [gathered, List.foldl_append]
  rfl

theorem data_gathered (h : ∀ l ∈ block, l.Plain) :
    (gathered block).data = (block.filterMap BodyLine.data?).flatMap (· ++ ['\n']) := by
  -- the last line is added to what the others have gathered
  induction block using List.reverseRecOn with
  | nil => rfl
  | append_singleton block line ih =>
    rw [gathered_append_singleton, data_add (h line (by simp)),
      ih fun l hl => h l (List.mem_append_left _ hl), List.filterMap_append, List.flatMap_append]
    cases hd : line.data? <;> simp [hd]

/-- The event that lines make up is dispatched with their data. -/
theorem event?_gathered (h : ∀ l ∈ block, l.Plain) :
    (gathered block).event?.toList.map (·.data) = (dataOf? block).toList.map String.ofList := by
  have hdata := data_gathered h
  rw [Gathering.event?, dataOf?]
  rcases hvalues : block.filterMap BodyLine.data? with _ | ⟨v, values⟩
  · -- without a data field nothing is gathered, and no event comes of it
    rw [hvalues] at hdata
    rw [hdata]
    rfl
  · rw [hvalues] at hdata
    have hne : (gathered block).data.isEmpty = false := by simp [hdata]
    rw [hne, hdata, if_neg Bool.false_ne_true, dropLast_flatMap (List.cons_ne_nil v values)]
    rfl

end Gathered

section Reading

variable {g : Gathering} {cs rest : List Char}

theorem read_blank (h : splitLine? cs = some ([], rest)) :
    (read g cs).1 = g.event?.toList ++ (read {} rest).1 := by
  rw [read]
  split
  · next hs => rw [h] at hs; cases hs
  · next hs =>
    rw [h] at hs
    cases hs
    rfl
  · next hne hs =>
    rw [h] at hs
    cases hs
    exact absurd rfl hne

theorem read_line {line : List Char} (h : splitLine? cs = some (line, rest)) (hne : line ≠ []) :
    (read g cs).1 = (read (g.add line) rest).1 := by
  rw [read]
  split
  · next hs => rw [h] at hs; cases hs
  · next hs =>
    rw [h] at hs
    cases hs
    exact absurd rfl hne
  · next hs =>
    rw [h] at hs
    cases hs
    rfl

end Reading

/-- The reader finds the events that the lines make up, the last of which a blank line ends. -/
theorem data_events_textOf {lines : List (BodyLine × LineEnd)} (hplain : ∀ l ∈ lines, l.1.Plain)
    (e : LineEnd) :
    (events (textOf (lines ++ [(.blank, e)]))).map (·.data) =
      (eventsOf (lines.map (·.1))).map String.ofList := by
  -- in the middle of a text, the lines since the last blank one are gathered
  suffices hread : ∀ block : List BodyLine, (∀ l ∈ block, l.Plain ∧ l.isBlank = false) →
      (read (gathered block) (textOf (lines ++ [(.blank, e)]))).1.map (·.data) =
        (eventsOf (block ++ lines.map (·.1))).map String.ofList from
    hread [] (by simp)
  induction lines with
  | nil =>
    intro block hblock
    -- only the blank line at the end is left
    have hline : splitLine? (textOf [(.blank, e)]) = some ([], []) :=
      splitLine?_line (show Unbroken [] by decide) e []
    have hend : (read {} []).1 = [] := by
      rw [read]
      rfl
    rw [List.nil_append, read_blank hline, hend, List.append_nil, List.map_nil, List.append_nil,
      eventsOf_block fun l hl => (hblock l hl).2]
    exact event?_gathered fun l hl => (hblock l hl).1
  | cons l lines ih =>
    intro block hblock
    have hl := hplain l List.mem_cons_self
    have ih := ih fun l hl => hplain l (List.mem_cons_of_mem _ hl)
    have hline := splitLine?_line hl.unbroken l.2 (textOf (lines ++ [(.blank, e)]))
    rw [← textOf_cons] at hline
    rw [List.cons_append, List.map_cons]
    cases hblank : l.1.isBlank with
    | true =>
      -- a blank line ends the event, and what follows starts with nothing gathered
      rw [BodyLine.eq_blank hblank] at hline ⊢
      rw [read_blank hline, List.map_append, event?_gathered fun l hl => (hblock l hl).1,
        eventsOf_append_blank, eventsOf_block fun l hl => (hblock l hl).2, List.map_append]
      exact congrArg _ (ih [] (by simp))
    | false =>
      -- any other line joins those before it
      have hne : l.1.chars ≠ [] := by
        obtain ⟨c, rest, hc, -⟩ := BodyLine.exists_chars_eq_cons hblank
        simp [hc]
      have hblock' : ∀ l' ∈ block ++ [l.1], l'.Plain ∧ l'.isBlank = false :=
        List.forall_mem_append.2 ⟨hblock, List.forall_mem_singleton.2 ⟨hl, hblank⟩⟩
      rw [read_line hline hne, ← gathered_append_singleton, ih _ hblock', List.append_assoc]
      rfl

/-! ## The last event -/

/-- The lines since the last blank one make up the last event; a line that follows joins them. -/
theorem exists_last_block (lines : List BodyLine) :
    ∃ earlier block, ∀ line : BodyLine, line.isBlank = false →
      eventsOf (lines ++ [line]) = earlier ++ (dataOf? (block ++ [line])).toList := by
  suffices hlast : ∀ block : List BodyLine, (∀ l ∈ block, l.isBlank = false) →
      ∃ earlier block', ∀ line : BodyLine, line.isBlank = false →
        eventsOf (block ++ (lines ++ [line])) = earlier ++ (dataOf? (block' ++ [line])).toList from
    hlast [] (by simp)
  -- the lines since the last blank one are carried along
  induction lines with
  | nil =>
    intro block hblock
    refine ⟨[], block, fun line hline => eventsOf_block ?_⟩
    exact List.forall_mem_append.2 ⟨hblock, List.forall_mem_singleton.2 hline⟩
  | cons l lines ih =>
    intro block hblock
    cases hblank : l.isBlank with
    | true =>
      obtain ⟨earlier, block', hevents⟩ := ih [] (by simp)
      refine ⟨eventsOf block ++ earlier, block', fun line hline => ?_⟩
      rw [BodyLine.eq_blank hblank, List.cons_append, eventsOf_append_blank, List.append_assoc]
      exact congrArg _ (hevents line hline)
    | false =>
      have hblock' : ∀ l' ∈ block ++ [l], l'.isBlank = false :=
        List.forall_mem_append.2 ⟨hblock, List.forall_mem_singleton.2 hblank⟩
      obtain ⟨earlier, block', hevents⟩ := ih _ hblock'
      refine ⟨earlier, block', fun line hline => ?_⟩
      rw [← hevents line hline, List.append_assoc]
      rfl

/-- Of the data of an event, the last line is the last value. -/
theorem dataOf?_append_data {block : List BodyLine} {line : BodyLine} {value : List Char}
    (h : line.data? = some value) :
    dataOf? (block ++ [line]) =
      some ((block.filterMap BodyLine.data?).flatMap (· ++ ['\n']) ++ value) := by
  have hvalues : (block ++ [line]).filterMap BodyLine.data? =
      block.filterMap BodyLine.data? ++ [value] := by
    simp [List.filterMap_append, h]
  have hne : block.filterMap BodyLine.data? ++ [value] ≠ [] := by simp
  have hjoin : ['\n'].intercalate (block.filterMap BodyLine.data? ++ [value]) =
      (block.filterMap BodyLine.data?).flatMap (· ++ ['\n']) ++ value := by
    rw [← dropLast_flatMap hne, List.flatMap_append, List.flatMap_singleton, ← List.append_assoc,
      List.dropLast_concat]
  simp [dataOf?, hvalues, hjoin]

theorem dataOf?_append_of_no_data (block : List BodyLine) {line : BodyLine}
    (h : line.data? = none) : dataOf? (block ++ [line]) = dataOf? block := by
  simp [dataOf?, List.filterMap_append, h]

/-- Trimming the last line takes white space from the end of the last event, if it takes
anything. -/
theorem eventsOf_trimmed {lines : List BodyLine} {line : BodyLine} (h : line.isBlank = false)
    {earlier later : List (List Char)} {data : List Char}
    (hevents : eventsOf (lines ++ [line]) = earlier ++ data :: later) :
    ∃ data' later', eventsOf (lines ++ [line.trimmed]) = earlier ++ data' :: later' ∧
      ∃ blanks, data = data' ++ blanks ∧ ∀ c ∈ blanks, Text.isBlank c = true := by
  obtain ⟨init, block, hlast⟩ := exists_last_block lines
  have hbefore := hlast line h
  have hafter := hlast line.trimmed (line.isBlank_trimmed.trans h)
  have hkind := line.data?_trimmed
  rcases hdata : line.data? with _ | value
  · -- the line adds no data, trimmed or not
    rw [hdata, Option.map_none] at hkind
    rw [dataOf?_append_of_no_data block hdata, hevents] at hbefore
    rw [dataOf?_append_of_no_data block hkind, ← hbefore] at hafter
    exact ⟨data, later, hafter, [], (List.append_nil data).symm, by simp⟩
  · rw [hdata, Option.map_some] at hkind
    rw [dataOf?_append_data hdata, hevents] at hbefore
    rw [dataOf?_append_data hkind] at hafter
    rcases List.eq_nil_or_concat' later with rfl | ⟨later, final, rfl⟩
    · -- the event is the last one
      obtain ⟨rfl, hsame⟩ := List.append_inj' hbefore rfl
      obtain ⟨blanks, hvalue, hblanks⟩ := Text.exists_trimEnd_append value
      refine ⟨_, [], hafter, blanks, ?_, hblanks⟩
      rw [List.append_assoc, ← hvalue]
      exact (List.cons.inj hsame).1
    · -- the event comes before the last one
      rw [← List.cons_append, ← List.append_assoc] at hbefore
      obtain ⟨rfl, -⟩ := List.append_inj' hbefore rfl
      rw [List.append_assoc, List.cons_append] at hafter
      exact ⟨data, _, hafter, [], (List.append_nil data).symm, by simp⟩

/-! ## Blank lines at the front -/

/-- The lines from the first one on that is not blank. -/
def dropBlank (lines : List (BodyLine × LineEnd)) : List (BodyLine × LineEnd) :=
  lines.dropWhile fun l => l.1.isBlank

section DropBlank

variable {l : BodyLine × LineEnd} {lines : List (BodyLine × LineEnd)}

theorem dropBlank_cons_blank (h : l.1.isBlank = true) :
    dropBlank (l :: lines) = dropBlank lines := by
  simp [dropBlank, h]

theorem dropBlank_cons_solid (h : l.1.isBlank = false) : dropBlank (l :: lines) = l :: lines := by
  simp [dropBlank, h]

theorem isBlank_of_head?_dropBlank (h : l ∈ (dropBlank lines).head?) : l.1.isBlank = false := by
  have hhead := List.head?_dropWhile_not (fun l : BodyLine × LineEnd => l.1.isBlank) lines
  rw [show (lines.dropWhile fun l => l.1.isBlank).head? = some l from h] at hhead
  simpa using hhead

/-- Trimming the front of a text takes the blank lines away. -/
theorem trimStart_textOf (lines : List (BodyLine × LineEnd)) {rest : List Char}
    (hrest : ∀ c ∈ rest.head?, Text.isBlank c = false) :
    Text.trimStart (textOf lines ++ rest) = textOf (dropBlank lines) ++ rest := by
  induction lines with
  | nil => exact Text.trimStart_of_head hrest
  | cons l lines ih =>
    cases hblank : l.1.isBlank with
    | true =>
      rw [dropBlank_cons_blank hblank, textOf_cons, BodyLine.eq_blank hblank, ← ih,
        List.append_assoc, List.append_assoc, BodyLine.chars, List.nil_append,
        Text.trimStart_append_of_blank LineEnd.isBlank_of_mem]
    | false =>
      obtain ⟨c, cs, hc, hsolid, -⟩ := BodyLine.exists_chars_eq_cons hblank
      rw [dropBlank_cons_solid hblank]
      apply Text.trimStart_of_head
      rw [textOf_cons, hc]
      simpa using hsolid

/-- They make no event. -/
theorem eventsOf_dropBlank (lines : List (BodyLine × LineEnd)) (line : BodyLine) :
    eventsOf ((dropBlank lines).map (·.1) ++ [line]) = eventsOf (lines.map (·.1) ++ [line]) := by
  induction lines with
  | nil => rfl
  | cons l lines ih =>
    cases hblank : l.1.isBlank with
    | true =>
      rw [dropBlank_cons_blank hblank, ih, List.map_cons, BodyLine.eq_blank hblank]
      exact (eventsOf_append_blank [] _).symm
    | false => rw [dropBlank_cons_solid hblank]

end DropBlank

/-! ## Bodies -/

/-- A body of events: lines, the last of which is not blank, and line ends after it or none. -/
structure Body where
  /-- The lines before the last one. -/
  front : List (BodyLine × LineEnd)
  /-- The last line that is not blank. -/
  last : BodyLine
  /-- What ends it, and the blank lines that follow. -/
  after : List LineEnd
  /-- The lines before the last one are lines. -/
  front_plain : ∀ l ∈ front, l.1.Plain
  /-- The last line is one. -/
  last_plain : last.Plain
  /-- It is not blank. -/
  last_solid : last.isBlank = false

namespace Body

variable (body : Body)

/-- The text of a body. -/
def chars : List Char :=
  textOf body.front ++ (body.last.chars ++ body.after.flatMap LineEnd.chars)

/-- The same as a text. -/
def text : String := String.ofList body.chars

/-- The data of the events of a body. The end of the body ends the last one. -/
def events : List (List Char) := eventsOf (body.front.map (·.1) ++ [body.last])

/-- The data of the events of a body when the white space at its end counts for nothing. -/
def heard : List (List Char) := eventsOf (body.front.map (·.1) ++ [body.last.trimmed])

/-- Of the last event, trimming may take white space at the end, and nothing else changes. -/
theorem heard_of_events {earlier later : List (List Char)} {data : List Char}
    (h : body.events = earlier ++ data :: later) :
    ∃ data' later', body.heard = earlier ++ data' :: later' ∧
      ∃ blanks, data = data' ++ blanks ∧ ∀ c ∈ blanks, Text.isBlank c = true :=
  eventsOf_trimmed body.last_solid h

/-- A body begins with a line end, a colon or a field's name. -/
theorem ne_mark_of_head?_chars : ∀ c ∈ body.chars.head?, c ≠ Text.byteOrderMark := by
  have hsolid : ∀ {line : BodyLine} (rest : List Char), line.isBlank = false →
      ∀ c ∈ (line.chars ++ rest).head?, c ≠ Text.byteOrderMark := by
    intro line rest hline
    obtain ⟨c, cs, hc, -, hmark, -⟩ := BodyLine.exists_chars_eq_cons hline
    rw [hc]
    simpa using hmark
  rw [chars]
  rcases body.front with _ | ⟨l, lines⟩
  · exact hsolid _ body.last_solid
  · rw [textOf_cons, List.append_assoc]
    cases hblank : l.1.isBlank with
    | true =>
      rw [BodyLine.eq_blank hblank]
      cases l.2 <;> simp [BodyLine.chars, LineEnd.chars, Text.byteOrderMark]
    | false => exact hsolid _ hblank

/-- The text of a body is trimmed at its front to the first line that is not blank, and at its end
to the text of the last one. -/
theorem trimChars_chars :
    Text.trimChars body.chars = textOf (dropBlank body.front) ++ body.last.trimmed.chars := by
  obtain ⟨c, cs, hc, hsolid, -⟩ := BodyLine.exists_chars_eq_cons body.last_solid
  obtain ⟨c', cs', hc', -⟩ := BodyLine.exists_chars_eq_cons
    (body.last.isBlank_trimmed.trans body.last_solid)
  have hfirst : ∀ c ∈ (body.last.chars ++ body.after.flatMap LineEnd.chars).head?,
      Text.isBlank c = false := by
    rw [hc]
    simpa using hsolid
  have hafter : ∀ c ∈ body.after.flatMap LineEnd.chars, Text.isBlank c = true := by
    intro c hc
    obtain ⟨e, -, hce⟩ := List.mem_flatMap.1 hc
    exact LineEnd.isBlank_of_mem c hce
  have hlast : Text.trimEnd (body.last.chars ++ body.after.flatMap LineEnd.chars) =
      body.last.trimmed.chars := by
    rw [Text.trimEnd_append_of_blank hafter, body.last.trimEnd_chars]
  rw [Text.trimChars, chars, trimStart_textOf _ hfirst, Text.trimEnd_append (by simp [hlast, hc']),
    hlast]

/-- What is left of it is not empty and begins neither like an object nor like a sequence. -/
theorem exists_trimChars_eq_cons :
    ∃ c rest, Text.trimChars body.chars = c :: rest ∧ ¬(c = '\x7b' ∨ c = '[') := by
  rw [trimChars_chars]
  rcases hfront : dropBlank body.front with _ | ⟨l, lines⟩
  · obtain ⟨c, rest, hc, -, -, hopen⟩ := BodyLine.exists_chars_eq_cons
      (body.last.isBlank_trimmed.trans body.last_solid)
    exact ⟨c, rest, hc, not_or.2 hopen⟩
  · have hsolid : l.1.isBlank = false := isBlank_of_head?_dropBlank (by rw [hfront]; rfl)
    obtain ⟨c, rest, hc, -, -, hopen⟩ := BodyLine.exists_chars_eq_cons hsolid
    exact ⟨c, _, by rw [textOf_cons, hc]; rfl, not_or.2 hopen⟩

/-- The reader finds the events of the body in it, the last line trimmed, when a blank line is put
behind. -/
theorem data_events_trimChars :
    (EventStream.events (Text.trimChars body.chars ++ ['\n', '\n'])).map (·.data) =
      body.heard.map String.ofList := by
  have hfront : ∀ l ∈ dropBlank body.front, l.1.Plain := fun l hl =>
    body.front_plain l ((List.dropWhile_suffix _).subset hl)
  have hplain : ∀ l ∈ dropBlank body.front ++ [(body.last.trimmed, .feed)], l.1.Plain :=
    List.forall_mem_append.2 ⟨hfront, List.forall_mem_singleton.2 body.last_plain.trimmed⟩
  have htext : Text.trimChars body.chars ++ ['\n', '\n'] =
      textOf (dropBlank body.front ++ [(body.last.trimmed, .feed)] ++ [(.blank, .feed)]) := by
    rw [trimChars_chars]
    simp [textOf, BodyLine.chars, LineEnd.chars]
  rw [htext, data_events_textOf hplain, List.map_append, heard, ← eventsOf_dropBlank]
  rfl

end Body

end ToolRelay.EventStream
