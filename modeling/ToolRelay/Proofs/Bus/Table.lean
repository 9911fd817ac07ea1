import Mathlib.Data.Finset.Sort
import ToolRelay.Proofs.Bus.Adoption
import ToolRelay.Proofs.Text.ByteOrder

/-!
# A bus as a finite map

A bus keeps its tools in the order of their names, but that is nobody's concern: what it answers,
whatever was done with it before, is what a finite map from names to tools answers in which every
tool stands under its own name. A finite map knows no order, and where an answer lists names, they
are sorted for it.

## Main definitions

* `ToolTable`: a finite map from names to tools.
* `BusOp`, `BusAnswer`: what is done with a bus, and what it answers.
* `ToolBus.answers`, `ToolTable.answers`: the answers to some operations.
* `ToolBus.Represents`: what a bus and a finite map have in common.

## Main results

* `ToolBus.Represents.after`, `ToolBus.Represents.answer_eq`: one operation.
* `ToolBus.Represents.answers_eq`: any operations, one after the other.
* `ToolBus.answers_of_finite_map`: the answers of a bus are those of a finite map.
-/

namespace ToolRelay

/-! ## Finite maps -/

/-- A finite map from names to tools, each under its own name. -/
structure ToolTable (κ : Type) where
  /-- The names under which there are tools. -/
  names : Finset String
  /-- The tool under a name. -/
  find : String → Option (BusTool κ)
  /-- There are tools under these names, and no others. -/
  mem_names : ∀ name, name ∈ names ↔ (find name).isSome = true
  /-- A tool stands under its own name. -/
  named : ∀ name t, find name = some t → t.name = name

/-- What is done with a bus. -/
inductive BusOp (κ : Type) where
  /-- Register a tool. -/
  | register (t : BusTool κ)
  /-- Remove the tool of a name. -/
  | unregister (name : String)
  /-- Remove the tools whose names start with a text. -/
  | unregisterPrefix (start : String)
  /-- Get the tool of a name. -/
  | get (name : String)
  /-- Ask whether there is a tool of a name. -/
  | contains (name : String)
  /-- List the tools. -/
  | list
  /-- Ask for the number of tools. -/
  | size
  /-- Ask whether there is no tool. -/
  | isEmpty
  /-- Call a tool. -/
  | call (name : String) (args : Json)
  /-- Show the bus to a reader. -/
  | describe

/-- What a bus answers. -/
inductive BusAnswer (κ : Type) where
  /-- A tool, or none. -/
  | tool (t : Option (BusTool κ))
  /-- A number. -/
  | count (n : Nat)
  /-- Yes or no. -/
  | flag (b : Bool)
  /-- What tools tell of themselves. -/
  | infos (ts : List BusToolInfo)
  /-- What came of a call. -/
  | outcome (r : Except CallFault Json)
  /-- A text. -/
  | text (s : String)

universe u

variable {κ : Type} {m : Type → Type u} [Monad m]

namespace ToolTable

/-- No tools. -/
def empty (κ : Type) : ToolTable κ := ⟨∅, fun _ => none, fun _ => by simp, fun _ _ h => by cases h⟩

/-- Put a tool under its name, in place of any other. -/
def put (table : ToolTable κ) (t : BusTool κ) : ToolTable κ where
  names := insert t.name table.names
  find := Function.update table.find t.name (some t)
  mem_names name := by
    by_cases h : name = t.name
    · simp [h]
    · simp [h, table.mem_names]
  named name t' ht' := by
    by_cases h : name = t.name
    · rw [h, Function.update_self] at ht'
      rw [h, ← Option.some.inj ht']
    · rw [Function.update_of_ne h] at ht'
      exact table.named name t' ht'

/-- Remove the tools under some names. -/
def without (table : ToolTable κ) (gone : String → Bool) : ToolTable κ where
  names := table.names.filter (gone · = false)
  find name := if gone name then none else table.find name
  mem_names name := by cases h : gone name <;> simp [h, table.mem_names]
  named name t ht := by
    split_ifs at ht
    exact table.named name t ht

/-- What the tools tell of themselves, in the order of their names. -/
def list (table : ToolTable κ) : List BusToolInfo :=
  table.names.sort.filterMap fun name => (table.find name).map (·.info)

/-- Call a tool. -/
def call (run : κ → Json → m (Except String Json)) (table : ToolTable κ) (name : String)
    (args : Json) : m (Except CallFault Json) :=
  match table.find name with
  | none => return .error (.missing name)
  | some t => return (← run t.handler args).mapError .failed

/-- What an operation leaves behind. -/
def after (table : ToolTable κ) : BusOp κ → ToolTable κ
  | .register t => table.put t
  | .unregister name => table.without (· = name)
  | .unregisterPrefix start => table.without (ToolBus.startsWith start)
  | .get _ | .contains _ | .list | .size | .isEmpty | .call _ _ | .describe => table

/-- What is answered to an operation. -/
def answer (run : κ → Json → m (Except String Json)) (table : ToolTable κ) :
    BusOp κ → m (BusAnswer κ)
  | .register t => return .tool (table.find t.name)
  | .unregister name => return .tool (table.find name)
  | .unregisterPrefix start => return .count (table.names.filter (ToolBus.startsWith start ·)).card
  | .get name => return .tool (table.find name)
  | .contains name => return .flag (decide (name ∈ table.names))
  | .list => return .infos table.list
  | .size => return .count table.names.card
  | .isEmpty => return .flag (decide (table.names = ∅))
  | .call name args => return .outcome (← table.call run name args)
  | .describe =>
    return .text ("ToolBus \x7b tools: " ++ Text.quotedList table.names.sort ++ " \x7d")

/-- What is answered to operations, one after the other. -/
def answers (run : κ → Json → m (Except String Json)) (table : ToolTable κ) :
    List (BusOp κ) → m (List (BusAnswer κ))
  | [] => return []
  | op :: rest => do
    let a ← table.answer run op
    let as ← answers run (table.after op) rest
    return a :: as

end ToolTable

/-! ## Buses -/

namespace ToolBus

/-- What an operation leaves behind. -/
def after (b : ToolBus κ) : BusOp κ → ToolBus κ
  | .register t => (b.register t).2
  | .unregister name => (b.unregister name).2
  | .unregisterPrefix start => (b.unregisterPrefix start).2
  | .get _ | .contains _ | .list | .size | .isEmpty | .call _ _ | .describe => b

/-- What a bus answers to an operation. -/
def answer (run : κ → Json → m (Except String Json)) (b : ToolBus κ) : BusOp κ → m (BusAnswer κ)
  | .register t => return .tool (b.register t).1
  | .unregister name => return .tool (b.unregister name).1
  | .unregisterPrefix start => return .count (b.unregisterPrefix start).1
  | .get name => return .tool (b.get? name)
  | .contains name => return .flag (b.contains name)
  | .list => return .infos b.list
  | .size => return .count b.size
  | .isEmpty => return .flag b.isEmpty
  | .call name args => return .outcome (← b.call run name args)
  | .describe => return .text b.describe

/-- What a bus answers to operations, one after the other. -/
def answers (run : κ → Json → m (Except String Json)) (b : ToolBus κ) :
    List (BusOp κ) → m (List (BusAnswer κ))
  | [] => return []
  | op :: rest => do
    let a ← b.answer run op
    let as ← answers run (b.after op) rest
    return a :: as

/-- A bus holds the tools of a finite map. -/
structure Represents (b : ToolBus κ) (table : ToolTable κ) : Prop where
  /-- Each tool is there once. -/
  ordered : b.Ordered
  /-- Under each name the same is found. -/
  found : ∀ name, b.get? name = table.find name

variable {b : ToolBus κ} {table : ToolTable κ} {run : κ → Json → m (Except String Json)}

theorem represents_empty : Represents ({} : ToolBus κ) (.empty κ) := ⟨ordered_empty, fun _ => rfl⟩

/-- The number of tools that are removed is that of the names that start with the text. -/
theorem unregisterPrefix_fst (b : ToolBus κ) (start : String) :
    (b.unregisterPrefix start).1 = (b.names.filter (startsWith start ·)).length := by
  have hsplit := List.length_eq_length_filter_add (l := b.tools) fun t => startsWith start t.name
  rw [unregisterPrefix, names, List.filter_map, List.length_map]
  exact Nat.sub_eq_of_eq_add hsplit

namespace Represents

theorem contains_iff (h : b.Represents table) (name : String) :
    b.contains name = true ↔ name ∈ table.names := by
  rw [contains, h.found, table.mem_names]

theorem names_eq (h : b.Represents table) : table.names = b.names.toFinset := by
  ext name
  rw [List.mem_toFinset, mem_names_iff, h.contains_iff]

/-- The names of a bus are those of the finite map, sorted. -/
theorem sort_names (h : b.Represents table) : table.names.sort = b.names := by
  rw [h.names_eq]
  -- a sorted list without repetitions is what sorting its members gives
  refine (List.toFinset_sort _ h.ordered.nodup_names).2 (List.pairwise_map.2 ?_)
  exact h.ordered.imp fun hlt => le_of_lt hlt

/-- What the tools tell of themselves is told in the order of the names. -/
theorem list_eq (h : b.Represents table) : table.list = b.list := by
  rw [ToolTable.list, h.sort_names, names, list, List.filterMap_map, ← List.filterMap_eq_map]
  refine List.filterMap_congr fun t ht => ?_
  rw [Function.comp_apply, ← h.found, h.ordered.mem_tools_iff.1 ht]
  rfl

theorem card_names (h : b.Represents table) : table.names.card = b.size := by
  rw [h.names_eq, List.toFinset_card_of_nodup h.ordered.nodup_names, names, List.length_map, size]

/-- Calling reaches the tool that is found. -/
theorem call_eq (h : b.Represents table) (name : String) (args : Json) :
    b.call run name args = table.call run name args := by
  rw [call, ToolTable.call, h.found]
  cases table.find name with
  | none => rfl
  | some t =>
    -- the same tool is run, and what it gives is told in the same words
    refine congrArg (run t.handler args >>= ·) (funext fun r => ?_)
    cases r <;> rfl

/-- A bus answers as the finite map does whose tools it holds. -/
theorem answer_eq (h : b.Represents table) (op : BusOp κ) :
    b.answer run op = table.answer run op := by
  cases op with
  | register t => simp only [answer, ToolTable.answer, register, h.found]
  | unregister name => simp only [answer, ToolTable.answer, unregister, h.found]
  | unregisterPrefix start =>
    -- names are counted where the bus counts tools, and no two tools have the same name
    simp only [answer, ToolTable.answer, unregisterPrefix_fst, h.names_eq, ← List.toFinset_filter]
    rw [List.toFinset_card_of_nodup (h.ordered.nodup_names.filter _)]
  | get name => simp only [answer, ToolTable.answer, h.found]
  | contains name =>
    simp only [answer, ToolTable.answer, ← h.contains_iff, Bool.decide_eq_true]
  | list => simp only [answer, ToolTable.answer, h.list_eq]
  | size => simp only [answer, ToolTable.answer, h.card_names]
  | isEmpty =>
    -- both count to zero
    have hiff : table.names = ∅ ↔ b.isEmpty = true := by
      rw [← Finset.card_eq_zero, h.card_names, size, isEmpty, List.isEmpty_iff,
        List.length_eq_zero_iff]
    simp only [answer, ToolTable.answer, hiff, Bool.decide_eq_true]
  | call name args => simp only [answer, ToolTable.answer, h.call_eq]
  | describe =>
    have hshown : b.describe =
        "ToolBus \x7b tools: " ++ Text.quotedList table.names.sort ++ " \x7d" := by
      rw [h.sort_names]
      rfl
    exact congrArg (fun s => (return .text s : m (BusAnswer κ))) hshown

/-- After an operation a bus still holds the tools of the finite map. -/
theorem after (h : b.Represents table) (op : BusOp κ) :
    (b.after op).Represents (table.after op) := by
  cases op with
  | register t =>
    refine ⟨h.ordered.register t, fun name => ?_⟩
    rw [ToolBus.after, get?_register, h.found]
    by_cases hname : t.name = name
    · simp [ToolTable.after, ToolTable.put, hname]
    · simp [ToolTable.after, ToolTable.put, hname, Ne.symm hname]
  | unregister gone =>
    refine ⟨h.ordered.unregister gone, fun name => ?_⟩
    rw [ToolBus.after, get?_unregister, h.found]
    simp [ToolTable.after, ToolTable.without]
  | unregisterPrefix start =>
    refine ⟨h.ordered.unregisterPrefix start, fun name => ?_⟩
    rw [ToolBus.after, get?_unregisterPrefix, h.found]
    rfl
  | get | contains | list | size | isEmpty | call | describe => exact h

/-- Whatever is done with both, a bus answers as the finite map does whose tools it holds. -/
theorem answers_eq (h : b.Represents table) (ops : List (BusOp κ)) :
    b.answers run ops = table.answers run ops := by
  induction ops generalizing b table with
  | nil => rfl
  | cons op rest ih => rw [answers, ToolTable.answers, h.answer_eq, ih (h.after op)]

/-- Whatever is done with both, a bus holds the tools of the finite map in the end. -/
theorem foldl_after (h : b.Represents table) (ops : List (BusOp κ)) :
    (ops.foldl ToolBus.after b).Represents (ops.foldl ToolTable.after table) := by
  induction ops generalizing b table with
  | nil => exact h
  | cons op rest ih => exact ih (h.after op)

end Represents

/-- Every name starts with the empty text. -/
theorem unregisterPrefix_empty (b : ToolBus κ) : b.unregisterPrefix "" = (b.size, {}) := by
  have hall : ∀ t : BusTool κ, startsWith "" t.name = true := fun t => rfl
  simp [unregisterPrefix, hall, size]

/-- A bus refines a finite map. Let a bus be used in any way, from an empty one on, where tools are
run in any monad: it answers everything as a finite map from names to tools does in which each tool
stands under its own name.

Whatever was done, registering a tool gives the one that it replaces, and nothing else changes.
Removing the tools whose names start with a text gives their number, and removes these and no
others; the empty text removes all. The list of tools is strictly increasing by the bytes of their
names, with one entry for each tool, and the names in it are those of which there is a tool. The
tool of a name has this name. A call reaches this tool, and without one it fails with an error that
tells the name. -/
theorem answers_of_finite_map (run : κ → Json → m (Except String Json)) (ops : List (BusOp κ)) :
    answers run {} ops = (ToolTable.empty κ).answers run ops ∧
      let b : ToolBus κ := ops.foldl ToolBus.after {}
      (∀ t, (b.register t).1 = b.get? t.name ∧
        ∀ name, (b.register t).2.get? name = if t.name = name then some t else b.get? name) ∧
      (∀ start, (b.unregisterPrefix start).1 = (b.names.filter (startsWith start ·)).length ∧
        ∀ name, (b.unregisterPrefix start).2.get? name =
          if startsWith start name then none else b.get? name) ∧
      b.unregisterPrefix "" = (b.size, {}) ∧
      (b.list.map (·.name)).Pairwise
        (fun a a' => Text.utf8Bytes a.toList < Text.utf8Bytes a'.toList) ∧
      b.list.length = b.size ∧
      (∀ name, (name ∈ b.list.map (·.name) ↔ b.contains name = true) ∧
        b.contains name = (b.get? name).isSome) ∧
      (∀ name t, b.get? name = some t → t.name = name) ∧
      ∀ name args, (CallFault.missing name).message = "Tool not found: " ++ name ∧
        b.call run name args =
          match b.get? name with
          | none => return .error (.missing name)
          | some t => return (← run t.handler args).mapError .failed := by
  refine ⟨represents_empty.answers_eq ops, ?_⟩
  intro b
  have h : b.Represents (ops.foldl ToolTable.after (.empty κ)) := represents_empty.foldl_after ops
  have hnames : b.list.map (·.name) = b.names := by
    rw [list, List.map_map]
    rfl
  refine ⟨fun t => ⟨rfl, get?_register b t⟩,
    fun start => ⟨unregisterPrefix_fst b start, get?_unregisterPrefix b start⟩,
    unregisterPrefix_empty b, ?_, ?_, fun name => ⟨?_, rfl⟩, fun name t => name_of_get?,
    fun name args => ⟨rfl, ?_⟩⟩
  · rw [hnames, names, List.pairwise_map]
    exact h.ordered.imp Text.lt_iff_utf8Bytes.1
  · rw [list, List.length_map, size]
  · rw [hnames, mem_names_iff]
  · rw [h.call_eq, ToolTable.call, h.found]

/-- Operations on a bus whose tools work or fail: one of two tools is replaced, and the other
removed. -/
def replaced : List (BusOp Bool) :=
  [.register ⟨"b", "old", .emptySchema, true⟩, .register ⟨"a.1", "", .emptySchema, true⟩,
    .register ⟨"b", "new", .emptySchema, false⟩, .unregisterPrefix "a.", .list, .call "b" .null]

/-- What runs such a tool. -/
def echoed (works : Bool) (args : Json) : Id (Except String Json) :=
  if works then .ok args else .error "broken"

/-- One tool is left, and it is the one that was registered last. -/
theorem answers_of_replaced :
    answers echoed {} replaced = (ToolTable.empty Bool).answers echoed replaced ∧
      (replaced.foldl ToolBus.after {}).list.map (·.name) = ["b"] ∧
      ∃ t, (replaced.foldl ToolBus.after {}).get? "b" = some t ∧ t.name = "b" ∧
        t.description = "new" := by
  obtain ⟨hanswers, -, -, -, -, -, -, hnamed, -⟩ := answers_of_finite_map echoed replaced
  have hfound : ((replaced.foldl ToolBus.after {}).get? "b").map (·.description) = some "new" := by
    decide +kernel
  obtain ⟨t, ht, hnew⟩ := Option.map_eq_some_iff.1 hfound
  exact ⟨hanswers, by decide +kernel, t, ht, hnamed "b" t ht, hnew⟩

end ToolBus

end ToolRelay
