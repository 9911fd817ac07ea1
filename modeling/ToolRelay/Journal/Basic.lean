import ToolRelay.Journal.Note
import ToolRelay.Journal.Span

/-!
# Journals

A journal keeps notes in the order in which they were taken and spans in the order in which they
closed. Operations that only need to write are stated for every monad that can: `Journaling`.

What goes on at the same time is written into journals of its own, with the turn in which each item
was written; `Journal.merge` puts them together.
-/

namespace ToolRelay

/-- What is written into a journal. -/
inductive JournalItem where
  /-- A note that was taken. -/
  | note (n : Note)
  /-- A span that closed. -/
  | span (s : Span)
  deriving DecidableEq, Repr

namespace JournalItem

/-- The note, if it is one. -/
def note? : JournalItem → Option Note
  | .note n => some n
  | .span _ => none

/-- The span, if it is one. -/
def span? : JournalItem → Option Span
  | .span s => some s
  | .note _ => none

end JournalItem

/-- What was written down, oldest first. -/
structure Journal where
  /-- The notes and spans. -/
  items : List JournalItem := []
  deriving DecidableEq, Repr

/-- Items with the turns in which they were written, oldest first. -/
abbrev TimedItems := List (Nat × JournalItem)

namespace Journal

/-- The notes. -/
def notes (j : Journal) : List Note := j.items.filterMap JournalItem.note?

/-- The spans. -/
def spans (j : Journal) : List Span := j.items.filterMap JournalItem.span?

/-- Write an item. -/
def add (j : Journal) (i : JournalItem) : Journal := ⟨j.items ++ [i]⟩

/-- Write several notes. -/
def addNotes (j : Journal) (ns : List Note) : Journal := ⟨j.items ++ ns.map .note⟩

/-- Put an item among others, before those of its own turn and of later ones. -/
def enter (i : Nat × JournalItem) : TimedItems → TimedItems
  | [] => [i]
  | j :: rest => if i.1 ≤ j.1 then i :: j :: rest else j :: enter i rest

/-- What was written at the same time in several places, in the order of the turns; in one turn the
places come in their order. -/
def merge (places : List TimedItems) : List JournalItem :=
  (places.flatten.foldr enter []).map (·.2)

end Journal

/-- Monads in which one can write into a journal. -/
class Journaling.{u} (m : Type → Type u) where
  /-- Write an item. -/
  write : JournalItem → m Unit

/-- Take a note. -/
def Journaling.note.{u} {m : Type → Type u} [Journaling m] (n : Note) : m Unit :=
  Journaling.write (.note n)

instance : Journaling (StateM Journal) where
  write i := modify fun j => j.add i

end ToolRelay
