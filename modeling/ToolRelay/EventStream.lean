import ToolRelay.Text.Blank

/-!
# Event streams

The text of an event stream is a sequence of lines. A line ends with a line feed, a carriage return,
or both in this order; a carriage return at the very end of what has arrived is not a line end yet.
Fields gather an event, lines that start with a colon are comments, and an empty line ends the
event. An event without data is not dispatched, and one that is not ended is lost.

## Main definitions

* `EventStream.splitLine?`, `EventStream.splitLine_length`: the first line of a text.
* `EventStream.Gathering`: an event whose end has not arrived yet.
* `EventStream.read`: the events of a text, given what was gathered before.
-/

namespace ToolRelay

/-- An event of a stream. -/
structure StreamEvent where
  /-- The name. -/
  name : String
  /-- The data: the data fields with line feeds between them. -/
  data : String
  deriving DecidableEq, Repr

namespace EventStream

/-- The first line of a text, without its end, and what follows; nothing when no line has ended. -/
def splitLine? : List Char → Option (List Char × List Char)
  | [] => none
  | '\n' :: rest => some ([], rest)
  | '\r' :: '\n' :: rest => some ([], rest)
  | '\r' :: c :: rest => some ([], c :: rest)
  -- The line feed that belongs to this carriage return may still be on its way.
  | ['\r'] => none
  | c :: rest => (splitLine? rest).map fun (line, rest) => (c :: line, rest)

/-- What follows a line is shorter than the text. -/
theorem splitLine_length {cs line rest : List Char} (h : splitLine? cs = some (line, rest)) :
    rest.length < cs.length := by
  fun_induction splitLine? cs generalizing line with
  | case1 => simp at h
  | case2 => simp_all
  | case3 =>
    simp only [Option.some.injEq, Prod.mk.injEq] at h
    simp only [← h.2, List.length_cons]
    omega
  | case4 => simp at h; simp [← h.2]
  | case5 => simp at h
  | case6 c r _ _ _ _ ih =>
    obtain ⟨⟨l, r'⟩, hr, he⟩ := Option.map_eq_some_iff.1 h
    simp only [Prod.mk.injEq] at he
    have := ih (by rw [hr, he.2])
    simp only [List.length_cons]
    omega

/-- An event whose end has not arrived yet. -/
structure Gathering where
  /-- The name, empty when none was given. -/
  name : List Char := []
  /-- The data lines, each followed by a line feed. -/
  data : List Char := []
  deriving DecidableEq, Repr

/-- A field's name and value; one blank after the colon belongs to neither. -/
def splitField (line : List Char) : List Char × List Char :=
  let name := line.takeWhile (· ≠ ':')
  match line.dropWhile (· ≠ ':') with
  | ':' :: ' ' :: value => (name, value)
  | ':' :: value => (name, value)
  | _ => (name, [])

namespace Gathering

/-- Take in a line that is not empty. A line that starts with a colon has an empty field name and
counts for nothing. -/
def add (g : Gathering) (line : List Char) : Gathering :=
  let (name, value) := splitField line
  if name = "event".toList then { g with name := value }
  else if name = "data".toList then { g with data := g.data ++ (value ++ ['\n']) }
  else g

/-- The event that ends here, if it has data. The name is `message` unless one was given. -/
def event? (g : Gathering) : Option StreamEvent :=
  if g.data.isEmpty then none
  else some
    { name := if g.name.isEmpty then "message" else String.ofList g.name
      data := String.ofList g.data.dropLast }

end Gathering

/-- The events of a text, given what was gathered before; and what remains gathered and unread. -/
def read (g : Gathering) (cs : List Char) : List StreamEvent × Gathering × List Char :=
  match h : splitLine? cs with
  | none => ([], g, cs)
  | some ([], rest) =>
    have := splitLine_length h
    let (events, later) := read {} rest
    (g.event?.toList ++ events, later)
  | some (line, rest) =>
    have := splitLine_length h
    read (g.add line) rest
termination_by cs.length

/-- The events of a whole text. -/
def events (text : List Char) : List StreamEvent := (read {} text).1

end EventStream

end ToolRelay
