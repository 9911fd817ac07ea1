import ToolRelay.Server.Entry

/-!
# Server listings

Models a configured list of servers with `add_server`, `find_server`, `find_server_mut`,
`remove_server` and `enabled_servers`. A listing is a sequence of entries in the order written;
names may occur more than once, and the first entry of a name is the one that is found, changed or
removed.
-/

namespace ToolRelay

/-- The servers of a configuration. -/
structure Listing where
  /-- The entries in the order written. -/
  servers : List Entry := []
  deriving DecidableEq, Repr

namespace Listing

/-- Add an entry at the end. -/
def add (l : Listing) (e : Entry) : Listing := ⟨l.servers ++ [e]⟩

/-- The first entry of a name. -/
def find? (l : Listing) (name : String) : Option Entry := l.servers.find? (·.name == name)

/-- Replace the first element that satisfies a test. -/
def replaceFirst (test : Entry → Bool) (new : Entry) : List Entry → List Entry
  | [] => []
  | e :: rest => if test e then new :: rest else e :: replaceFirst test new rest

/-- Replace the first entry of a name, if there is one. -/
def edit (l : Listing) (name : String) (new : Entry) : Bool × Listing :=
  ((l.find? name).isSome, ⟨replaceFirst (·.name == name) new l.servers⟩)

/-- Remove the first entry of a name. -/
def remove (l : Listing) (name : String) : Option Entry × Listing :=
  (l.find? name, ⟨l.servers.eraseP (·.name == name)⟩)

/-- The number of entries. -/
def size (l : Listing) : Nat := l.servers.length

/-- The enabled entries, in order. -/
def enabled (l : Listing) : List Entry := l.servers.filter (·.enabled)

end Listing

end ToolRelay
