import Mathlib.Tactic.SplitIfs
import ToolRelay.Client.Bridge

/-!
# Looking tools up on a bus

A bus is a map from names to tools: `get?` after each operation is determined by `get?` before it,
whatever order the tools are kept in. Putting the tools of a server on a bus changes only what is
found under names that start with the mark of the server, and there only the server's own tools are
found afterwards. The names of tools of servers without dots in their names tell the servers apart.

## Main results

* `ToolBus.get?_register`, `ToolBus.get?_unregister`, `ToolBus.get?_unregisterPrefix`: looking up
  after single operations.
* `ToolBus.get?_adopt_of_outside`, `ToolBus.get?_adopt_of_inside`: looking up after a server's tools
  were put on the bus.
* `Tool.server_eq_of_mark`: a name that starts with the mark of a server is that of one of its
  tools.
-/

namespace ToolRelay

namespace Tool

/-- The name of a tool among those of other servers is the server's mark and the tool's own name. -/
theorem qualifiedName_toList (server tool : String) :
    (qualifiedName server tool).toList = (serverMark server).toList ++ tool.toList := by
  simp [qualifiedName, serverMark]

/-- The name of a tool of a server starts with the mark of the server. -/
theorem startsWith_serverMark (server tool : String) :
    ToolBus.startsWith (serverMark server) (qualifiedName server tool) = true := by
  unfold ToolBus.startsWith
  rw [List.isPrefixOf_iff_prefix, qualifiedName_toList]
  exact List.prefix_append _ _

/-- Where two texts are followed by the first dot, they are the same. -/
theorem eq_of_append_dot {as bs more more' : List Char} (ha : '.' ∉ as) (hb : '.' ∉ bs)
    (h : as ++ '.' :: more = bs ++ '.' :: more') : as = bs := by
  have hbefore (cs more : List Char) (hc : '.' ∉ cs) :
      (cs ++ '.' :: more).takeWhile (· != '.') = cs := by
    rw [List.takeWhile_append_of_pos fun c hmem => by
      simpa using fun heq : c = '.' => hc (heq ▸ hmem)]
    simp
  rw [← hbefore as more ha, h, hbefore bs more' hb]

/-- Of servers whose names have no dots, a name with the mark of one is that of a tool of this one.
-/
theorem server_eq_of_mark {server other tool : String} (hserver : server.contains '.' = false)
    (hother : other.contains '.' = false)
    (h : ToolBus.startsWith (serverMark other) (qualifiedName server tool) = true) :
    server = other := by
  unfold ToolBus.startsWith at h
  rw [List.isPrefixOf_iff_prefix, qualifiedName_toList] at h
  obtain ⟨more, hmore⟩ := h
  -- behind the common front both texts go on with a name and its first dot
  have htext : other.toList ++ '.' :: more = server.toList ++ '.' :: tool.toList := by
    simpa [serverMark] using hmore
  apply String.toList_injective
  exact (eq_of_append_dot (by simpa using hother) (by simpa using hserver) htext).symm

end Tool

namespace ToolBus

variable {κ : Type}

/-- What is found under a name after a tool was put among others. -/
theorem find?_insertTool (t : BusTool κ) (ts : List (BusTool κ)) (name : String) :
    (insertTool t ts).find? (·.name == name) =
      if t.name = name then some t else ts.find? (·.name == name) := by
  induction ts with
  | nil => by_cases h : t.name = name <;> simp [insertTool, h]
  | cons t' rest ih =>
    rw [insertTool]
    by_cases hname : t.name = name
    · rw [if_pos hname]
      split_ifs with hlt heq
      · simp [hname]
      · simp [hname]
      · -- the search goes past a tool of another name
        have hne : t'.name ≠ name := fun h => heq (hname.trans h.symm)
        simp [hne, ih, hname]
    · rw [if_neg hname]
      split_ifs with hlt heq
      · simp [hname]
      · -- the tool that is replaced is not the one that is looked up
        have hne : t'.name ≠ name := heq ▸ hname
        simp [hname, hne]
      · simp [List.find?_cons, ih, hname]

/-- A tool is found under its name once it is registered, and all others as before. -/
theorem get?_register (b : ToolBus κ) (t : BusTool κ) (name : String) :
    (b.register t).2.get? name = if t.name = name then some t else b.get? name :=
  find?_insertTool t b.tools name

/-- What is found when only the tools of some names are kept. -/
theorem find?_filter_name (keep : String → Bool) (ts : List (BusTool κ)) (name : String) :
    (ts.filter fun t => keep t.name).find? (·.name == name) =
      if keep name then ts.find? (·.name == name) else none := by
  induction ts with
  | nil => simp
  | cons t rest ih =>
    by_cases hkeep : keep t.name = true
    · rw [List.filter_cons_of_pos (by exact hkeep)]
      by_cases hname : t.name = name
      · simp [← hname, hkeep]
      · simp [hname, ih]
    · rw [List.filter_cons_of_neg (by exact hkeep), ih]
      by_cases hname : t.name = name
      · simp [← hname, hkeep]
      · simp [hname]

/-- What is found after the tool of a name was removed. -/
theorem get?_unregister (b : ToolBus κ) (gone name : String) :
    (b.unregister gone).2.get? name = if name = gone then none else b.get? name := by
  have hfound := find?_filter_name (fun name => decide (name ≠ gone)) b.tools name
  rw [get?, unregister, hfound]
  by_cases h : name = gone <;> simp [h, get?]

/-- What is found after names with a common start were removed. -/
theorem get?_unregisterPrefix (b : ToolBus κ) (start name : String) :
    (b.unregisterPrefix start).2.get? name =
      if startsWith start name then none else b.get? name := by
  have hfound := find?_filter_name (fun name => !startsWith start name) b.tools name
  rw [get?, unregisterPrefix, hfound]
  cases startsWith start name <;> rfl

/-- A name under which a tool is found is the name of the tool. -/
theorem name_of_get? {b : ToolBus κ} {name : String} {t : BusTool κ} (h : b.get? name = some t) :
    t.name = name := by
  simpa using List.find?_some h

/-! ## The tools of a server -/

/-- The tool of a client that is found under a name: the last one that has it. -/
def remote? (client : ClientRef) (tools : List Tool) (name : String) :
    Option (BusTool (BusHandler κ)) :=
  (tools.reverse.find? fun t => Tool.qualifiedName client.name t.name == name).map (.remote client)

/-- The tools of a server are found only under names with its mark. -/
theorem remote?_of_outside {client : ClientRef} {name : String}
    (hout : startsWith (Tool.serverMark client.name) name = false) (tools : List Tool) :
    (remote? client tools name : Option (BusTool (BusHandler κ))) = none := by
  rw [remote?, Option.map_eq_none_iff, List.find?_eq_none]
  intro t _ hname
  rw [← beq_iff_eq.1 hname, Tool.startsWith_serverMark] at hout
  exact Bool.noConfusion hout

/-- What is found after tools of a client were registered one after the other. -/
theorem get?_registerAll (client : ClientRef) (tools : List Tool) (b : ToolBus (BusHandler κ))
    (name : String) :
    (tools.foldl (fun b t => (b.register (.remote client t)).2) b).get? name =
      (remote? client tools name).or (b.get? name) := by
  induction tools generalizing b with
  | nil => rfl
  | cons t rest ih =>
    rw [List.foldl_cons, ih, get?_register]
    -- a later tool of the same name takes the place of this one
    rw [remote?, remote?, List.reverse_cons, List.find?_append]
    cases hrest : rest.reverse.find? fun t => Tool.qualifiedName client.name t.name == name with
    | some t' => rfl
    | none =>
      by_cases hname : Tool.qualifiedName client.name t.name = name
      · simp [BusTool.remote, hname]
      · simp [BusTool.remote, hname]

/-- What is found after the tools of a client were put on a bus: a tool of the client, or what was
there before under a name without the mark of the client's server. -/
theorem get?_adopt (b : ToolBus (BusHandler κ)) (client : ClientRef) (tools : List Tool)
    (name : String) :
    (b.adopt client tools).2.get? name = (remote? client tools name).or
      (if startsWith (Tool.serverMark client.name) name then none else b.get? name) := by
  rw [adopt, get?_registerAll, get?_unregisterPrefix]

/-- Putting the tools of a server on a bus changes nothing under names without its mark. -/
theorem get?_adopt_of_outside {client : ClientRef} {name : String}
    (hout : startsWith (Tool.serverMark client.name) name = false) (b : ToolBus (BusHandler κ))
    (tools : List Tool) : (b.adopt client tools).2.get? name = b.get? name := by
  rw [get?_adopt, remote?_of_outside hout, hout]
  rfl

/-- Under names with the mark of a server, only its tools are found after they were put on a bus. -/
theorem get?_adopt_of_inside {client : ClientRef} {name : String}
    (hin : startsWith (Tool.serverMark client.name) name = true) (b : ToolBus (BusHandler κ))
    (tools : List Tool) : (b.adopt client tools).2.get? name = remote? client tools name := by
  rw [get?_adopt, hin, if_pos rfl, Option.or_none]

end ToolBus

end ToolRelay
