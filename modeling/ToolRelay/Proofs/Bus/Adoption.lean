import Mathlib.Data.List.Dedup
import Mathlib.Data.List.Sort
import ToolRelay.Proofs.Bus.Paths
import ToolRelay.Proofs.Fleet.Gathering

/-!
# The tools of a server on a bus

A bus is kept in the order of the names of its tools, each name once, so that it is determined by
what is found under each name. Putting the tools of a server on a bus leaves exactly these tools
under the names with the server's mark, of several tools of one name the last, and nothing else
changes. It follows that doing so once more changes nothing, and that it does not matter in which
order this is done for two servers.

## Main definitions

* `ToolBus.Ordered`: the tools are in the order of their names, each name once.
* `ToolBus.under`: the names on a bus with the mark of a server.

## Main results

* `ToolBus.Ordered.ext`: a bus is determined by what is found on it.
* `ToolBus.adopt_adopt`, `ToolBus.adopt_adopt_comm`: putting tools on a bus twice.
* `ToolBus.length_under_adopt`: how many names a server has on a bus.
* `Fleet.registration_confined`: what putting the tools of a client on a bus does.
-/

namespace ToolRelay

namespace ToolBus

variable {κ : Type} {b b' : ToolBus κ} {t t' : BusTool κ}

/-! ## Order -/

/-- The tools are in the order of their names, each name once. -/
def Ordered (b : ToolBus κ) : Prop := b.tools.Pairwise fun t t' => t.name < t'.name

theorem ordered_empty : ({} : ToolBus κ).Ordered := .nil

theorem mem_insertTool {ts : List (BusTool κ)} (h : t' ∈ insertTool t ts) : t' = t ∨ t' ∈ ts := by
  induction ts with
  | nil => exact .inl (List.mem_singleton.1 h)
  | cons t₁ rest ih =>
    rw [insertTool] at h
    split_ifs at h with hlt heq
    · exact List.mem_cons.1 h
    · exact (List.mem_cons.1 h).imp id (List.mem_cons_of_mem _)
    · rcases List.mem_cons.1 h with rfl | hrest
      · exact .inr List.mem_cons_self
      · exact (ih hrest).imp id (List.mem_cons_of_mem _)

/-- A tool is put where the order wants it. -/
theorem Ordered.register (h : b.Ordered) (t : BusTool κ) : (b.register t).2.Ordered := by
  obtain ⟨ts⟩ := b
  change (insertTool t ts).Pairwise _
  -- the tool goes before the first one that is not below it, or takes its place
  induction ts with
  | nil => exact List.pairwise_singleton _ _
  | cons t₁ rest ih =>
    obtain ⟨hbelow, hrest⟩ := List.pairwise_cons.1 h
    rw [insertTool]
    split_ifs with hlt heq
    · refine List.pairwise_cons.2 ⟨fun t₂ ht₂ => ?_, h⟩
      rcases List.mem_cons.1 ht₂ with rfl | ht₂
      · exact hlt
      · exact String.lt_trans hlt (hbelow t₂ ht₂)
    · exact List.pairwise_cons.2 ⟨fun t₂ ht₂ => heq ▸ hbelow t₂ ht₂, hrest⟩
    · refine List.pairwise_cons.2 ⟨fun t₂ ht₂ => ?_, ih hrest⟩
      rcases mem_insertTool ht₂ with rfl | ht₂
      · -- what is neither below the tool nor has its name is above it
        by_contra hgt
        exact heq (String.le_antisymm (String.not_lt.1 hgt) (String.not_lt.1 hlt))
      · exact hbelow t₂ ht₂

theorem Ordered.unregister (h : b.Ordered) (name : String) : (b.unregister name).2.Ordered :=
  h.filter _

theorem Ordered.unregisterPrefix (h : b.Ordered) (start : String) :
    (b.unregisterPrefix start).2.Ordered :=
  h.filter _

/-- A tool of an ordered bus is the one that is found under its name. -/
theorem Ordered.mem_tools_iff (h : b.Ordered) : t ∈ b.tools ↔ b.get? t.name = some t := by
  refine ⟨fun ht => ?_, List.mem_of_find?_eq_some⟩
  obtain ⟨ts⟩ := b
  change ts.find? _ = some t
  induction ts with
  | nil => cases ht
  | cons t₁ rest ih =>
    obtain ⟨hbelow, hrest⟩ := List.pairwise_cons.1 h
    rcases List.mem_cons.1 ht with rfl | ht
    · exact List.find?_cons_of_pos (beq_self_eq_true _)
    · -- a tool that comes later has another name
      have hne : t₁.name ≠ t.name := String.ne_of_lt (hbelow t ht)
      rw [List.find?_cons_of_neg (by simpa using hne)]
      exact ih hrest ht

/-- A bus is determined by what is found on it. -/
theorem Ordered.ext (h : b.Ordered) (h' : b'.Ordered) (hget : ∀ name, b.get? name = b'.get? name) :
    b = b' := by
  have hmem : ∀ t, t ∈ b.tools ↔ t ∈ b'.tools := fun t => by
    rw [h.mem_tools_iff, h'.mem_tools_iff, hget]
  have hirrefl : Std.Irrefl fun t t' : BusTool κ => t.name < t'.name :=
    ⟨fun t => String.lt_irrefl t.name⟩
  have hantisymm : Std.Antisymm fun t t' : BusTool κ => t.name < t'.name :=
    ⟨fun t t' hlt hgt => absurd hlt (String.lt_asymm hgt)⟩
  obtain ⟨ts⟩ := b
  obtain ⟨ts'⟩ := b'
  exact congrArg ToolBus.mk (List.Pairwise.eq_of_mem_iff h h' hmem)

/-- A name is on a bus if something is found under it. -/
theorem mem_names_iff {name : String} : name ∈ b.names ↔ b.contains name = true := by
  rw [names, List.mem_map, contains, get?, List.find?_isSome]
  simp only [beq_iff_eq]

theorem Ordered.nodup_names (h : b.Ordered) : b.names.Nodup :=
  List.pairwise_map.2 (List.Pairwise.imp (fun hlt => String.ne_of_lt hlt) h)

/-- The names on a bus with the mark of a server. -/
def under (b : ToolBus κ) (server : String) : List String :=
  b.names.filter (startsWith (Tool.serverMark server))

end ToolBus

/-! ## Tools of a server -/

namespace ToolBus

variable {κ : Type} {b : ToolBus (BusHandler κ)} {c c' : ClientRef} {tools tools' : List Tool}
  {name : String}

theorem Ordered.adopt (h : b.Ordered) (c : ClientRef) (tools : List Tool) :
    (b.adopt c tools).2.Ordered := by
  have hkept := h.unregisterPrefix (Tool.serverMark c.name)
  unfold ToolBus.adopt
  generalize (b.unregisterPrefix (Tool.serverMark c.name)).2 = kept at hkept
  induction tools generalizing kept with
  | nil => exact hkept
  | cons t rest ih => exact ih _ (hkept.register _)

/-- Under the name of a tool the last tool of this name is found. -/
theorem remote?_qualifiedName (c : ClientRef) (tools : List Tool) (name : String) :
    (remote? c tools (Tool.qualifiedName c.name name) : Option (BusTool (BusHandler κ))) =
      (tools.reverse.find? (·.name == name)).map (.remote c) := by
  have hname : ∀ t : Tool, (Tool.qualifiedName c.name t.name == Tool.qualifiedName c.name name) =
      (t.name == name) := fun t => by
    rw [Bool.eq_iff_iff, beq_iff_eq, beq_iff_eq]
    exact ⟨Tool.qualifiedName_inj, congrArg _⟩
  simp only [remote?, hname]

/-- A tool that no other of its name follows is the last of its name. -/
theorem find?_reverse_of_last {before after : List Tool} {t : Tool}
    (h : ∀ t' ∈ after, t'.name ≠ t.name) :
    (before ++ t :: after).reverse.find? (·.name == t.name) = some t := by
  have hafter : after.reverse.find? (·.name == t.name) = none :=
    List.find?_eq_none.2 fun t' ht' => by simpa using h t' (List.mem_reverse.1 ht')
  rw [List.reverse_append, List.reverse_cons, List.append_assoc, List.find?_append, hafter,
    Option.none_or]
  exact List.find?_cons_of_pos (beq_self_eq_true _)

theorem get?_adopt_qualifiedName (b : ToolBus (BusHandler κ)) (c : ClientRef) (tools : List Tool)
    (name : String) :
    (b.adopt c tools).2.get? (Tool.qualifiedName c.name name) =
      (tools.reverse.find? (·.name == name)).map (.remote c) := by
  rw [get?_adopt_of_inside (Tool.startsWith_serverMark _ _), remote?_qualifiedName]

/-- A server has the names of its tools on a bus, and no others. -/
theorem mem_under_adopt :
    name ∈ (b.adopt c tools).2.under c.name ↔
      ∃ t ∈ tools, name = Tool.qualifiedName c.name t.name := by
  rw [under, List.mem_filter, mem_names_iff, contains]
  constructor
  · rintro ⟨hfound, hin⟩
    rw [get?_adopt_of_inside hin, remote?, Option.isSome_map, List.find?_isSome] at hfound
    obtain ⟨t, ht, hname⟩ := hfound
    exact ⟨t, List.mem_reverse.1 ht, (beq_iff_eq.1 hname).symm⟩
  · rintro ⟨t, ht, rfl⟩
    refine ⟨?_, Tool.startsWith_serverMark _ _⟩
    rw [get?_adopt_qualifiedName, Option.isSome_map, List.find?_isSome]
    exact ⟨t, List.mem_reverse.2 ht, beq_self_eq_true _⟩

/-- Tools that are put on a bus later take the place of those that their server had there. -/
theorem adopt_adopt (h : b.Ordered) (c : ClientRef) (tools tools' : List Tool) :
    (b.adopt c tools).2.adopt c tools' = b.adopt c tools' := by
  refine Prod.ext rfl (((h.adopt c tools).adopt c tools').ext (h.adopt c tools') fun name => ?_)
  rcases hin : startsWith (Tool.serverMark c.name) name
  · rw [get?_adopt_of_outside hin, get?_adopt_of_outside hin, get?_adopt_of_outside hin]
  · rw [get?_adopt_of_inside hin, get?_adopt_of_inside hin]

/-- A name with the mark of a server is the name of one of its tools. -/
theorem exists_eq_qualifiedName {server : String}
    (h : startsWith (Tool.serverMark server) name = true) :
    ∃ tool, name = Tool.qualifiedName server tool := by
  rw [startsWith, List.isPrefixOf_iff_prefix] at h
  obtain ⟨tool, htool⟩ := h
  refine ⟨String.ofList tool, String.toList_injective ?_⟩
  rw [Tool.qualifiedName_toList, String.toList_ofList, htool]

/-- A name has the mark of one server without a dot in its name only. -/
theorem outside_of_ne {server other : String} (hserver : server.contains '.' = false)
    (hother : other.contains '.' = false) (hne : other ≠ server)
    (h : startsWith (Tool.serverMark other) name = true) :
    startsWith (Tool.serverMark server) name = false := by
  obtain ⟨tool, rfl⟩ := exists_eq_qualifiedName h
  rw [← Bool.not_eq_true]
  exact fun hmark => hne (Tool.server_eq_of_mark hother hserver hmark)

/-- It does not matter in which order the tools of two servers are put on a bus. -/
theorem adopt_adopt_comm (h : b.Ordered) (hc : c.name.contains '.' = false)
    (hc' : c'.name.contains '.' = false) (hne : c'.name ≠ c.name) (tools tools' : List Tool) :
    ((b.adopt c tools).2.adopt c' tools').2 = ((b.adopt c' tools').2.adopt c tools).2 := by
  refine ((h.adopt c tools).adopt c' tools').ext ((h.adopt c' tools').adopt c tools) fun name => ?_
  rcases hin : startsWith (Tool.serverMark c.name) name
  · -- what is found here is for the other server to say
    rw [get?_adopt_of_outside hin]
    rcases hin' : startsWith (Tool.serverMark c'.name) name
    · rw [get?_adopt_of_outside hin', get?_adopt_of_outside hin', get?_adopt_of_outside hin]
    · rw [get?_adopt_of_inside hin', get?_adopt_of_inside hin']
  · have hout := outside_of_ne hc' hc hne.symm hin
    rw [get?_adopt_of_outside hout, get?_adopt_of_inside hin, get?_adopt_of_inside hin]

/-- A server has as many names on a bus as its tools have. -/
theorem length_under_adopt (h : b.Ordered) (c : ClientRef) (tools : List Tool) :
    ((b.adopt c tools).2.under c.name).length = (tools.map (·.name)).dedup.length := by
  have hnodup : ((tools.map (·.name)).dedup.map (Tool.qualifiedName c.name)).Nodup :=
    (List.nodup_dedup _).map fun _ _ => Tool.qualifiedName_inj
  -- both lists have each name once, and the same names
  have hperm : ((b.adopt c tools).2.under c.name).Perm
      ((tools.map (·.name)).dedup.map (Tool.qualifiedName c.name)) := by
    have hunder : ((b.adopt c tools).2.under c.name).Nodup := (h.adopt c tools).nodup_names.filter _
    refine (List.perm_ext_iff_of_nodup hunder hnodup).2 fun name => ?_
    rw [mem_under_adopt]
    simp [eq_comm]
  rw [hperm.length_eq, List.length_map]

/-- A server has a name for each of its tools on a bus if no two tools have the same name. -/
theorem length_under_adopt_eq_iff (h : b.Ordered) (c : ClientRef) (tools : List Tool) :
    ((b.adopt c tools).2.under c.name).length = tools.length ↔ (tools.map (·.name)).Nodup := by
  have hnames : (tools.map (·.name)).length = tools.length := List.length_map _
  rw [length_under_adopt h, ← hnames]
  constructor
  · intro hlength
    exact List.dedup_eq_self.1 ((List.dedup_sublist _).eq_of_length hlength)
  · intro hnodup
    rw [List.dedup_eq_self.2 hnodup]

end ToolBus

namespace Fleet

variable {τ κ : Type} [Inhabited τ]

/-- What registering the tools of a client does. It leaves exactly these tools on the bus under the
names with the mark of the server, and of several tools of one name the last, which is run by the
client. All that is found under other names stays. Registering once more does nothing, and the order
does not matter for servers of different names. -/
theorem registration_confined (T : Transport τ) (link : Entry → Except Failure τ) (f : Fleet τ)
    {b : ToolBus (BusHandler κ)} (hb : b.Ordered) (c : ClientRef)
    (hc : c.name.contains '.' = false) :
    let tools := (f.clientAt c.handle).cache.tools
    let r := Fleet.run T link (registerTools b c) f
    let b' := r.1.2
    r.1.1 = tools.length ∧ r.2 = f ∧ b'.Ordered ∧
      (∀ name, name ∈ b'.under c.name ↔ ∃ t ∈ tools, name = Tool.qualifiedName c.name t.name) ∧
      (∀ before t after, tools = before ++ t :: after → (∀ t' ∈ after, t'.name ≠ t.name) →
        b'.get? (Tool.qualifiedName c.name t.name) = some
          { name := Tool.qualifiedName c.name t.name, description := t.description
            schema := t.inputSchema, handler := .remote c t.name }) ∧
      (∀ name, ToolBus.startsWith (Tool.serverMark c.name) name = false →
        b'.get? name = b.get? name) ∧
      (∀ other tool, other.contains '.' = false → other ≠ c.name →
        b'.get? (Tool.qualifiedName other tool) = b.get? (Tool.qualifiedName other tool)) ∧
      Fleet.run T link (registerTools b' c) f = r ∧
      (∀ c', c'.name.contains '.' = false → c'.name ≠ c.name →
        (Fleet.run T link (registerTools b' c') f).1.2 =
          (Fleet.run T link
            (registerTools (Fleet.run T link (registerTools b c') f).1.2 c) f).1.2) := by
  intro tools r b'
  have hr : r = (b.adopt c tools, f) := run_registerTools T link b c f
  have hb' : b' = (b.adopt c tools).2 := congrArg (·.1.2) hr
  rw [hb', hr]
  refine ⟨rfl, rfl, hb.adopt c tools, fun name => ToolBus.mem_under_adopt, ?_,
    fun name hout => ToolBus.get?_adopt_of_outside hout b tools, ?_, ?_, ?_⟩
  · intro before t after htools hlast
    rw [ToolBus.get?_adopt_qualifiedName, htools, ToolBus.find?_reverse_of_last hlast]
    rfl
  · intro other tool hother hne
    have hmark := Tool.startsWith_serverMark other tool
    exact ToolBus.get?_adopt_of_outside (ToolBus.outside_of_ne hc hother hne hmark) b tools
  · rw [run_registerTools, ToolBus.adopt_adopt hb]
  · intro c' hc' hne
    rw [run_registerTools, run_registerTools, run_registerTools]
    exact ToolBus.adopt_adopt_comm hb hc hc' hne _ _

/-- A fleet of two servers, the name of one being the front of that of the other. -/
def neighbours : Fleet Unit where
  clients :=
    [{ name := "a", link := ()
       cache := { tools := [{ name := "x.y", description := "old" },
         { name := "x.y", description := "new" }] } },
      { name := "ab", link := (), cache := { tools := [{ name := "v" }] } }]

/-- A bus with tools of both servers. -/
def sharedBus : ToolBus (BusHandler Unit) :=
  ((({} : ToolBus _).adopt ⟨0, "a"⟩ [{ name := "gone" }]).2.adopt ⟨1, "ab"⟩ [{ name := "u" }]).2

/-- The tool that the server has no longer goes, of two tools of one name the last stays, and the
tools of the server whose name begins alike are as before. -/
theorem registration_confined_of_neighbours :
    let link : Entry → Except Failure Unit := fun _ => .ok ()
    let r := Fleet.run politeTransport link (registerTools sharedBus ⟨0, "a"⟩) neighbours
    let s := Fleet.run politeTransport link (registerTools sharedBus ⟨1, "ab"⟩) neighbours
    sharedBus.Ordered ∧ "a".contains '.' = false ∧ "ab".contains '.' = false ∧
      r.1.2.under "a" = ["mcp.a.x.y"] ∧
      (r.1.2.get? "mcp.a.x.y").map (·.description) = some "new" ∧
      r.1.2.get? "mcp.ab.u" = sharedBus.get? "mcp.ab.u" ∧
      Fleet.run politeTransport link (registerTools r.1.2 ⟨0, "a"⟩) neighbours = r ∧
      (Fleet.run politeTransport link (registerTools r.1.2 ⟨1, "ab"⟩) neighbours).1.2 =
        (Fleet.run politeTransport link (registerTools s.1.2 ⟨0, "a"⟩) neighbours).1.2 := by
  intro link r s
  have hb : sharedBus.Ordered :=
    (ToolBus.ordered_empty.adopt ⟨0, "a"⟩ [{ name := "gone" }]).adopt ⟨1, "ab"⟩ [{ name := "u" }]
  have ha : "a".contains '.' = false := by simp
  have hab : "ab".contains '.' = false := by simp
  obtain ⟨-, -, -, -, hlast, -, hother, hagain, hcomm⟩ :=
    registration_confined politeTransport link neighbours hb ⟨0, "a"⟩ ha
  have hnew := hlast [{ name := "x.y", description := "old" }]
    { name := "x.y", description := "new" } [] rfl (by simp)
  exact ⟨hb, ha, hab, by decide +kernel, congrArg (Option.map (·.description)) hnew,
    hother "ab" "u" hab (by decide), hagain, hcomm ⟨1, "ab"⟩ hab (by decide)⟩

end Fleet

end ToolRelay
