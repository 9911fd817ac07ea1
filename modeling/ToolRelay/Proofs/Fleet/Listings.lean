import Mathlib.Data.List.Nodup
import ToolRelay.Proofs.Fleet.Sessions
import ToolRelay.Proofs.Text.ByteOrder

/-!
# What a fleet lists

A fleet lists the servers that run, and the tools of all of them. The clients that run are kept in
no order that means anything, and yet the lists depend only on which clients these are: they are
sorted by name, sorting keeps the order of entries of the same name, and without dots in the names
of servers entries of the same name are the tools of one client, in the order in which it keeps
them.

## Main definitions

* `sortedBy`: a list in the order of keys, with the order among the same keys kept.
* `Fleet.toolInfos`: the tools that connected clients keep.

## Main results

* `sortedBy_congr`: what sorting comes to depends only on the entries of each key.
* `flatMap_eq_of_perm`: where only one part has entries, the order of the parts does not matter.
* `Fleet.listings_of_running`: the lists as functions of the clients that run.
-/

namespace ToolRelay

/-! ## Sorting by a key -/

section Sorting

variable {α β : Type} {key : α → String} {l l' : List α}

/-- A list in the order of its keys. Entries of the same key stay in the order they have. -/
def sortedBy (key : α → String) (l : List α) : List α :=
  l.mergeSort fun a b => decide (key a ≤ key b)

theorem le_key_trans (key : α → String) (a b c : α) (hab : decide (key a ≤ key b) = true)
    (hbc : decide (key b ≤ key c) = true) : decide (key a ≤ key c) = true :=
  decide_eq_true (le_trans (of_decide_eq_true hab) (of_decide_eq_true hbc))

theorem le_key_total (key : α → String) (a b : α) :
    (decide (key a ≤ key b) || decide (key b ≤ key a)) = true := by
  simpa using le_total (key a) (key b)

theorem sortedBy_perm (key : α → String) (l : List α) : (sortedBy key l).Perm l :=
  List.mergeSort_perm l _

theorem pairwise_sortedBy (key : α → String) (l : List α) :
    (sortedBy key l).Pairwise fun a b => key a ≤ key b := by
  have hpairwise : (sortedBy key l).Pairwise fun a b => decide (key a ≤ key b) = true :=
    List.pairwise_mergeSort (le_key_trans key) (le_key_total key) l
  exact hpairwise.imp of_decide_eq_true

/-- Sorting keeps the entries of one key as they are. -/
theorem filter_sortedBy (key : α → String) (l : List α) (k : String) :
    (sortedBy key l).filter (key · = k) = l.filter (key · = k) := by
  have hkey {a : α} (ha : a ∈ l.filter (key · = k)) : key a = k := by
    simpa using (List.mem_filter.1 ha).2
  have hsame : (l.filter (key · = k)).Pairwise fun a b => decide (key a ≤ key b) = true :=
    List.pairwise_of_forall_mem_list fun a ha b hb => by simp [hkey ha, hkey hb]
  -- sorting is stable: a part that is sorted already stays a part
  have hsub : (l.filter (key · = k)).Sublist (sortedBy key l) :=
    List.sublist_mergeSort (le_key_trans key) (le_key_total key) hsame List.filter_sublist
  have hfiltered := hsub.filter (key · = k)
  simp only [List.filter_filter, Bool.and_self] at hfiltered
  exact (hfiltered.eq_of_length ((sortedBy_perm key l).filter _).length_eq.symm).symm

/-- A sorted list is determined by its entries of each key. -/
theorem eq_of_filter_key (h : l.Pairwise fun a b => key a ≤ key b)
    (h' : l'.Pairwise fun a b => key a ≤ key b)
    (hfilter : ∀ k, l.filter (key · = k) = l'.filter (key · = k)) : l = l' := by
  have hmem {m m' : List α} (hm : ∀ k, m.filter (key · = k) = m'.filter (key · = k)) {a : α}
      (ha : a ∈ m) : a ∈ m' := by
    have hfront : a ∈ m'.filter (key · = key a) := by
      rw [← hm]
      simpa using ha
    exact (List.mem_filter.1 hfront).1
  induction l generalizing l' with
  | nil =>
    cases l' with
    | nil => rfl
    | cons b rest' => cases hmem (fun k => (hfilter k).symm) List.mem_cons_self
  | cons a rest ih =>
    cases l' with
    | nil => cases hmem hfilter List.mem_cons_self
    | cons b rest' =>
      -- both have a first entry of the least key, and of that key it is the first
      have hkey : key a = key b := by
        apply le_antisymm
        · rcases List.mem_cons.1 (hmem (fun k => (hfilter k).symm) List.mem_cons_self) with rfl | hb
          · exact le_rfl
          · exact (List.pairwise_cons.1 h).1 b hb
        · rcases List.mem_cons.1 (hmem hfilter List.mem_cons_self) with rfl | ha
          · exact le_rfl
          · exact (List.pairwise_cons.1 h').1 a ha
      have hfirst := hfilter (key a)
      simp only [List.filter_cons, hkey, decide_true, if_true] at hfirst
      obtain ⟨rfl, -⟩ := List.cons.inj hfirst
      congr 1
      refine ih (List.pairwise_cons.1 h).2 (List.pairwise_cons.1 h').2 fun k => ?_
      have hk := hfilter k
      rw [List.filter_cons, List.filter_cons] at hk
      split_ifs at hk
      · exact (List.cons.inj hk).2
      · exact hk

/-- What sorting comes to depends only on the entries of each key. -/
theorem sortedBy_congr (h : ∀ k, l.filter (key · = k) = l'.filter (key · = k)) :
    sortedBy key l = sortedBy key l' := by
  refine eq_of_filter_key (pairwise_sortedBy key l) (pairwise_sortedBy key l') fun k => ?_
  rw [filter_sortedBy, filter_sortedBy, h]

/-- Where no two parts have entries, the order of the parts does not matter. -/
theorem flatMap_eq_of_perm {g : α → List β} (hp : l.Perm l')
    (h : l.Pairwise fun a b => g a = [] ∨ g b = []) : l.flatMap g = l'.flatMap g := by
  induction hp with
  | nil => rfl
  | cons a _ ih =>
    rw [List.flatMap_cons, List.flatMap_cons, ih (List.pairwise_cons.1 h).2]
  | swap a b l =>
    rcases (List.pairwise_cons.1 h).1 a List.mem_cons_self with hb | ha
    · simp [hb]
    · simp [ha]
  | trans hp _ ih ih' => exact (ih h).trans (ih' ((hp.pairwise_iff Or.symm).1 h))

end Sorting

namespace Fleet

variable {τ : Type} [Inhabited τ] {T : Transport τ} {link : Entry → Except Failure τ} {f : Fleet τ}

/-! ## Tools of all servers -/

/-- The tools that connected clients keep, in the order in which these run. -/
def toolInfos (T : Transport τ) (f : Fleet τ) : List ToolInfo :=
  (f.live T).flatMap fun c => (f.clientAt c.handle).cache.tools.map (ToolInfo.of c.name)

theorem run_listAllTools (T : Transport τ) (link : Entry → Except Failure τ) (f : Fleet τ) :
    Fleet.run T link listAllTools f = (sortedBy (·.name) (f.toolInfos T), f) := by
  have hlive : act T link .list f = (f.live T, f) := rfl
  rw [listAllTools, run_perform_bind, hlive, run_bind, run_mapM_toolsOf, run_pure, toolInfos,
    List.flatMap_def]
  rfl

/-- The names of servers tell the names of their tools apart. -/
theorem server_eq_of_name {c c' : ClientRef} (hc : c.name.contains '.' = false)
    (hc' : c'.name.contains '.' = false) {t t' : Tool}
    (h : (ToolInfo.of c.name t).name = (ToolInfo.of c'.name t').name) : c.name = c'.name := by
  have hname : Tool.qualifiedName c.name t.name = Tool.qualifiedName c'.name t'.name := h
  have hmark := Tool.startsWith_serverMark c'.name t'.name
  rw [← hname] at hmark
  exact Tool.server_eq_of_mark hc hc' hmark

/-- Of two clients, at most one has tools of a name. -/
theorem pairwise_toolsNamed (hf : f.Tidy)
    (hdots : ∀ c ∈ f.running, c.name.contains '.' = false) (name : String) :
    (f.live T).Pairwise fun c c' =>
      ((f.clientAt c.handle).cache.tools.map (ToolInfo.of c.name)).filter (·.name = name) = [] ∨
        ((f.clientAt c'.handle).cache.tools.map (ToolInfo.of c'.name)).filter (·.name = name) =
          [] := by
  have hnames : (f.live T).Pairwise fun c c' => c.name ≠ c'.name :=
    List.pairwise_map.1 (hf.nodup_live T)
  refine hnames.imp_of_mem fun {c c'} hc hc' hne => ?_
  -- a tool of each under the name would make it start with the marks of two servers
  by_contra hboth
  rw [not_or] at hboth
  obtain ⟨info, hinfo⟩ := List.exists_mem_of_ne_nil _ hboth.1
  obtain ⟨info', hinfo'⟩ := List.exists_mem_of_ne_nil _ hboth.2
  simp only [List.mem_filter, List.mem_map, decide_eq_true_eq] at hinfo hinfo'
  obtain ⟨⟨t, -, rfl⟩, rfl⟩ := hinfo
  obtain ⟨⟨t', -, rfl⟩, hname⟩ := hinfo'
  exact hne (server_eq_of_name (hdots c (List.mem_filter.1 hc).1)
    (hdots c' (List.mem_filter.1 hc').1) hname.symm)

/-- The tools of a name are those of the client that has the name's server, in the order in which it
keeps them. -/
theorem filter_toolInfos (hf : f.Tidy) (hdots : ∀ c ∈ f.running, c.name.contains '.' = false)
    {c : ClientRef} (hc : c ∈ f.live T) (tool : String) :
    (f.toolInfos T).filter (·.name = Tool.qualifiedName c.name tool) =
      ((f.clientAt c.handle).cache.tools.filter (·.name = tool)).map (ToolInfo.of c.name) := by
  have hown : ((f.clientAt c.handle).cache.tools.map (ToolInfo.of c.name)).filter
      (·.name = Tool.qualifiedName c.name tool) =
        ((f.clientAt c.handle).cache.tools.filter (·.name = tool)).map (ToolInfo.of c.name) := by
    rw [List.filter_map]
    congr 2
    funext t
    have hiff : (ToolInfo.of c.name t).name = Tool.qualifiedName c.name tool ↔ t.name = tool :=
      ⟨Tool.qualifiedName_inj, fun h => congrArg (Tool.qualifiedName c.name) h⟩
    simp only [Function.comp_apply, hiff]
  have hothers : ∀ c' ∈ (f.live T).erase c,
      ((f.clientAt c'.handle).cache.tools.map (ToolInfo.of c'.name)).filter
        (·.name = Tool.qualifiedName c.name tool) = [] := by
    intro c' hc'
    have hnodup : (f.live T).Nodup := (hf.nodup_live T).of_map
    have hlive' := List.mem_of_mem_erase hc'
    refine List.filter_eq_nil_iff.2 fun info hinfo hname => ?_
    obtain ⟨t, -, rfl⟩ := List.mem_map.1 hinfo
    have hsame : c.name = c'.name :=
      server_eq_of_name (t := { name := tool }) (hdots c (List.mem_filter.1 hc).1)
        (hdots c' (List.mem_filter.1 hlive').1) (of_decide_eq_true hname).symm
    have heq : c' = c := List.inj_on_of_nodup_map hf.nodup (List.mem_filter.1 hlive').1
      (List.mem_filter.1 hc).1 hsame.symm
    exact hnodup.not_mem_erase (heq ▸ hc')
  -- this client may as well be the first
  rw [toolInfos, List.filter_flatMap]
  rw [flatMap_eq_of_perm (List.perm_cons_erase hc) (pairwise_toolsNamed hf hdots _),
    List.flatMap_cons, List.flatMap_eq_nil_iff.2 hothers, hown, List.append_nil]

/-- The tools of all servers do not depend on the order in which clients run. -/
theorem sortedBy_toolInfos_perm (hf : f.Tidy)
    (hdots : ∀ c ∈ f.running, c.name.contains '.' = false) {running : List ClientRef}
    (hp : running.Perm f.running) :
    sortedBy (·.name) (({ f with running } : Fleet τ).toolInfos T) =
      sortedBy (·.name) (f.toolInfos T) := by
  -- under each name there are the tools of one client, wherever it stands
  refine sortedBy_congr fun name => ?_
  have hlive : (f.live T).Perm (({ f with running } : Fleet τ).live T) := hp.symm.filter _
  rw [toolInfos, toolInfos, List.filter_flatMap, List.filter_flatMap]
  exact (flatMap_eq_of_perm hlive (pairwise_toolsNamed hf hdots name)).symm

/-! ## The lists of a fleet -/

/-- What a fleet lists, whichever way its clients run: they may run in any order, be connected or
not, and keep any tools, as long as each of them is there under its own name, each name runs once,
and no name has a dot.

Listing changes nothing, and the lists are the same for every order in which the clients run. The
tools of all servers are sorted by the bytes of their names, and there is one entry for each tool
that a connected client keeps, in the order in which it keeps them among entries of the same name;
none is that of a client that is not connected. The servers that run are the names of the connected
clients, strictly increasing by their bytes. -/
theorem listings_of_running (T : Transport τ) (link : Entry → Except Failure τ) (hf : f.Tidy)
    (hdots : ∀ c ∈ f.running, c.name.contains '.' = false) :
    let tools := Fleet.run T link listAllTools f
    let names := Fleet.run T link listRunning f
    (tools.2 = f ∧ names.2 = f) ∧
      (∀ running, running.Perm f.running →
        (Fleet.run T link listAllTools { f with running }).1 = tools.1 ∧
          (Fleet.run T link listRunning { f with running }).1 = names.1) ∧
      tools.1.Pairwise (fun a b => Text.utf8Bytes a.name.toList ≤ Text.utf8Bytes b.name.toList) ∧
      tools.1.Perm ((f.live T).flatMap fun c => (f.clientAt c.handle).toolInfos) ∧
      (∀ c ∈ f.live T, ∀ tool, tools.1.filter (·.name = Tool.qualifiedName c.name tool) =
        ((f.clientAt c.handle).cache.tools.filter (·.name = tool)).map (ToolInfo.of c.name)) ∧
      (∀ c ∈ f.running, f.isUp T c = false → ∀ info ∈ tools.1, info.server ≠ c.name) ∧
      names.1.Pairwise (fun a b => Text.utf8Bytes a.toList < Text.utf8Bytes b.toList) ∧
      ∀ name, name ∈ names.1 ↔ ∃ c ∈ f.running, c.name = name ∧ f.isUp T c = true := by
  intro tools names
  have htools : tools = (sortedBy (·.name) (f.toolInfos T), f) := run_listAllTools T link f
  have hlisted : names = (sortedBy id ((f.live T).map (·.name)), f) := run_listRunning T link f
  rw [htools, hlisted]
  refine ⟨⟨rfl, rfl⟩, fun running hp => ⟨?_, ?_⟩, ?_, ?_, fun c hc tool => ?_, fun c hc hdown => ?_,
    ?_, fun name => ?_⟩
  · rw [run_listAllTools]
    exact sortedBy_toolInfos_perm hf hdots hp
  · -- two sorted lists of the same names are the same
    have hperm : (({ f with running } : Fleet τ).live T).Perm (f.live T) := hp.filter _
    refine List.Perm.eq_of_pairwise (fun a b _ _ hab hba => le_antisymm hab hba)
      (pairwise_sortedBy id _) (pairwise_sortedBy id _) ?_
    exact (sortedBy_perm id _).trans ((hperm.map _).trans (sortedBy_perm id _).symm)
  · exact (pairwise_sortedBy ToolInfo.name _).imp fun h => Text.le_iff_utf8Bytes.1 h
  · refine (sortedBy_perm _ _).trans (List.Perm.of_eq ?_)
    refine List.flatMap_congr fun c hc => ?_
    obtain ⟨client, hclient, hname⟩ := hf.named c (List.mem_filter.1 hc).1
    rw [clientAt_of_getElem? hclient, Client.toolInfos, hname]
  · rw [filter_sortedBy]
    exact filter_toolInfos hf hdots hc tool
  · intro info hinfo hserver
    obtain ⟨c', hc', hinfo'⟩ := List.mem_flatMap.1 ((sortedBy_perm _ _).mem_iff.1 hinfo)
    obtain ⟨t, -, rfl⟩ := List.mem_map.1 hinfo'
    obtain ⟨hrunning, hup⟩ := List.mem_filter.1 hc'
    obtain rfl : c' = c := List.inj_on_of_nodup_map hf.nodup hrunning hc hserver
    exact absurd (hdown.symm.trans hup) Bool.false_ne_true
  · have hnodup : (sortedBy id ((f.live T).map (·.name))).Nodup :=
      (sortedBy_perm id _).nodup_iff.2 (hf.nodup_live T)
    refine ((pairwise_sortedBy id _).and hnodup).imp fun hle => ?_
    exact Text.lt_iff_utf8Bytes.1 (lt_of_le_of_ne hle.1 hle.2)
  · rw [(sortedBy_perm id _).mem_iff]
    simp [live, and_comm, and_left_comm]

/-- Two tools of one name. -/
def twins : List Tool :=
  [{ name := "x", description := "one" }, { name := "x", description := "two" }]

/-- Two connected clients, of which one keeps two tools of one name, and one that is not connected.
-/
def listedFleet : Fleet Unit where
  clients :=
    [{ name := "b", link := (), cache := { connected := true, tools := twins } },
      { name := "c", link := (), cache := { tools := [{ name := "y" }] } },
      { name := "a", link := (), cache := { connected := true, tools := [{ name := "x.y" }] } }]
  running := [⟨0, "b"⟩, ⟨1, "c"⟩, ⟨2, "a"⟩]

/-- All three tools of the connected clients are listed, the two of one name as they are kept, and
the order in which the clients run makes no difference. -/
theorem listings_of_listedFleet :
    let tools (f : Fleet Unit) :=
      (Fleet.run politeTransport (fun _ => .ok ()) listAllTools f).1
    let names := (Fleet.run politeTransport (fun _ => .ok ()) listRunning listedFleet).1
    (tools listedFleet).length = 3 ∧
      (tools listedFleet).filter (·.name = "mcp.b.x") = twins.map (ToolInfo.of "b") ∧
      tools { listedFleet with running := listedFleet.running.reverse } = tools listedFleet ∧
      "a" ∈ names ∧ "c" ∉ names := by
  have htidy : listedFleet.Tidy := ⟨by decide, by simp [listedFleet]⟩
  have hdots : ∀ c ∈ listedFleet.running, c.name.contains '.' = false := by simp [listedFleet]
  obtain ⟨-, horder, -, hperm, hkept, -, -, hnames⟩ :=
    listings_of_running politeTransport (fun _ => .ok ()) htidy hdots
  intro tools names
  refine ⟨hperm.length_eq.trans (by decide +kernel), ?_, (horder _ (List.reverse_perm _)).1, ?_, ?_⟩
  · exact (hkept ⟨0, "b"⟩ (by decide) "x").trans (by decide +kernel)
  · exact (hnames "a").2 (by decide)
  · exact fun hmem => absurd ((hnames "c").1 hmem) (by decide)

end Fleet

end ToolRelay
