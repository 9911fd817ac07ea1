import ToolRelay.Proofs.Server.Written
import ToolRelay.Proofs.Text.Utf8
import ToolRelay.Server.File

/-!
# Saving and loading

What is saved is loaded again. Nothing but a timeout that TOML cannot hold keeps a listing from
being saved at a path that can be written, and then the file at that path stays as it was.

## Main definitions

* `FileTree.Writable`: a file can be written at a path.
* `Listing.writtenKeys?`: the names that a text gives the members of each server.

## Main results

* `FileTree.makeDirectories_ok`: what making directories changes.
* `Listing.save_load`: saving succeeds unless a timeout is too large for the format, and what is
  saved is loaded again.
-/

namespace ToolRelay

namespace FileTree

/-! ## Nodes -/

section Nodes

variable {t : FileTree} {p q : FilePath} {node : FileNode}

theorem find?_root (t : FileTree) : t.find? [] = some .directory := rfl

theorem find?_of_ne_nil (h : p ≠ []) : t.find? p = t.nodes.lookup p := by
  rw [find?, if_neg (by simpa using h)]

theorem find?_put_self (h : p ≠ []) : (t.put p node).find? p = some node := by
  rw [find?_of_ne_nil h]
  exact List.lookup_cons_self

theorem find?_put_of_ne (h : q ≠ p) : (t.put p node).find? q = t.find? q := by
  by_cases hq : q = []
  · rw [hq, find?_root, find?_root]
  · have hne : (q == p) = false := beq_eq_false_iff_ne.2 h
    have hfilter : ∀ ns : List (FilePath × FileNode),
        (ns.filter (·.1 ≠ p)).lookup q = ns.lookup q := by
      intro ns
      induction ns with
      | nil => rfl
      | cons n ns ih =>
        obtain ⟨p', node'⟩ := n
        by_cases hp : p' = p
        · rw [List.filter_cons_of_neg (by simp [hp]), ih, List.lookup_cons, hp, hne]
        · rw [List.filter_cons_of_pos (by simp [hp]), List.lookup_cons, List.lookup_cons, ih]
    rw [find?_of_ne_nil hq, find?_of_ne_nil hq, put, List.lookup_cons, hne, hfilter]

theorem mem_parents : q ∈ parents p ↔ ∃ i < p.length, q = p.take i := by
  simp [parents, eq_comm]

theorem self_not_mem_parents (p : FilePath) : p ∉ parents p := by
  intro h
  obtain ⟨i, hi, hp⟩ := mem_parents.1 h
  have hlen := congrArg List.length hp
  rw [List.length_take] at hlen
  omega

/-- The way to a path is the way to its directory, and that directory. -/
theorem parents_dropLast (h : p ≠ []) : parents p.dropLast ++ [p.dropLast] = parents p := by
  have hlen : p.length = p.dropLast.length + 1 := by
    have hpos := List.length_pos_of_ne_nil h
    rw [List.length_dropLast]
    omega
  rw [parents, parents, hlen, List.range_succ, List.map_append, List.map_singleton]
  congr 1
  · apply List.map_congr_left
    intro i hi
    rw [List.mem_range, List.length_dropLast] at hi
    rw [List.dropLast_eq_take, List.take_take, Nat.min_eq_left hi.le]
  · rw [List.length_dropLast, List.dropLast_eq_take]

end Nodes

/-! ## Writing -/

/-- A file can be written at a path: it has a name, there is no file on the way, and no directory at
its end. -/
structure Writable (t : FileTree) (path : FilePath) : Prop where
  /-- The root is a directory. -/
  named : path ≠ []
  /-- What is found on the way is no file. -/
  way : ∀ p ∈ parents path, ∀ content, t.find? p ≠ some (.file content)
  /-- What is found at the path is no directory. -/
  target : t.find? path ≠ some .directory

variable {t : FileTree} {path : FilePath}

/-- Make one directory of those that lead to `last`, unless it is there. -/
def makeDirectory (last : FilePath) (t : FileTree) (p : FilePath) : Except FileFault FileTree :=
  match t.find? p with
  | some .directory => .ok t
  | some (.file _) => .error (if p = last then .alreadyExists else .notDirectory)
  | none => .ok (t.put p .directory)

theorem makeDirectories_eq (t : FileTree) (path : FilePath) :
    t.makeDirectories path = (parents path ++ [path]).foldlM (makeDirectory path) t := rfl

/-- Whether a directory is there or made, it is found, and what else is found stays. -/
theorem makeDirectory_ok {p : FilePath} (last : FilePath)
    (h : ∀ content, t.find? p ≠ some (.file content)) :
    ∃ t', makeDirectory last t p = .ok t' ∧ t'.find? p = some .directory ∧
      ∀ q ≠ p, t'.find? q = t.find? q := by
  rw [makeDirectory]
  rcases hp : t.find? p with _ | (content | _)
  · have hne : p ≠ [] := by
      rintro rfl
      cases hp
    exact ⟨_, rfl, find?_put_self hne, fun q hq => find?_put_of_ne hq⟩
  · exact absurd hp (h content)
  · exact ⟨t, rfl, hp, fun q _ => rfl⟩

theorem foldlM_makeDirectory_ok {paths : List FilePath} (last : FilePath)
    (h : ∀ p ∈ paths, ∀ content, t.find? p ≠ some (.file content)) :
    ∃ t', paths.foldlM (makeDirectory last) t = .ok t' ∧
      (∀ p ∈ paths, t'.find? p = some .directory) ∧ ∀ p ∉ paths, t'.find? p = t.find? p := by
  induction paths generalizing t with
  | nil => exact ⟨t, rfl, fun p hp => absurd hp List.not_mem_nil, fun p _ => rfl⟩
  | cons q paths ih =>
    obtain ⟨t₁, hstep, hself, hother⟩ := makeDirectory_ok last (h q List.mem_cons_self)
    -- what was made is a directory, so it stands in the way of none of the others
    have hfree : ∀ p ∈ paths, ∀ content, t₁.find? p ≠ some (.file content) := by
      intro p hp content
      by_cases hpq : p = q
      · rw [hpq, hself]
        simp
      · rw [hother p hpq]
        exact h p (List.mem_cons_of_mem _ hp) content
    obtain ⟨t', hfold, hmade, hkept⟩ := ih hfree
    refine ⟨t', ?_, ?_, ?_⟩
    · rw [List.foldlM_cons, hstep]
      exact hfold
    · intro p hp
      by_cases hin : p ∈ paths
      · exact hmade p hin
      · rw [hkept p hin, (List.mem_cons.1 hp).resolve_right hin]
        exact hself
    · intro p hp
      rw [List.mem_cons, not_or] at hp
      rw [hkept p hp.2, hother p hp.1]

/-- On the way to a path that can be written, directories are found after making them, and nothing
else has changed. -/
theorem makeDirectories_ok (h : t.Writable path) :
    ∃ t', t.makeDirectories path.dropLast = .ok t' ∧
      (∀ p ∈ parents path, t'.find? p = some .directory) ∧
      ∀ p ∉ parents path, t'.find? p = t.find? p := by
  have hfree := h.way
  rw [← parents_dropLast h.named] at hfree ⊢
  rw [makeDirectories_eq]
  exact foldlM_makeDirectory_ok path.dropLast hfree

theorem way?_eq_none (h : ∀ p ∈ parents path, t.find? p = some .directory) :
    t.way? path = none := by
  rw [way?, List.findSome?_eq_none_iff]
  intro p hp
  rw [h p hp]

/-- A file is written where directories lead to it, and is read back. -/
theorem write_ok (hnamed : path ≠ []) (h : ∀ p ∈ parents path, t.find? p = some .directory)
    (htarget : t.find? path ≠ some .directory) (content : List UInt8) :
    ∃ t', t.write path content = .ok t' ∧ t'.read path = .ok content := by
  refine ⟨t.put path (.file content), ?_, ?_⟩
  · rw [write, way?_eq_none h]
    dsimp only
    split
    · exact absurd ‹_› htarget
    · rfl
  · have hway : (t.put path (.file content)).way? path = none := by
      apply way?_eq_none
      intro p hp
      have hne : p ≠ path := fun heq => self_not_mem_parents path (heq ▸ hp)
      rw [find?_put_of_ne hne]
      exact h p hp
    rw [read, hway, find?_put_self hnamed]

end FileTree

/-! ## Listings -/

namespace Listing

variable {l : Listing} {path : FilePath} {text : String}

/-- Every timeout can be written in the format of a path: TOML has no number above `2 ^ 63 - 1`. -/
def Fits (l : Listing) (path : FilePath) : Prop :=
  isTomlPath path = true → ∀ e ∈ l.servers, ∀ n ∈ e.timeoutMs, n.toNat ≤ 2 ^ 63 - 1

theorem fitsToml_iff {e : Entry} : e.FitsToml ↔ ∀ n ∈ e.timeoutMs, n.toNat ≤ 2 ^ 63 - 1 := by
  have hmax : Int64.maxValue.toInt = ((2 ^ 63 - 1 : Nat) : Int) := by decide
  rw [Entry.FitsToml, hmax]
  simp only [Int.ofNat_le]

/-- The names that text in the format of a path gives the members of each server. -/
def writtenKeys? (path : FilePath) (text : String) : Option (List (List String)) :=
  if isTomlPath path then tomlKeys? text else jsonKeys? text

/-- A listing that fits has a text, which is read back as that listing and has no member for a field
that holds its default. -/
theorem ofText?_of_fits (h : l.Fits path) :
    ∃ text, l.toText? path = .ok text ∧ ofText? path text = .ok l ∧
      writtenKeys? path text = some (l.servers.map Entry.writtenFields) := by
  rw [toText?]
  cases htoml : isTomlPath path with
  | false =>
    refine ⟨l.toJsonText, rfl, ?_, ?_⟩
    · rw [ofText?, htoml]
      exact ofJson?_toJsonText l
    · rw [writtenKeys?, htoml]
      exact jsonKeys?_toJsonText l
  | true =>
    have hfits : ∀ e ∈ l.servers, e.FitsToml := fun e he => fitsToml_iff.2 (h htoml e he)
    refine ⟨l.tomlText, ?_, ?_, ?_⟩
    · rw [if_pos rfl, toToml?_eq, if_pos hfits]
    · rw [ofText?, htoml]
      exact ofToml?_tomlText hfits
    · rw [writtenKeys?, htoml]
      exact tomlKeys?_tomlText hfits

theorem toText?_of_not_fits (h : ¬l.Fits path) : l.toText? path = .error .tomlRange := by
  rw [Fits, Classical.not_imp] at h
  obtain ⟨htoml, hlarge⟩ := h
  rw [toText?, if_pos htoml, toToml?_eq, if_neg]
  exact fun hfits => hlarge fun e he => fitsToml_iff.1 (hfits e he)

/-- Saving a listing that fits leaves its text in the file, which is loaded again. -/
theorem save_of_fits {t : FileTree} (hpath : t.Writable path) (h : l.Fits path) :
    ∃ t' text, l.save t path = (.ok (), t') ∧ load t' path = .ok l ∧
      t'.read path = .ok (Text.utf8Bytes text.toList) ∧
      writtenKeys? path text = some (l.servers.map Entry.writtenFields) := by
  obtain ⟨t₁, hmake, hmade, hkept⟩ := FileTree.makeDirectories_ok hpath
  obtain ⟨text, htext, hback, hkeys⟩ := ofText?_of_fits h
  -- no directory was made at the path itself
  have htarget : t₁.find? path ≠ some .directory := by
    rw [hkept path (FileTree.self_not_mem_parents path)]
    exact hpath.target
  obtain ⟨t₂, hwrite, hread⟩ :=
    FileTree.write_ok hpath.named hmade htarget (Text.utf8Bytes text.toList)
  refine ⟨t₂, text, ?_, ?_, hread, hkeys⟩
  · simp only [save, hmake, htext, hwrite]
  · simp only [load, hread, Text.decodeStrict?_utf8Bytes, String.ofList_toList, hback]

/-- A listing that does not fit is not saved, and what is found at the path stays. -/
theorem save_of_not_fits {t : FileTree} (hpath : t.Writable path) (h : ¬l.Fits path) :
    ∃ t', l.save t path = (.error .tomlRange, t') ∧ t'.find? path = t.find? path := by
  obtain ⟨t₁, hmake, -, hkept⟩ := FileTree.makeDirectories_ok hpath
  refine ⟨t₁, ?_, hkept path (FileTree.self_not_mem_parents path)⟩
  simp only [save, hmake, toText?_of_not_fits h]

/-- At a path that can be written, a listing is saved exactly when its timeouts can be written in
the format of the path. What is saved is loaded again, and its text has no member for an optional
field that holds its default; what is not saved leaves the file as it was. -/
theorem save_load (l : Listing) {t : FileTree} {path : FilePath} (hpath : t.Writable path) :
    ((l.save t path).1 = .ok () ↔ l.Fits path) ∧
      (l.Fits path → load (l.save t path).2 path = .ok l ∧
        ∃ text : String, (l.save t path).2.read path = .ok (Text.utf8Bytes text.toList) ∧
          writtenKeys? path text = some (l.servers.map Entry.writtenFields)) ∧
      (¬l.Fits path → (l.save t path).1 = .error .tomlRange ∧
        (l.save t path).2.find? path = t.find? path) := by
  by_cases h : l.Fits path
  · obtain ⟨t', text, hsave, hload, hread, hkeys⟩ := save_of_fits hpath h
    rw [hsave]
    exact ⟨iff_of_true rfl h, fun _ => ⟨hload, text, hread, hkeys⟩, fun hnot => absurd h hnot⟩
  · obtain ⟨t', hsave, hfind⟩ := save_of_not_fits hpath h
    rw [hsave]
    refine ⟨⟨?_, fun hfits => absurd hfits h⟩, fun hfits => absurd hfits h, fun _ => ⟨rfl, hfind⟩⟩
    rintro ⟨⟩

/-- Quotes, a backslash, a line break and a control character in the texts, and the largest timeout
that TOML has. -/
def quoted : Listing :=
  ⟨[{ name := "a \"b\"\n\\", url := "\x00", apiKey := some "\x27\x27\x27",
      timeoutMs := some 9223372036854775807, enabled := false }]⟩

theorem quoted_saved :
    ({} : FileTree).Writable ["etc", "servers.toml"] ∧ quoted.Fits ["etc", "servers.toml"] ∧
      (quoted.save {} ["etc", "servers.toml"]).1 = .ok () ∧
      load (quoted.save {} ["etc", "servers.toml"]).2 ["etc", "servers.toml"] = .ok quoted := by
  have hpath : ({} : FileTree).Writable ["etc", "servers.toml"] := by
    refine ⟨by decide, fun p _ content => ?_, by decide⟩
    rw [FileTree.find?]
    split <;> simp
  have hfits : quoted.Fits ["etc", "servers.toml"] := by
    intro _ e he n hn
    rw [List.mem_singleton.1 he] at hn
    rw [← Option.some.inj hn]
    decide
  obtain ⟨hsave, hload, -⟩ := save_load quoted hpath
  exact ⟨hpath, hfits, hsave.2 hfits, (hload hfits).1⟩

end Listing

end ToolRelay
