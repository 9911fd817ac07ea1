import ToolRelay.Link.Stream.Endpoint
import ToolRelay.Proofs.Json.Extent
import ToolRelay.Proofs.Text.Trimmed

/-!
# Announcements

What an announcement says is read in two ways, as it is or as an object with an address in it.
`Endpoint.Announces` states the two without saying how to tell them apart: a text that is read as an
object starts with a brace, so that no text is both.

## Main definitions

* `Endpoint.Announces`: an announcement names a text.
* `Endpoint.Names`: a text stands for an address.

## Main results

* `Endpoint.announced?_eq_some_iff`: every announcement that names a text is understood, and no
  other.
* `Endpoint.names_resolve`: an announced text stands for one address.
-/

namespace ToolRelay

/-! ## Objects -/

namespace Json

/-- The blanks of JSON text are white space. -/
theorem isBlank_of_isJsonBlank {c : Char} (h : isJsonBlank c = true) :
    Text.isBlank c = true := by
  simp only [isJsonBlank, Bool.or_eq_true, decide_eq_true_eq] at h
  rcases h with ((rfl | rfl) | rfl) | rfl <;> decide

theorem skipBlanks_trimChars (cs : List Char) :
    skipBlanks (Text.trimChars cs) = Text.trimChars cs := by
  have hfix := Text.dropWhile_trimChars cs
  rcases h : Text.trimChars cs with _ | ⟨c, rest⟩
  · rfl
  · refine List.dropWhile_cons_of_neg fun hc => ?_
    rw [h, List.dropWhile_cons_of_pos (isBlank_of_isJsonBlank hc)] at hfix
    have hlen := (List.dropWhile_sublist Text.isBlank (l := rest)).length_le
    rw [hfix, List.length_cons] at hlen
    omega

/-- A text that is an object starts with a brace. -/
theorem skipBlanks_of_read?_obj {text : String} {ms : List (String × Json)}
    (h : read? text = some (.obj ms)) : ∃ r, skipBlanks text.toList = '\x7b' :: r := by
  rw [← String.ofList_toList (s := text)] at h
  obtain ⟨front, inner, back, htext, hblanks, -⟩ := exists_braces h
  refine ⟨inner ++ '\x7d' :: back, ?_⟩
  rw [htext, skipBlanks, List.dropWhile_append_of_pos (List.forall_mem_append.1 hblanks).1]
  rfl

end Json

namespace Endpoint

variable {base data text : String}

theorem hasStart_iff {start : String} :
    hasStart start text = true ↔ start.toList <+: text.toList :=
  List.isPrefixOf_iff_prefix

/-! ## What an announcement names -/

/-- An announcement names a text that is not blank: itself, unless it starts with a brace, or what
an object holds under `uri`, or under `url` when it holds nothing under `uri`. -/
inductive Announces (data : String) : String → Prop
  /-- The announcement itself. -/
  | plain : Text.trim data ≠ "" → ¬"\x7b".toList <+: (Text.trim data).toList →
      Announces data (Text.trim data)
  /-- What it holds under `uri`. -/
  | uri {members s} : Json.read? (Text.trim data) = some (.obj members) →
      Json.findMember "uri" members = some (.str s) → Text.trim s ≠ "" →
      Announces data (Text.trim s)
  /-- What it holds under `url`. -/
  | url {members s} : Json.read? (Text.trim data) = some (.obj members) →
      Json.findMember "uri" members = none → Json.findMember "url" members = some (.str s) →
      Text.trim s ≠ "" → Announces data (Text.trim s)

/-- An object that is a whole announcement starts it with its brace. -/
theorem hasStart_of_obj {members : List (String × Json)}
    (h : Json.read? (Text.trim data) = some (.obj members)) :
    hasStart "\x7b" (Text.trim data) = true := by
  obtain ⟨r, hr⟩ := Json.skipBlanks_of_read?_obj h
  have htrim : (Text.trim data).toList = Text.trimChars data.toList := String.toList_ofList
  rw [htrim, Json.skipBlanks_trimChars, ← htrim] at hr
  rw [hasStart_iff, hr]
  exact ⟨r, rfl⟩

theorem announced?_of_plain (h : ¬"\x7b".toList <+: (Text.trim data).toList) :
    announced? data = (some (Text.trim data)).filter (!·.isEmpty) := by
  have hstart : hasStart "\x7b" (Text.trim data) = false := by
    rw [← Bool.not_eq_true, hasStart_iff]
    exact h
  simp only [announced?, hstart, Bool.false_eq_true, if_false]

theorem announced?_of_obj {members : List (String × Json)}
    (h : Json.read? (Text.trim data) = some (.obj members)) :
    announced? data = (((Json.findMember "uri" members <|> Json.findMember "url" members).bind
      Json.asString?).map Text.trim).filter (!·.isEmpty) := by
  simp only [announced?, hasStart_of_obj h, if_true, h]
  rfl

/-- Anything else that starts with a brace is not understood. -/
theorem announced?_of_no_obj (hstart : "\x7b".toList <+: (Text.trim data).toList)
    (h : ∀ members, Json.read? (Text.trim data) ≠ some (.obj members)) :
    announced? data = none := by
  simp only [announced?, hasStart_iff.2 hstart, if_true]
  rcases hread : Json.read? (Text.trim data) with _ | v
  · rfl
  · cases v with
    | obj members => exact absurd hread (h members)
    | _ => rfl

/-- An announcement is understood exactly when it names a text. -/
theorem announced?_eq_some_iff : announced? data = some text ↔ Announces data text := by
  constructor
  · intro h
    by_cases hstart : "\x7b".toList <+: (Text.trim data).toList
    · by_cases hobj : ∃ members, Json.read? (Text.trim data) = some (.obj members)
      · obtain ⟨members, hread⟩ := hobj
        rw [announced?_of_obj hread, Option.filter_eq_some_iff] at h
        obtain ⟨h, hne⟩ := h
        obtain ⟨s, hs, rfl⟩ := Option.map_eq_some_iff.1 h
        obtain ⟨v, hv, hstr⟩ := Option.bind_eq_some_iff.1 hs
        have hblank : Text.trim s ≠ "" := by simpa using hne
        cases v with
        | str s' =>
          cases hstr
          rcases huri : Json.findMember "uri" members with _ | v
          · rw [huri] at hv
            exact .url hread huri hv hblank
          · rw [huri] at hv
            cases hv
            exact .uri hread huri hblank
        | _ => cases hstr
      · rw [announced?_of_no_obj hstart fun members hread => hobj ⟨members, hread⟩] at h
        cases h
    · rw [announced?_of_plain hstart, Option.filter_eq_some_iff] at h
      obtain ⟨heq, hne⟩ := h
      cases heq
      exact .plain (by simpa using hne) hstart
  · intro h
    cases h with
    | plain hne hstart =>
      rw [announced?_of_plain hstart, Option.filter_some, if_pos (by simpa using hne)]
    | uri hread huri hne =>
      rw [announced?_of_obj hread, huri]
      exact Option.filter_some.trans (if_pos (by simpa using hne))
    | url hread huri hurl hne =>
      rw [announced?_of_obj hread, huri, hurl]
      exact Option.filter_some.trans (if_pos (by simpa using hne))

/-! ## What an announced text stands for -/

/-- The text is an address of its own. -/
def IsAddress (text : String) : Prop :=
  "http://".toList <+: text.toList ∨ "https://".toList <+: text.toList

/-- A text stands for an address: for itself when it is one, and otherwise for an address that
begins with the server's, from which a slash divides it. -/
structure Names (base text address : String) : Prop where
  /-- An address stands for itself. -/
  absolute : IsAddress text → address = text
  /-- A text that begins with a slash follows the server's address. -/
  rooted : ¬IsAddress text → "/".toList <+: text.toList → address = base ++ text
  /-- Before any other text a slash is put. -/
  relative : ¬IsAddress text → ¬"/".toList <+: text.toList → address = base ++ "/" ++ text
  /-- In both cases the address is one on the server. -/
  within : ¬IsAddress text → (base ++ "/").toList <+: address.toList

theorem names_resolve (base text : String) : Names base text (resolve base text) := by
  have haddress : (hasStart "http://" text || hasStart "https://" text) = true ↔
      IsAddress text := by
    rw [Bool.or_eq_true, hasStart_iff, hasStart_iff, IsAddress]
  have hrooted : ¬IsAddress text → "/".toList <+: text.toList →
      resolve base text = base ++ text := by
    intro hno hslash
    rw [resolve, if_neg (haddress.not.2 hno), if_pos (hasStart_iff.2 hslash)]
  have hrelative : ¬IsAddress text → ¬"/".toList <+: text.toList →
      resolve base text = base ++ "/" ++ text := by
    intro hno hslash
    rw [resolve, if_neg (haddress.not.2 hno), if_neg (hasStart_iff.not.2 hslash)]
  refine ⟨fun h => ?_, hrooted, hrelative, fun hno => ?_⟩
  · rw [resolve, if_pos (haddress.2 h)]
  · by_cases hslash : "/".toList <+: text.toList
    · rw [hrooted hno hslash, String.toList_append, String.toList_append]
      exact (List.prefix_append_right_inj _).2 hslash
    · rw [hrelative hno hslash, String.toList_append, String.toList_append, String.toList_append]
      exact List.prefix_append _ _

end Endpoint

end ToolRelay
