import ToolRelay.Proofs.Link.Replies
import ToolRelay.Proofs.Text.Boundary

/-!
# What is kept of the last failure

A slot keeps the longest front part of a text that has no more than 512 bytes. After any number of
uses, that is what it keeps of the text that it was given last, unless it was cleared since. A
failure that is recorded is handed back as it is, and so it is the failure that the caller of a link
learns of.

## Main definitions

* `SlotUse`: something that is done with a slot.
* `SlotUse.lastText?`: the text that a slot was given last since it was last cleared.

## Main results

* `SlotUse.text_after`: what a slot keeps after any uses.
* `SlotUse.longest_front_kept`: all of this together, and what links keep of their failures.
-/

namespace ToolRelay

/-- Something that is done with a slot. -/
inductive SlotUse where
  /-- It is given a text. -/
  | set (text : String)
  /-- It is given a failure, to hand it back. -/
  | record (why : Failure)
  /-- It is cleared. -/
  | clear

namespace SlotUse

/-- What a use hands back, and the slot that it leaves. -/
def apply (slot : ErrorSlot) : SlotUse → Option Failure × ErrorSlot
  | .set text => (none, slot.set text)
  | .record why => (some why, slot.record why)
  | .clear => (none, slot.clear)

/-- The slot that uses leave, one after the other, of one that was empty. -/
def after (uses : List SlotUse) : ErrorSlot := uses.foldl (fun slot u => (u.apply slot).2) {}

/-- The text that a slot is given. -/
def text? : SlotUse → Option String
  | .set text => some text
  | .record why => some why.message
  | .clear => none

/-- The slot is cleared. -/
def isClear : SlotUse → Bool
  | .clear => true
  | .set _ | .record _ => false

/-- The text that the slot was given last since it was last cleared. -/
def lastText? (uses : List SlotUse) : Option String :=
  (uses.reverse.takeWhile (!·.isClear)).findSome? text?

/-- A use leaves the text that the slot is given, as far as it fits, and no other. -/
theorem text_apply (slot : ErrorSlot) (u : SlotUse) :
    (u.apply slot).2.text =
      u.text?.map fun t => String.ofList (Text.takeBytes 512 t.toList) := by
  cases u <;> rfl

/-- The last use decides: it gives the slot a text, or clears it. -/
theorem lastText?_concat (uses : List SlotUse) (u : SlotUse) :
    lastText? (uses ++ [u]) = u.text? := by
  rw [lastText?, List.reverse_append]
  cases u <;> rfl

/-- After any uses a slot keeps, as far as it fits, the text that it was given last since it was
last cleared. -/
theorem text_after (uses : List SlotUse) :
    (after uses).text =
      (lastText? uses).map fun t => String.ofList (Text.takeBytes 512 t.toList) := by
  induction uses using List.reverseRecOn with
  | nil => rfl
  | append_singleton uses u _ =>
    rw [after, List.foldl_append, lastText?_concat]
    exact text_apply _ u

end SlotUse

/-- What is left of a text is its longest front part that fits. -/
theorem Text.longestFront_ofList (limit : Nat) (cs : List Char) :
    Text.LongestFront limit cs (String.ofList (Text.takeBytes limit cs)).toList := by
  rw [String.toList_ofList]
  exact Text.longestFront_takeBytes limit cs

section Links

variable {ν : Type} {net : Internet ν} {envelope : Json} {id : UInt64} {why : Failure}

/-- A link that posts keeps of a failure what it hands on to its caller. -/
theorem PostLink.text_of_failure {s : PostLink × ν} (hup : s.1.connected = true)
    (h : (PostLink.carry net envelope id s).1.outcome = .error why) :
    (PostLink.carry net envelope id s).2.1.lastError.text =
      some (String.ofList (Text.takeBytes 512 why.message.toList)) := by
  rw [PostLink.carry, if_pos hup] at h ⊢
  dsimp only at h ⊢
  rw [h]
  exact ErrorSlot.text_recordOutcome rfl _

/-- A link with an event stream keeps of every failure what it hands on to its caller. -/
theorem StreamLink.text_of_failure {s : StreamLink × ν}
    (h : (StreamLink.carry net envelope id s).1.outcome = .error why) :
    (StreamLink.carry net envelope id s).2.1.lastError.text =
      some (String.ofList (Text.takeBytes 512 why.message.toList)) := by
  rw [StreamLink.carry] at h ⊢
  dsimp only at h ⊢
  rw [h]
  exact ErrorSlot.text_recordOutcome rfl _

end Links

/-- What a slot keeps. Of a text it keeps the longest front part that has at most 512 bytes, which
is the text itself if that fits, and what cutting the text at its bytes gives. If the text does not
fit, the search for the cut, from 512 backwards, ends at a boundary between two characters after
three steps at most, without going below zero, and the bytes in front of the cut are those of the
text that is kept.

After any uses, a slot that was empty keeps the longest front part of the text that it was given
last since it was last cleared, and nothing if there is none. A failure that is recorded is handed
back as it is: when a link fails to carry a message, the failure that its caller learns of is the
one whose text is kept, but for a link that posts and is not open, which refuses without a trace. -/
theorem SlotUse.longest_front_kept {ν : Type} (net : Internet ν) (slot : ErrorSlot) (text : String)
    (uses : List SlotUse) :
    let bytes := Text.utf8Bytes text.toList
    (∃ kept : String, slot.set text = ⟨some kept⟩ ∧
        Text.LongestFront 512 text.toList kept.toList ∧
        Text.cut? 512 text.toList = some kept.toList ∧
        (bytes.length ≤ 512 → kept = text) ∧
        (512 < bytes.length → ∃ cut, Text.boundaryFrom? bytes 512 = some cut ∧
          Text.isBoundary bytes cut = true ∧ cut ≤ 512 ∧ 512 ≤ cut + 3 ∧
          bytes.take cut = Text.utf8Bytes kept.toList)) ∧
      (∀ kept, (after uses).text = some kept ↔
        ∃ t, lastText? uses = some t ∧ Text.LongestFront 512 t.toList kept.toList) ∧
      (∀ why, (record why).apply slot = (some why, slot.set why.message)) ∧
      (∀ envelope id why (s : PostLink × ν), s.1.connected = true →
        (PostLink.carry net envelope id s).1.outcome = .error why →
        ∃ kept, (PostLink.carry net envelope id s).2.1.lastError.text = some kept ∧
          Text.LongestFront 512 why.message.toList kept.toList) ∧
      ∀ envelope id why (s : StreamLink × ν),
        (StreamLink.carry net envelope id s).1.outcome = .error why →
        ∃ kept, (StreamLink.carry net envelope id s).2.1.lastError.text = some kept ∧
          Text.LongestFront 512 why.message.toList kept.toList := by
  intro bytes
  refine ⟨⟨_, rfl, Text.longestFront_ofList 512 text.toList, ?_, fun hfits => ?_, fun hlong => ?_⟩,
    fun kept => ?_, fun why => rfl, fun envelope id why s hup h => ?_,
    fun envelope id why s h => ?_⟩
  · rw [Text.cut?_eq, String.toList_ofList]
    rfl
  · show String.ofList (Text.takeBytes 512 text.toList) = text
    rw [Text.takeBytes_of_fits hfits, String.ofList_toList]
  · obtain ⟨hsearch, hbelow, hsteps⟩ := Text.boundaryFrom?_eq hlong
    -- the cut is where the front part ends
    obtain ⟨hboundary, hfront⟩ := Text.take_longestFront hlong
    refine ⟨_, hsearch, hboundary, hbelow, hsteps, ?_⟩
    rw [String.toList_ofList]
    exact hfront
  · rw [text_after]
    constructor
    · intro h
      obtain ⟨t, hlast, rfl⟩ := Option.map_eq_some_iff.1 h
      exact ⟨t, hlast, Text.longestFront_ofList 512 t.toList⟩
    · rintro ⟨t, hlast, hkept⟩
      -- there is only one longest front part
      rw [hlast, Option.map_some, ← hkept.eq, String.ofList_toList]
  · exact ⟨_, PostLink.text_of_failure hup h, Text.longestFront_ofList 512 _⟩
  · exact ⟨_, StreamLink.text_of_failure h, Text.longestFront_ofList 512 _⟩

end ToolRelay
