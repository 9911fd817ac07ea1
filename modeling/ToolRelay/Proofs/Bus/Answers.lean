import ToolRelay.Proofs.Bus.Paths
import ToolRelay.Proofs.Json.Plain

/-!
# Answers that are read back

What a tool is asked for through a bus is answered with a JSON text in any case, and the text
denotes what came of the call: the value that the tool gave, or an error object with the very words
for what went wrong. The same holds of a result without text items and of a failed call of a client.
Nothing depends on what the names, the words and the values are made of; only floats and values that
are nested very deep are left out.

## Main definitions

* `ToolBus.answerValue`: the value that stands for what came of a call.

## Main results

* `ToolBus.read?_answerText`: an answer denotes what came of the call.
* `Fleet.run_busAnswer`: an answer of a bus is the answer for what its tool gave.
* `Fleet.answers_read_back`: all answers are read back.
-/

namespace ToolRelay

/-- What stands for a failure is plain, whatever its words. -/
theorem ToolResult.plain_failed (words : String) : (failed words).Plain :=
  ⟨rfl, rfl, show 1 + max 0 0 ≤ 120 by decide⟩

/-- A plain result without text items is read back from its flat form. -/
theorem ToolResult.read?_flatten {v : Json} (hv : v.Plain) (htexts : texts v = []) :
    Json.read? (flatten v) = some v := by
  have hnone : text? v = none := by simp [text?, htexts]
  rw [flatten, hnone, Option.getD_none]
  exact hv.read?_render

/-! ## One answer -/

namespace ToolBus

/-- The value that stands for what came of a call. -/
def answerValue : Except CallFault Json → Json
  | .ok v => v
  | .error why => ToolResult.failed why.message

/-- An answer denotes what came of the call. -/
theorem read?_answerText {r : Except CallFault Json} (h : ∀ v, r = .ok v → v.Plain) :
    Json.read? (answerText r) = some (answerValue r) := by
  cases r with
  | ok v => exact (h v rfl).read?_render
  | error why => exact (ToolResult.plain_failed why.message).read?_render

variable {κ : Type}

/-- What came of a call of a tool, given what the tool gave. -/
def callOutcome (b : ToolBus κ) (name : String) (given : κ → Except String Json) :
    Except CallFault Json :=
  match b.get? name with
  | none => .error (.missing name)
  | some t => (given t.handler).mapError .failed

variable {b : ToolBus κ} {name : String}

theorem callOutcome_of_missing (h : b.get? name = none) (given : κ → Except String Json) :
    b.callOutcome name given = .error (.missing name) := by
  rw [callOutcome, h]

theorem callOutcome_of_found {t : BusTool κ} (h : b.get? name = some t)
    (given : κ → Except String Json) :
    b.callOutcome name given = (given t.handler).mapError .failed := by
  rw [callOutcome, h]

end ToolBus

/-- A client answers a call that failed with an error object. -/
theorem Client.run_call_of_error {τ : Type} {T : Transport τ} {name tool text : String}
    {why : Failure} {s : Client τ × Journal}
    (h : (Client.run T (callValue name tool (ToolCall.argumentsOf text)) s).1 = .error why) :
    (Client.run T (call name tool text) s).1 = (ToolResult.failed why.message).render := by
  rw [Client.run] at h
  rw [Client.run, call, Routine.run_bind, h]
  rfl

namespace Fleet

variable {τ κ : Type} [Inhabited τ] (T : Transport τ) (link : Entry → Except Failure τ)
  (own : κ → Json → Except String Json)

/-! ## Answers of a bus -/

/-- What a tool gives when it is run in a fleet. -/
def given (f : Fleet τ) (args : Json) (handler : BusHandler κ) : Except String Json :=
  (Fleet.run T link (runHandler own handler args) f).1

/-- What comes of a call on a bus is settled by what its tool gives. -/
theorem run_busCall_outcome (bus : ToolBus (BusHandler κ)) (name : String) (args : Json)
    (f : Fleet τ) :
    (Fleet.run T link (bus.call (runHandler own) name args) f).1 =
      bus.callOutcome name (f.given T link own args) := by
  rw [ToolBus.call, ToolBus.callOutcome]
  cases bus.get? name with
  | none => rfl
  | some t =>
    dsimp only
    rw [run_bind, given]
    cases (Fleet.run T link (runHandler own t.handler args) f).1 <;> rfl

/-- A bus answers with the text for what its tool gives. A note on the arguments, if one is taken,
changes nothing of it. -/
theorem run_busAnswer (bus : ToolBus (BusHandler κ)) (name text : String) (f : Fleet τ) :
    (Fleet.run T link (bus.callJson (runHandler own) name text) f).1 =
      ToolBus.answerText (bus.callOutcome name
        (f.given T link own ((ToolBus.argumentsOf? text).getD .emptyObject))) := by
  -- the note on the arguments is taken before the call, in a fleet that differs in the journal only
  have hanswer (args : Json) (g : Fleet τ) (hg : f.Alike g) :
      (Fleet.run T link
        (bus.call (runHandler own) name args >>= fun r => pure (ToolBus.answerText r)) g).1 =
        ToolBus.answerText (bus.callOutcome name (f.given T link own args)) := by
    rw [run_bind, run_pure, (hg.run T link _).1, run_busCall_outcome]
  rw [ToolBus.callJson]
  cases ToolBus.argumentsOf? text with
  | some args => exact hanswer args f (.refl f)
  | none => exact hanswer .emptyObject _ ⟨f.journal.add (.note (.argumentsIgnored name)), rfl⟩

/-- Answers are read back. For any bus, name and text of arguments, the answer of the bus denotes
the value that its tool gives, or an error object with the words of the tool's failure, or with
those for a tool that is missing. A result without text items is read back from its flat form, and a
client's answer to a call that failed denotes an error object with the words of the failure. Names
and words may be any texts. -/
theorem answers_read_back :
    (∀ (bus : ToolBus (BusHandler κ)) (name text : String) (f : Fleet τ),
      let answer := (Fleet.run T link (bus.callJson (runHandler own) name text) f).1
      let args := (ToolBus.argumentsOf? text).getD .emptyObject
      (bus.get? name = none →
        Json.read? answer = some (.obj [("error", .str ("Tool not found: " ++ name))])) ∧
      ∀ t, bus.get? name = some t →
        (∀ words, (Fleet.run T link (runHandler own t.handler args) f).1 = .error words →
          Json.read? answer = some (.obj [("error", .str words)])) ∧
        ∀ v, (Fleet.run T link (runHandler own t.handler args) f).1 = .ok v → v.Plain →
          Json.read? answer = some v) ∧
    (∀ v : Json, v.Plain → ToolResult.texts v = [] →
      Json.read? (ToolResult.flatten v) = some v) ∧
    ∀ (name tool text : String) (why : Failure) (s : Client τ × Journal),
      (Client.run T (Client.callValue name tool (ToolCall.argumentsOf text)) s).1 = .error why →
      Json.read? (Client.run T (Client.call name tool text) s).1 =
        some (.obj [("error", .str why.message)]) := by
  refine ⟨fun bus name text f => ?_, fun v hv htexts => ToolResult.read?_flatten hv htexts,
    fun name tool text why s hwhy => ?_⟩
  · intro answer args
    -- what the answer denotes is settled by the tool of the name, if there is one
    have hanswer : answer = ToolBus.answerText (bus.callOutcome name (f.given T link own args)) :=
      run_busAnswer T link own bus name text f
    rw [hanswer]
    refine ⟨fun hmissing => ?_, fun t ht => ?_⟩
    · rw [ToolBus.callOutcome_of_missing hmissing]
      exact ToolBus.read?_answerText nofun
    · rw [ToolBus.callOutcome_of_found ht, given]
      refine ⟨fun words hwords => ?_, fun v hv hplain => ?_⟩
      · rw [hwords]
        exact ToolBus.read?_answerText nofun
      · rw [hv]
        refine ToolBus.read?_answerText fun w hw => ?_
        rwa [← Except.ok.inj hw]
  · rw [Client.run_call_of_error hwhy]
    exact (ToolResult.plain_failed why.message).read?_render

/-- Two tools of their own kind: one gives its arguments back, and one fails. -/
def echoBus : ToolBus (BusHandler Bool) :=
  ⟨[⟨"echo", "", .emptySchema, .own true⟩, ⟨"fail", "", .emptySchema, .own false⟩]⟩

/-- What the two tools do. -/
def echo (works : Bool) (args : Json) : Except String Json :=
  if works then .ok (.arr [args, .int (-9223372036854775808), .str "\x07"]) else .error "\"\\\x00"

/-- Texts with quotes, backslashes and control characters, in a value, in the words of a failure and
in a name. -/
theorem answers_read_back_of_echo :
    let answer (name : String) := (Fleet.run politeTransport (fun _ => .ok ())
      (echoBus.callJson (runHandler echo) name "\x7b\"\\u0000\":\"\\\"\"\x7d") {}).1
    Json.read? (answer "echo") = some (.arr
        [.obj [("\x00", .str "\"")], .int (-9223372036854775808), .str "\x07"]) ∧
      Json.read? (answer "fail") = some (.obj [("error", .str "\"\\\x00")]) ∧
      Json.read? (answer "\"\x0b") =
        some (.obj [("error", .str ("Tool not found: " ++ "\"\x0b"))]) ∧
      Json.read? (ToolResult.flatten (.obj [("content", .arr [.str "\\"])])) =
        some (.obj [("content", .arr [.str "\\"])]) ∧
      Json.read? (Client.run politeTransport (Client.call "\"" "t" "")
        (({ name := "\"", link := () } : Client Unit), {})).1 =
          some (.obj [("error", .str "Not connected: \"")]) := by
  obtain ⟨hbus, hflat, hcall⟩ := answers_read_back politeTransport (fun _ => .ok ()) echo
  have hargs : (ToolBus.argumentsOf? "\x7b\"\\u0000\":\"\\\"\"\x7d").getD .emptyObject =
      .obj [("\x00", .str "\"")] := by decide +kernel
  have hechoed := ((hbus echoBus "echo" "\x7b\"\\u0000\":\"\\\"\"\x7d" {}).2 _ rfl).2
  have hfailed := ((hbus echoBus "fail" "\x7b\"\\u0000\":\"\\\"\"\x7d" {}).2 _ rfl).1
  rw [hargs] at hechoed
  exact ⟨hechoed _ rfl ⟨by decide +kernel, by decide +kernel, by decide +kernel⟩, hfailed _ rfl,
    (hbus echoBus "\"\x0b" _ {}).1 rfl,
    hflat _ ⟨by decide +kernel, by decide +kernel, by decide +kernel⟩ (by decide +kernel),
    hcall "\"" "t" "" (Client.notConnected "\"") _ rfl⟩

end Fleet

end ToolRelay
