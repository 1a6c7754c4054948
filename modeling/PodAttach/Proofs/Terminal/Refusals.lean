import PodAttach.Proofs.Terminal.Relay

/-!
# Writes that are refused

What a screen shows is told by the calls that were made on it and by the writes that were refused, and by nothing else.
Writes are counted as they are made: an empty text makes none, and a line that was refused takes the write of its line
break with it, so every later write has another number than it would have had.
-/

namespace PodAttach.Terminal

/-! ### What comes through -/

namespace Call

section

variable (refuses : Nat → Bool) (n : Nat)

/-- The text whose write has number `n` does not come through. An empty text is not written at all. -/
def isLost (text : String) : Bool := text ≠ "" && refuses n

/-- A line break is lost with its line, and by its own write, which is the next one. -/
def isBreakLost (line : String) : Bool := isLost refuses n line || refuses (n + if line = "" then 0 else 1)

/-- What comes through of a call whose first write has number `n`. -/
def shown : Call → String
  | .write data => if isLost refuses n data then "" else data
  | .writeLine line =>
    (if isLost refuses n line then "" else line) ++ if isBreakLost refuses n line then "" else "\r\n"
  | .destroy => ""

/-- How many writes a call makes. -/
def writes : Call → Nat
  | .write data => if data = "" then 0 else 1
  | .writeLine line => (if line = "" then 0 else 1) + if isLost refuses n line then 0 else 1
  | .destroy => 0

end

variable (refuses : Nat → Bool)

/-- What comes through of some calls, one after the other, the first of whose writes has number `n`. -/
def allShown (n : Nat) : List Call → String
  | [] => ""
  | c :: calls => c.shown refuses n ++ allShown (n + c.writes refuses n) calls

/-- How many writes some calls make. -/
def allWrites (n : Nat) : List Call → Nat
  | [] => 0
  | c :: calls => c.writes refuses n + allWrites (n + c.writes refuses n) calls

/-- The second write is refused, and with it a line break that is not written. The third is that of an empty line. -/
example : allShown (· = 1) 0 [.write "$ ", .writeLine "ls", .writeLine "", .write "done"] = "$ \r\ndone" := by decide

theorem allShown_append (n : Nat) (calls more : List Call) :
    allShown refuses n (calls ++ more) = allShown refuses n calls ++ allShown refuses (n + allWrites refuses n calls) more := by
  induction calls generalizing n with
  | nil => simp [allShown, allWrites]
  | cons c calls ih => rw [List.cons_append, allShown, allShown, ih, allWrites, String.append_assoc, Nat.add_assoc]

theorem allWrites_append (n : Nat) (calls more : List Call) :
    allWrites refuses n (calls ++ more) = allWrites refuses n calls + allWrites refuses (n + allWrites refuses n calls) more := by
  induction calls generalizing n with
  | nil => simp [allWrites]
  | cons c calls ih => rw [List.cons_append, allWrites, allWrites, ih, Nat.add_assoc, Nat.add_assoc]

end Call

/-! ### Writers and screens -/

namespace Writer

variable (writer : Writer) (text : String)

theorem takes_eq : writer.takes text = !Call.isLost writer.refuses writer.attempts text := by
  by_cases htext : text = "" <;> simp [takes, Call.isLost, htext]

theorem write_eq :
    writer.write text =
      { writer with
        attempts := writer.attempts + if text = "" then 0 else 1
        output := writer.output ++ if Call.isLost writer.refuses writer.attempts text then "" else text } := by
  by_cases htext : text = ""
  · simp [write, htext]
  · by_cases hrefused : writer.refuses writer.attempts <;> simp [write, Call.isLost, htext, hrefused]

end Writer

namespace Screen

/-- What a call does to the writer, which counts its writes and keeps its output. -/
theorem writeAll_texts (writer : Writer) (c : Call) :
    writeAll writer (Call.texts c) =
      { writer with
        attempts := writer.attempts + c.writes writer.refuses writer.attempts
        output := writer.output ++ c.shown writer.refuses writer.attempts } := by
  cases c with
  | write data =>
    have hwrite : writeAll writer [data] = writer.write data := by simp [writeAll]
    rw [Call.texts, hwrite, writer.write_eq data]
    rfl
  | writeLine line =>
    rw [Call.texts, writeAll, writer.takes_eq]
    cases hlost : Call.isLost writer.refuses writer.attempts line with
    | true => simp [writer.write_eq line, Call.writes, Call.shown, Call.isBreakLost, hlost]
    | false =>
      have hlast : writeAll (writer.write line) [lineBreak] = (writer.write line).write lineBreak := by simp [writeAll]
      have hbreak : ∀ n, Call.isLost writer.refuses n "\r\n" = writer.refuses n := fun n => by simp [Call.isLost]
      rw [Bool.not_false, if_pos rfl, hlast, Writer.write_eq, writer.write_eq line]
      simp [Call.writes, Call.shown, Call.isBreakLost, hlost, hbreak, lineBreak, Nat.add_assoc, String.append_assoc]
  | destroy => simp [writeAll, Call.texts, Call.writes, Call.shown]

/-- The screen shows what came through of its calls, and its writer has counted their writes. -/
structure IsDrawn (refuses : Nat → Bool) (screen : Screen) : Prop where
  refuses_eq : screen.writer.refuses = refuses
  attempts_eq : screen.writer.attempts = Call.allWrites refuses 0 screen.calls
  output_eq : screen.output = Call.allShown refuses 0 screen.calls

theorem isDrawn_new (refuses : Nat → Bool) : (new (.new refuses)).IsDrawn refuses := ⟨rfl, rfl, rfl⟩

theorem IsDrawn.call {refuses : Nat → Bool} {screen : Screen} (h : screen.IsDrawn refuses)
    (hd : screen.isDestroyed = false) (c : Call) : (screen.call c).IsDrawn refuses := by
  have hwriter : (screen.call c).writer = writeAll screen.writer (Call.texts c) := by simp [Screen.call, hd]
  have hnumber := h.attempts_eq
  refine ⟨?_, ?_, ?_⟩
  · rw [hwriter, writeAll_texts]
    exact h.refuses_eq
  · rw [hwriter, writeAll_texts, h.refuses_eq, hnumber, calls_call, Call.allWrites_append, Nat.zero_add]
    rfl
  · rw [output, hwriter, writeAll_texts, h.refuses_eq, hnumber, calls_call, Call.allShown_append, Nat.zero_add,
      ← h.output_eq]
    simp [Call.allShown, output]

end Screen

/-! ### Relays -/

namespace Relay

/-- A property that no operation of a relay destroys. -/
structure IsKept (P : Relay → Prop) : Prop where
  write : ∀ {relay : Relay} (data : String), P relay → P (relay.write data)
  writeLine : ∀ {relay : Relay} (line : String), P relay → P (relay.writeLine line)
  destroy : ∀ {relay : Relay}, P relay → P relay.destroy
  unsubscribe : ∀ {relay : Relay}, P relay → P relay.unsubscribe

theorem IsKept.incoming {P : Relay → Prop} (hkept : IsKept P) {relay next : Relay} {frame : Wire.Frame} (h : P relay)
    (hnext : relay.incoming frame = .ok next) : P next := by
  unfold Relay.incoming at hnext
  split at hnext
  · cases hdecode : relay.mode.decode frame with
    | error violation => simp [hdecode, Except.map] at hnext
    | ok output =>
      obtain rfl : relay.call (showing output) = next := by simpa [hdecode, Except.map] using hnext
      cases output with
      | raw data => exact hkept.write data h
      | line text => exact hkept.writeLine text h
  · obtain rfl := Except.ok.inj hnext
    exact h

/-- The relay knows whether its screen is destroyed, and the screen shows what came through of its calls. -/
structure IsDrawn (refuses : Nat → Bool) (relay : Relay) : Prop where
  isDestroyed_eq : relay.screen.isDestroyed = relay.isDestroyed
  screen : relay.screen.IsDrawn refuses

theorem isKept_isDrawn (refuses : Nat → Bool) : IsKept (IsDrawn refuses) := by
  have hcall : ∀ {relay : Relay} (c : Call), c ≠ .destroy → relay.IsDrawn refuses → (relay.call c).IsDrawn refuses := by
    intro relay c hc h
    unfold Relay.call
    split
    · exact h
    · next hd =>
      have hscreen : relay.screen.isDestroyed = false := by simpa [h.isDestroyed_eq] using hd
      exact ⟨by simpa [Screen.call, hc] using h.isDestroyed_eq, h.screen.call hscreen c⟩
  refine ⟨fun data => hcall _ (by simp), fun line => hcall _ (by simp), ?_, fun h => ⟨h.isDestroyed_eq, h.screen⟩⟩
  intro relay h
  unfold Relay.destroy Relay.call
  split
  · exact h
  · next hd =>
    have hscreen : relay.screen.isDestroyed = false := by simpa [h.isDestroyed_eq] using hd
    exact ⟨by simp [Screen.call], h.screen.call hscreen .destroy⟩

end Relay

end PodAttach.Terminal
