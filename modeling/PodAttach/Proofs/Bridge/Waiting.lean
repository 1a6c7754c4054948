import PodAttach.Bridge.Handshake

/-!
# What is left of a handshake

While a bridge waits for its socket, it keeps the size that came up last and nothing else. If the terminal's events end
first, wherever in between, the session is as it was.
-/

namespace PodAttach.Bridge

open Terminal

/-- What came up last among the sizes in some events, if there is one. -/
def IsLastSize (events : List Event) : Option Event → Prop
  | none => ∀ cols rows, .resize cols rows ∉ events
  | some event => ∃ before cols rows later,
      event = .resize cols rows ∧ events = before ++ .resize cols rows :: later ∧
        ∀ cols rows, .resize cols rows ∉ later

theorem isLastSize_nil : IsLastSize [] none := fun _ _ => List.not_mem_nil

theorem isLastSize_concat_resize (events : List Event) (cols rows : UInt16) :
    IsLastSize (events ++ [.resize cols rows]) (some (.resize cols rows)) :=
  ⟨events, cols, rows, [], rfl, rfl, fun _ _ => List.not_mem_nil⟩

theorem IsLastSize.concat_input {events : List Event} {last : Option Event} (h : IsLastSize events last)
    (data : String) : IsLastSize (events ++ [.input data]) last := by
  cases last with
  | none =>
    intro cols rows hmem
    rcases List.mem_append.1 hmem with hmem | hmem
    · exact h cols rows hmem
    · cases List.mem_singleton.1 hmem
  | some event =>
    obtain ⟨before, cols, rows, later, hevent, rfl, hlater⟩ := h
    refine ⟨before, cols, rows, later ++ [.input data], hevent, by simp, fun cols rows hmem => ?_⟩
    rcases List.mem_append.1 hmem with hmem | hmem
    · exact hlater cols rows hmem
    · cases List.mem_singleton.1 hmem

namespace Handshake

variable {handshake : Handshake} {result : Except DialFault Unit}

/-! ### One pass -/

theorem session_take (handshake : Handshake) (event : Event) : (handshake.take event).session = handshake.session := by
  cases event <;> rfl

theorem isLastSize_take {events : List Event} (h : IsLastSize events handshake.pending) (event : Event) :
    IsLastSize (events ++ [event]) (handshake.take event).pending := by
  cases event with
  | input data => exact h.concat_input data
  | resize cols rows => exact isLastSize_concat_resize events cols rows

/-! ### The passes of a loop -/

/-- The end of the terminal's events leaves the loop wherever it stands. -/
theorem run_of_none_mem {waiting : List (Option Event)} (h : none ∈ waiting) :
    handshake.run result waiting = .over handshake.session .detached := by
  induction waiting generalizing handshake with
  | nil => cases h
  | cons event? waiting ih =>
    cases event? with
    | none => rfl
    | some event =>
      have hlater : none ∈ waiting := by simpa using h
      rw [run, ih hlater, session_take]

/-- Until dialling ends, the passes add up to the last size of what came up before and meanwhile. -/
theorem exists_run_eq_conclude {seen : List Event} (h : IsLastSize seen handshake.pending) (events : List Event) :
    ∃ last, IsLastSize (seen ++ events) last ∧
      handshake.run result (events.map some) = conclude ⟨handshake.session, last⟩ result := by
  induction events generalizing handshake seen with
  | nil => exact ⟨handshake.pending, by rwa [List.append_nil], rfl⟩
  | cons event events ih =>
    obtain ⟨last, hlast, hrun⟩ := ih (isLastSize_take h event)
    rw [List.append_assoc, List.singleton_append] at hlast
    refine ⟨last, hlast, ?_⟩
    rw [List.map_cons, run, hrun, session_take]

theorem exists_run_start (session : Session) (events : List Event) (result : Except DialFault Unit) :
    ∃ last, IsLastSize events last ∧ (start session).run result (events.map some) = conclude ⟨session, last⟩ result := by
  have hstart : IsLastSize [] (start session).pending := isLastSize_nil
  exact exists_run_eq_conclude hstart events

end Handshake

end PodAttach.Bridge
