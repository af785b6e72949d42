import Mathlib.Data.List.Induction

/-!
Contract: runs of a system whose events may be impossible in some states.

Owns:
- `Run`, the states a list of events can lead to;
- `Run.keeps`, the induction over a run for what holds of its events and its state;
- `runAll`, which runs a list of events, and `Run.of_runAll`.

Does not own: any system.
-/

namespace DrogonPay.Steps

variable {St Ev : Type} {step : St → Ev → Option St} {start state : St} {events : List Ev}

/-- The state that a list of events, in its order, leads to. -/
inductive Run (step : St → Ev → Option St) (start : St) : List Ev → St → Prop where
  | nil : Run step start [] start
  | snoc {events : List Ev} {event : Ev} {state next : St} (run : Run step start events state)
      (stepped : step state event = some next) : Run step start (events ++ [event]) next

/-- What holds at first and is kept by every step holds after every run. -/
theorem Run.keeps {P : List Ev → St → Prop} (run : Run step start events state)
    (first : P [] start)
    (each : ∀ {events : List Ev} {event : Ev} {state next : St}, P events state →
      step state event = some next → P (events ++ [event]) next) : P events state := by
  induction run with
  | nil => exact first
  | snoc _ stepped inductionHypothesis => exact each inductionHypothesis stepped

def runAll (step : St → Ev → Option St) (state : St) : List Ev → Option St
  | [] => some state
  | event :: events => (step state event).bind fun next => runAll step next events

theorem Run.onward {before : List Ev} (run : Run step start before state) {final : St}
    (ran : runAll step state events = some final) : Run step start (before ++ events) final := by
  induction events generalizing before state with
  | nil =>
      cases ran
      simpa using run
  | cons event rest inductionHypothesis =>
      obtain ⟨next, stepped, continued⟩ := Option.bind_eq_some_iff.mp ran
      simpa using inductionHypothesis (run.snoc stepped) continued

theorem Run.of_runAll (ran : runAll step start events = some state) :
    Run step start events state := by
  simpa using Run.nil.onward ran

end DrogonPay.Steps
