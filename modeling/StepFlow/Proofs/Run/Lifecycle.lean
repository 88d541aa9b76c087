import StepFlow.Proofs.Run.Shape

/-!
# The life of a record

The record of a run can be told to start, to keep a result and to finish. It starts once and
finishes once, whatever it is told in whatever order: what comes out of turn is refused and leaves
the record as it is. A run on a record that has started is refused in the same way.
-/
namespace StepFlow

namespace Context

inductive Command where
  | start (now : Moment) (step : String)
  | record (r : StepResult)
  | finish (now : Moment) (state : RunState) (error : Option Value)

namespace Command

def result? : Command → Option StepResult
  | record r => some r
  | _ => none

def closes : Command → Bool
  | finish _ state _ => state.isTerminal
  | _ => false

end Command

/-- The results that a record keeps on commands, which are those before it is finished. -/
def kept : List Command → List StepResult
  | [] => []
  | command :: rest => if command.closes then [] else command.result?.toList ++ kept rest

def obey (c : Context) : Command → Except Fault Context
  | .start now step => c.start now step
  | .record r => c.record r
  | .finish now state error => c.finish now state error

def attempt (c : Context) (command : Command) : Except Fault Unit × Context :=
  match c.obey command with
  | .ok c' => (.ok (), c')
  | .error fault => (.error fault, c)

def after (c : Context) (commands : List Command) : Context :=
  commands.foldl (fun c command => (c.attempt command).2) c

inductive Takes (c : Context) : Command → Except Fault Unit × Context → Prop
  | started {now : Moment} {step : String} : c.state = .notStarted →
    Takes c (.start now step) (.ok (),
      { c with state := .running, startTime := some now, currentStep := some step })
  | recorded {r : StepResult} : c.state.isTerminal = false → Takes c (.record r) (.ok (), c.keep r)
  | finished {now : Moment} {state : RunState} {error : Option Value} : c.state.isTerminal = false →
    state.isTerminal = true → Takes c (.finish now state error) (.ok (),
      { c with state, error, endTime := some now })
  | startedBefore {now : Moment} {step : String} : c.state ≠ .notStarted →
    Takes c (.start now step) (.error (.runStarted c.sessionId), c)
  | recordedLate {r : StepResult} : c.state.isTerminal = true →
    Takes c (.record r) (.error (.runFinished c.sessionId), c)
  | finishedBefore {now : Moment} {state : RunState} {error : Option Value} :
    c.state.isTerminal = true →
    Takes c (.finish now state error) (.error (.runFinished c.sessionId), c)
  | unfinished {now : Moment} {state : RunState} {error : Option Value} :
    c.state.isTerminal = false →
    state.isTerminal = false → Takes c (.finish now state error) (.error (.notTerminal state), c)

variable {c : Context} {commands : List Command} {command : Command}
  {out : Except Fault Unit × Context}

theorem takes_attempt (h : c.endTime.isSome = c.state.isTerminal) (command : Command) :
    c.Takes command (c.attempt command) := by
  have hfinished : c.isFinished = c.state.isTerminal := h
  unfold attempt obey
  cases command with
  | start now step =>
    dsimp only [Context.start]
    by_cases hstate : c.state = .notStarted
    · rw [if_pos hstate]
      exact .started hstate
    · rw [if_neg hstate]
      exact .startedBefore hstate
  | record r =>
    dsimp only [Context.record]
    rw [hfinished]
    by_cases hstate : c.state.isTerminal = true
    · rw [if_pos hstate]
      exact .recordedLate hstate
    · rw [if_neg hstate]
      exact .recorded (Bool.eq_false_iff.2 hstate)
  | finish now state error =>
    dsimp only [Context.finish]
    rw [hfinished]
    by_cases hstate : c.state.isTerminal = true
    · rw [if_pos hstate]
      exact .finishedBefore hstate
    · rw [if_neg hstate]
      by_cases hnext : state.isTerminal = true
      · rw [if_pos hnext]
        exact .finished (Bool.eq_false_iff.2 hstate) hnext
      · rw [if_neg hnext]
        exact .unfinished (Bool.eq_false_iff.2 hstate) (Bool.eq_false_iff.2 hnext)

theorem Takes.of_terminal (h : c.Takes command out) (hstate : c.state.isTerminal = true) :
    ∃ fault, out = (.error fault, c) := by
  cases h with
  | started hc => simp [hc, RunState.isTerminal] at hstate
  | recorded hc => cases hstate.symm.trans hc
  | finished hc => cases hstate.symm.trans hc
  | startedBefore => exact ⟨_, rfl⟩
  | recordedLate => exact ⟨_, rfl⟩
  | finishedBefore => exact ⟨_, rfl⟩
  | unfinished => exact ⟨_, rfl⟩

theorem Takes.of_error {fault : Fault} (h : c.Takes command out) (hfault : out.1 = .error fault) :
    out.2 = c := by
  cases h <;> cases hfault <;> rfl

theorem kept_concat (commands : List Command) (command : Command) :
    kept (commands ++ [command]) =
      if commands.any Command.closes then kept commands
      else kept commands ++ command.result?.toList := by
  induction commands with
  | nil => cases command <;> simp [kept, Command.closes, Command.result?]
  | cons first rest ih =>
    rw [List.cons_append, kept, kept, ih, List.any_cons]
    cases first.closes with
    | true => rfl
    | false => cases rest.any Command.closes <;> simp

structure Lived (c : Context) (commands : List Command) : Prop where
  endTime : c.endTime.isSome = c.state.isTerminal
  closed : c.state.isTerminal = commands.any Command.closes
  history : c.history = (kept commands).map StepResult.stepId
  keys : c.results.map Prod.fst = c.history.eraseDups
  results : ∀ id, c.result? id = ((kept commands).filter fun r => r.stepId == id).getLast?
  lastResult : c.lastResult? = (kept commands).getLast?

theorem lived_fresh (h : c.Fresh) : c.Lived [] where
  endTime := by rw [h.endTime, h.state]; rfl
  closed := by rw [h.state]; rfl
  history := h.history
  keys := by rw [h.results, h.history]; rfl
  results id := by rw [result?, h.results]; rfl
  lastResult := by rw [lastResult?, h.history]; rfl

/-- On a command that gives nothing to keep, only the end of the record may change. -/
theorem Lived.of_kept {c' : Context} (h : c.Lived commands)
    (hkept : kept (commands ++ [command]) = kept commands) (hhistory : c'.history = c.history)
    (hresults : c'.results = c.results) (hend : c'.endTime.isSome = c'.state.isTerminal)
    (hclosed : c'.state.isTerminal = (c.state.isTerminal || command.closes)) :
    c'.Lived (commands ++ [command]) := by
  have hresult : c'.result? = c.result? := by
    funext id
    unfold result?
    rw [hresults]
  exact {
    endTime := hend
    closed := by simp [hclosed, h.closed]
    history := by rw [hhistory, hkept, h.history]
    keys := by rw [hresults, hhistory, h.keys]
    results := by rw [hresult, hkept]; exact h.results
    lastResult := by rw [hkept, ← h.lastResult, lastResult?, hhistory, hresult, lastResult?] }

theorem Lived.record {r : StepResult} (h : c.Lived commands) (hstate : c.state.isTerminal = false) :
    (c.keep r).Lived (commands ++ [.record r]) := by
  have hkept : kept (commands ++ [.record r]) = kept commands ++ [r] := by
    rw [kept_concat, ← h.closed, hstate]
    rfl
  exact {
    endTime := h.endTime
    closed := by simp [← h.closed, keep, Command.closes]
    history := by rw [hkept, List.map_append, ← h.history]; rfl
    keys := keys_keep h.keys r
    results := fun id => by
      rw [result?_keep, hkept, List.filter_append, List.getLast?_append, h.results]
      by_cases hid : r.stepId = id <;> simp [hid]
    lastResult := by
      have hlast : (c.keep r).history.getLast? = some r.stepId := List.getLast?_concat
      rw [hkept, List.getLast?_concat, lastResult?, hlast, Option.bind_some,
        result?_keep, if_pos rfl] }

theorem Lived.takes (h : c.Lived commands) (htakes : c.Takes command out) :
    out.2.Lived (commands ++ [command]) := by
  have hkept (hnone : command.result? = none) : kept (commands ++ [command]) = kept commands := by
    rw [kept_concat, hnone]
    split <;> simp
  cases htakes with
  | started hstate =>
    have hend : c.endTime.isSome = false := by rw [h.endTime, hstate]; rfl
    exact h.of_kept (hkept rfl) rfl rfl hend (by rw [hstate]; rfl)
  | recorded hstate => exact h.record hstate
  | finished hstate hnext =>
    exact h.of_kept (hkept rfl) rfl rfl hnext.symm (by simp [Command.closes, hnext])
  | startedBefore _ => exact h.of_kept (hkept rfl) rfl rfl h.endTime (by simp [Command.closes])
  | recordedLate hstate =>
    refine h.of_kept ?_ rfl rfl h.endTime (by simp [Command.closes])
    rw [kept_concat, ← h.closed, if_pos hstate]
  | finishedBefore hstate => exact h.of_kept (hkept rfl) rfl rfl h.endTime (by simp [hstate])
  | unfinished hstate hnext =>
    exact h.of_kept (hkept rfl) rfl rfl h.endTime (by simp [Command.closes, hnext])

theorem lived_after (h : c.Lived commands) (more : List Command) :
    (c.after more).Lived (commands ++ more) := by
  induction more generalizing c commands with
  | nil =>
    rw [List.append_nil]
    exact h
  | cons command more ih =>
    have hnext := ih (h.takes (takes_attempt h.endTime command))
    rw [List.append_assoc] at hnext
    exact hnext

theorem Lived.after_of_terminal (h : c.Lived commands) (hstate : c.state.isTerminal = true)
    (more : List Command) :
    c.after more = c := by
  induction more with
  | nil => rfl
  | cons command more ih =>
    obtain ⟨fault, hrefused⟩ := (takes_attempt h.endTime command).of_terminal hstate
    rw [after, List.foldl_cons, hrefused]
    exact ih

end Context

theorem Executor.run_of_started {σ : Type} {x : Executor σ} {f : Flow} {c : Context} {w : World σ}
    (h : c.state ≠ .notStarted) :
    ∃ fault, x.run f c w = (.error fault, c, w.openEmitter.closeEmitter) ∧
      ∀ start, f.start = .ok start → fault = .runStarted c.sessionId := by
  unfold run drive depart
  cases hstart : f.start with
  | error fault => exact ⟨fault, rfl, nofun⟩
  | ok start =>
    have hrefused : c.start w.openEmitter.now start = .error (.runStarted c.sessionId) := if_neg h
    dsimp only
    rw [hrefused]
    exact ⟨_, rfl, fun _ _ => rfl⟩

namespace Context

/-- A record lives once. It has an end just if its state is terminal; each command takes it from
state to state as `Takes` says, and one that is refused leaves it as it is, as all do after it has
finished. The results that it was told to keep before that are all in its history, and of each step
it has the last. A run on a record that has started is refused, tells nobody, calls no worker and
leaves the record as it is. -/
theorem follows_lifecycle (flowId query sessionId : String) (callerContext : Entries)
    (commands : List Command) :
    let c := after { flowId, query, callerContext, sessionId } commands
    (c.endTime.isSome = true ↔ c.state.isTerminal = true) ∧
    (∀ command, c.Takes command (c.attempt command)) ∧
    (∀ command fault, (c.attempt command).1 = .error fault → (c.attempt command).2 = c) ∧
    (c.state.isTerminal = true →
      ∀ more, c.after more = c ∧ ∀ command, ∃ fault, c.attempt command = (.error fault, c)) ∧
    c.history = (kept commands).map StepResult.stepId ∧
    c.results.map Prod.fst = c.history.eraseDups ∧
    (∀ id, c.result? id = ((kept commands).filter fun r => r.stepId == id).getLast?) ∧
    c.lastResult? = (kept commands).getLast? ∧
    ∀ {σ : Type} (x : Executor σ) (f : Flow) (c' : Context) (w : World σ), c'.state ≠ .notStarted →
      ∃ fault w', x.run f c' w = (.error fault, c', w') ∧
        (∀ start, f.start = .ok start → fault = .runStarted c'.sessionId) ∧ w'.emitted = w.emitted ∧
        w'.calls = w.calls ∧ w'.memory = w.memory ∧ w'.token = w.token := by
  intro c
  have hlived : c.Lived commands :=
    lived_after (lived_fresh ⟨rfl, rfl, rfl, rfl, rfl, rfl⟩) commands
  have htakes := takes_attempt hlived.endTime
  refine ⟨by rw [hlived.endTime], htakes, fun command _ => (htakes command).of_error, ?_,
    hlived.history, hlived.keys, hlived.results, hlived.lastResult, ?_⟩
  · intro hstate more
    exact ⟨hlived.after_of_terminal hstate more, fun command => (htakes command).of_terminal hstate⟩
  · intro σ x f c' w hstarted
    obtain ⟨fault, hrun, hfault⟩ := Executor.run_of_started (x := x) (f := f) (w := w) hstarted
    exact ⟨fault, _, hrun, hfault, rfl, rfl, rfl, rfl⟩

end Context
end StepFlow
