import StepFlow.Proofs.Flow.Transition
import StepFlow.Proofs.Run.Execution
import StepFlow.Run.Drive

/-!
# The course of a run

A run goes through passes, each of which starts from a step id, a context and a world. A pass that
gets to the execution of a step is a visit. The relation `Turn` says what one pass comes to, and
`Course` what all of them come to, in a world where events can be emitted.
-/
namespace StepFlow

theorem Context.record_eq (c : Context) (hc : c.endTime = none) (r : StepResult) :
    c.record r = .ok (c.keep r) := by
  simp [record, isFinished, hc]

structure Pass (σ : Type) where
  current : String
  context : Context
  world : World σ

structure Visit (σ : Type) where
  step : Step
  context : Context
  before : World σ
  outcome : Except Fault StepResult
  after : World σ

namespace Visit
variable {σ : Type}

def calls (v : Visit σ) : List Call := v.after.calls.drop v.before.calls.length

def startEvent (v : Visit σ) : Event := Executor.startEvent v.context v.step v.before.now

def executed? (v : Visit σ) : Option (Step × StepResult) :=
  match v.outcome with
  | .ok r => some (v.step, r)
  | .error _ => none

theorem executed?_eq_some_iff {v : Visit σ} {s : Step} {r : StepResult} :
    v.executed? = some (s, r) ↔ v.step = s ∧ v.outcome = .ok r := by
  unfold executed?
  cases v.outcome <;> simp

theorem executed?_of_ok {v : Visit σ} {r : StepResult} (h : v.outcome = .ok r) :
    v.executed? = some (v.step, r) :=
  executed?_eq_some_iff.2 ⟨rfl, h⟩

theorem executed?_of_error {v : Visit σ} {fault : Fault} (h : v.outcome = .error fault) :
    v.executed? = none := by
  rw [executed?, h]

theorem calls_eq {v : Visit σ} {made : List Call} {told : List Event}
    (h : v.before.Progress made told v.after) :
    v.calls = made := by
  unfold calls
  rw [h.calls, List.drop_left]

/-- A visit raises a fault in its execution, or where the next step is chosen by its result. -/
inductive Raises (f : Flow) (v : Visit σ) (fault : Fault) : Prop
  | execution : v.outcome = .error fault → Raises f v fault
  | transition {r : StepResult} : v.outcome = .ok r →
    nextStep v.step r.status r.output f = .error fault → Raises f v fault

end Visit

namespace Executor
variable {σ : Type}

/-- The passes from a step on; after the first at most `left` more may follow. -/
def passesFrom (x : Executor σ) (f : Flow) (left : Nat) (current : String) (c : Context)
    (w : World σ) :
    List (Pass σ) :=
  ⟨current, c, w⟩ :: match x.advance f current c w, left with
    | (.next id, c, w), left + 1 => passesFrom x f left id c w
    | _, _ => []

def visit? (x : Executor σ) (f : Flow) (p : Pass σ) : Option (Visit σ) :=
  match p.world.checkToken, f.step? p.current with
  | .ok (), some s =>
    let (outcome, after) := x.execute (x.present p.world s) f p.context p.world
    some ⟨s, p.context, p.world, outcome, after⟩
  | _, _ => none

def visitsOf (x : Executor σ) (f : Flow) (passes : List (Pass σ)) : List (Visit σ) :=
  passes.flatMap fun p => (x.visit? f p).toList

def passes (x : Executor σ) (f : Flow) (c : Context) (w : World σ) : List (Pass σ) :=
  match depart f c w.openEmitter with
  | (.ok start, c, w) => x.passesFrom f (x.config.maxSteps.toNat - 1) start c w
  | _ => []

def visits (x : Executor σ) (f : Flow) (c : Context) (w : World σ) : List (Visit σ) :=
  x.visitsOf f (x.passes f c w)

theorem visit?_eq_some {x : Executor σ} {f : Flow} {p : Pass σ} {v : Visit σ}
    (h : x.visit? f p = some v) :
    v.context = p.context ∧ v.before = p.world ∧ f.step? p.current = some v.step ∧
      x.execute (x.present p.world v.step) f p.context p.world = (v.outcome, v.after) := by
  unfold visit? at h
  split at h
  · next hs =>
    cases h
    exact ⟨rfl, rfl, hs, rfl⟩
  · cases h

theorem mem_visits {x : Executor σ} {f : Flow} {c : Context} {w : World σ} {v : Visit σ}
    (hv : v ∈ x.visits f c w) :
    ∃ p ∈ x.passes f c w, x.visit? f p = some v := by
  obtain ⟨p, hp, hvisit⟩ := List.mem_flatMap.1 hv
  exact ⟨p, hp, Option.mem_toList.1 hvisit⟩

structure Kept (x : Executor σ) (f : Flow) (current : String) (v : Visit σ) (r : StepResult)
    (w : World σ) : Prop where
  uncancelled : v.before.cancellation = none
  found : f.step? current = some v.step
  executed : x.execute (x.present v.before v.step) f v.context v.before = (.ok r, v.after)
  outcome : v.outcome = .ok r
  announced : v.after.Progress [] [completeEvent (v.context.keep r) v.step r v.after.now] w

inductive Turn (x : Executor σ) (f : Flow) (current : String) (c : Context) (w : World σ) :
    Option (Visit σ) → Advance × Context × World σ → Prop
  | cancelled {reason : Option String} : w.cancellation = some reason →
    Turn x f current c w none (.stop (.cancelled reason), c, w)
  | missing : w.cancellation = none → f.step? current = none →
    Turn x f current c w none (.stop (.stepNotFound f.id current), c, w)
  | raised {s : Step} {fault : Fault} {w' : World σ} :
    w.cancellation = none → f.step? current = some s →
    x.execute (x.present w s) f c w = (.error fault, w') →
      Turn x f current c w (some ⟨s, c, w, .error fault, w'⟩) (.stop fault, c, w')
  | cutOff {s : Step} {r : StepResult} {w' w'' : World σ} {reason : Option String} :
    x.Kept f current ⟨s, c, w, .ok r, w'⟩ r w'' → w'.cancellation = some reason →
      Turn x f current c w (some ⟨s, c, w, .ok r, w'⟩) (.stop (.cancelled reason), c.keep r, w'')
  | undecided {s : Step} {r : StepResult} {w' w'' : World σ} {fault : Fault} :
    x.Kept f current ⟨s, c, w, .ok r, w'⟩ r w'' → w'.cancellation = none →
      nextStep s r.status r.output f = .error fault →
        Turn x f current c w (some ⟨s, c, w, .ok r, w'⟩) (.stop fault, c.keep r, w'')
  | went {s : Step} {r : StepResult} {w' w'' : World σ} {id : String} :
    x.Kept f current ⟨s, c, w, .ok r, w'⟩ r w'' → w'.cancellation = none →
      nextStep s r.status r.output f = .ok (some id) →
        Turn x f current c w (some ⟨s, c, w, .ok r, w'⟩) (.next id,
          (c.keep r).moveOn (some id), w'')
  | ended {s : Step} {r : StepResult} {w' w'' : World σ} :
    x.Kept f current ⟨s, c, w, .ok r, w'⟩ r w'' → w'.cancellation = none →
      nextStep s r.status r.output f = .ok none →
        Turn x f current c w (some ⟨s, c, w, .ok r, w'⟩) (.complete, (c.keep r).moveOn none, w'')

inductive Course (x : Executor σ) (f : Flow) : Nat → String → Context → World σ →
    List (Visit σ) → Except Fault Unit × Context × World σ → Prop
  | stopped {left : Nat} {current : String} {c c' : Context} {w w' : World σ}
    {v : Option (Visit σ)} {fault : Fault} :
    x.Turn f current c w v (.stop fault, c', w') →
      Course x f left current c w v.toList (.error fault, c', w')
  | completed {left : Nat} {current : String} {c c' : Context}
    {w w' : World σ} {v : Option (Visit σ)} :
    x.Turn f current c w v (.complete, c', w') →
      Course x f left current c w v.toList (.ok (), c', w')
  | limited {current id : String} {c c' : Context} {w w' : World σ} {v : Option (Visit σ)} :
    x.Turn f current c w v (.next id, c', w') →
      Course x f 0 current c w v.toList (.error (.stepLimit f.id x.config.maxSteps id), c', w')
  | continued {left : Nat} {current id : String} {c c' : Context}
      {w w' : World σ} {v : Option (Visit σ)}
      {vs : List (Visit σ)} {result : Except Fault Unit × Context × World σ} :
    x.Turn f current c w v (.next id, c', w') → Course x f left id c' w' vs result →
      Course x f (left + 1) current c w (v.toList ++ vs) result

variable {x : Executor σ} {f : Flow} {current : String} {c : Context} {w : World σ}

theorem turn (x : Executor σ) (f : Flow) (current : String) (hw : w.Open) (hc : c.endTime = none) :
    x.Turn f current c w (x.visit? f ⟨current, c, w⟩) (x.advance f current c w) := by
  unfold visit? advance
  rw [World.checkToken_eq]
  cases hcancel : w.cancellation with
  | some reason => exact .cancelled hcancel
  | none =>
    dsimp only
    cases hstep : f.step? current with
    | none => exact .missing hcancel hstep
    | some s =>
      dsimp only
      cases hexecute : x.execute (x.present w s) f c w with
      | mk outcome w' =>
        cases outcome with
        | error fault => exact .raised hcancel hstep hexecute
        | ok r =>
          have hopen : w'.Open := by
            obtain ⟨calls, notes, hprogress, -⟩ := progress_execute hw hexecute
            exact hprogress.open hw
          obtain ⟨w'', hemit, hannounced⟩ := hopen.emit (completeEvent (c.keep r) s r w'.now)
          have hkept : x.Kept f current ⟨s, c, w, .ok r, w'⟩ r w'' :=
            ⟨hcancel, hstep, hexecute, rfl, hannounced⟩
          dsimp only
          unfold settleStep
          rw [c.record_eq hc]
          dsimp only
          rw [hemit]
          dsimp only
          rw [World.checkToken_eq, hannounced.cancellation_of_no_calls]
          cases hcut : w'.cancellation with
          | some reason => exact .cutOff hkept hcut
          | none =>
            dsimp only
            cases hnext : nextStep s r.status r.output f with
            | error fault => exact .undecided hkept hcut hnext
            | ok next =>
              cases next with
              | some id => exact .went hkept hcut hnext
              | none => exact .ended hkept hcut hnext

def IsStepEvent (e : Event) : Prop :=
  e.kind = .stepStart ∨ e.kind = .thinking ∨ e.kind = .stepError ∨ e.kind = .stepComplete

def startsOf (told : List Event) : List Event := told.filter fun e => e.kind == .stepStart

theorem startsOf_append (told more : List Event) :
    startsOf (told ++ more) = startsOf told ++ startsOf more :=
  List.filter_append ..

/-- A later world, after visits with their calls, their starts, and further events about their
steps. -/
def Through (w : World σ) (vs : List (Visit σ)) (w' : World σ) : Prop :=
  ∃ told, w.Progress (vs.flatMap Visit.calls) told w' ∧ startsOf told = vs.map Visit.startEvent ∧
    ∀ e ∈ told, IsStepEvent e

theorem Through.refl (w : World σ) : Through w [] w := ⟨[], .refl w, rfl, by simp⟩

theorem Through.trans {w w' w'' : World σ} {vs vs' : List (Visit σ)} (h : Through w vs w')
    (g : Through w' vs' w'') :
    Through w (vs ++ vs') w'' := by
  obtain ⟨told, hprogress, hstarts, hevents⟩ := h
  obtain ⟨more, hmore, hmoreStarts, hmoreEvents⟩ := g
  refine ⟨told ++ more, ?_, ?_, List.forall_mem_append.2 ⟨hevents, hmoreEvents⟩⟩
  · rw [List.flatMap_append]
    exact hprogress.trans hmore
  · rw [startsOf_append, hstarts, hmoreStarts, List.map_append]

theorem Through.open {w w' : World σ} {vs : List (Visit σ)} (h : Through w vs w') (hw : w.Open) :
    w'.Open := by
  obtain ⟨told, hprogress, -⟩ := h
  exact hprogress.open hw

theorem through_visit {v : Visit σ} (hw : v.before.Open)
    (h : x.execute (x.present v.before v.step) f v.context v.before = (v.outcome, v.after)) :
    Through v.before [v] v.after := by
  obtain ⟨made, notes, hprogress, hnotes⟩ := progress_execute hw h
  have hcalls : [v].flatMap Visit.calls = made := by
    rw [List.flatMap_singleton, v.calls_eq hprogress]
  refine ⟨_, hcalls ▸ hprogress, ?_, ?_⟩
  · have hno : startsOf notes = [] := by
      apply List.filter_eq_nil_iff.2
      intro e he
      rcases (hnotes e he).1 with hkind | hkind <;> simp [hkind]
    exact congrArg (v.startEvent :: ·) hno
  · intro e he
    rcases List.mem_cons.1 he with rfl | he
    · exact .inl rfl
    · rcases (hnotes e he).1 with hkind | hkind
      · exact .inr (.inl hkind)
      · exact .inr (.inr (.inl hkind))

theorem Kept.through {v : Visit σ} {r : StepResult} {w : World σ} (hw : v.before.Open)
    (h : x.Kept f current v r w) :
    Through v.before [v] w := by
  have hannounced : Through v.after [] w := by
    refine ⟨_, h.announced, rfl, ?_⟩
    intro e he
    rw [List.mem_singleton.1 he]
    exact .inr (.inr (.inr rfl))
  exact (through_visit hw (h.outcome ▸ h.executed)).trans hannounced

variable {v : Option (Visit σ)} {a : Advance} {c' : Context} {w' : World σ}

theorem Turn.through (hw : w.Open) (h : x.Turn f current c w v (a, c', w')) :
    Through w v.toList w' := by
  cases h with
  | cancelled => exact .refl w
  | missing => exact .refl w
  | raised _ _ hexecute => exact through_visit (v := ⟨_, _, _, _, _⟩) hw hexecute
  | cutOff hkept => exact hkept.through hw
  | undecided hkept => exact hkept.through hw
  | went hkept => exact hkept.through hw
  | ended hkept => exact hkept.through hw

theorem Turn.endTime (h : x.Turn f current c w v (a, c', w')) : c'.endTime = c.endTime := by
  cases h <;> rfl

variable {left : Nat} {vs : List (Visit σ)} {out : Except Fault Unit × Context × World σ}

theorem visitsOf_passesFrom (left : Nat) (current : String) (c : Context) (w : World σ) :
    x.visitsOf f (x.passesFrom f left current c w) =
      (x.visit? f ⟨current, c, w⟩).toList ++ match x.advance f current c w, left with
        | (.next id, c, w), left + 1 => x.visitsOf f (x.passesFrom f left id c w)
        | _, _ => [] := by
  rw [passesFrom.eq_def]
  unfold visitsOf
  rw [List.flatMap_cons]
  generalize x.advance f current c w = advanced
  obtain ⟨a, c', w'⟩ := advanced
  cases a <;> cases left <;> rfl

theorem course (x : Executor σ) (f : Flow) (left : Nat) (current : String) (hw : w.Open)
    (hc : c.endTime = none) :
    x.Course f left current c w (x.visitsOf f (x.passesFrom f left current c w))
      (x.walk f left current c w) := by
  rw [visitsOf_passesFrom]
  fun_induction walk x f left current c w with
  | case1 left current c w fault c' w' hadvance =>
    rw [hadvance, List.append_nil]
    exact .stopped (hadvance ▸ turn x f current hw hc)
  | case2 left current c w c' w' hadvance =>
    rw [hadvance, List.append_nil]
    exact .completed (hadvance ▸ turn x f current hw hc)
  | case3 current c w id c' w' hadvance =>
    rw [hadvance, List.append_nil]
    exact .limited (hadvance ▸ turn x f current hw hc)
  | case4 current c w id c' w' hadvance left ih =>
    have hturn := hadvance ▸ turn x f current hw hc
    rw [hadvance]
    dsimp only
    rw [visitsOf_passesFrom]
    exact .continued hturn (ih ((hturn.through hw).open hw) (hturn.endTime.trans hc))

theorem Course.through (hw : w.Open) (h : x.Course f left current c w vs out) :
    Through w vs out.2.2 := by
  induction h with
  | stopped hturn => exact hturn.through hw
  | completed hturn => exact hturn.through hw
  | limited hturn => exact hturn.through hw
  | continued hturn _ ih =>
    have hstep := hturn.through hw
    exact hstep.trans (ih (hstep.open hw))

theorem Course.endTime (h : x.Course f left current c w vs out) : out.2.1.endTime = c.endTime := by
  induction h with
  | stopped hturn => exact hturn.endTime
  | completed hturn => exact hturn.endTime
  | limited hturn => exact hturn.endTime
  | continued hturn _ ih => exact ih.trans hturn.endTime

theorem Course.unended (h : x.Course f left current c w vs out) :
    out.2.1.state = c.state ∧ out.2.1.error = c.error := by
  have hturn {current : String} {c c' : Context} {w w' : World σ}
      {v : Option (Visit σ)} {a : Advance}
      (h : x.Turn f current c w v (a, c', w')) : c'.state = c.state ∧ c'.error = c.error := by
    cases h <;> exact ⟨rfl, rfl⟩
  induction h with
  | stopped h => exact hturn h
  | completed h => exact hturn h
  | limited h => exact hturn h
  | continued h _ ih => exact ⟨ih.1.trans (hturn h).1, ih.2.trans (hturn h).2⟩

theorem Course.silent {fault own : Fault} (h : x.Course f left current c w vs out)
    (hresult : out.1 = .error fault) (hsilent : fault.spoken = .error own) :
    ∃ v, vs.getLast? = some v ∧ v.Raises f fault := by
  induction h with
  | stopped hturn =>
    cases hturn with
    | raised =>
      cases hresult
      exact ⟨_, rfl, .execution rfl⟩
    | undecided _ _ hnext =>
      cases hresult
      exact ⟨_, rfl, .transition rfl hnext⟩
    | _ =>
      cases hresult
      cases hsilent
  | completed => cases hresult
  | limited =>
    cases hresult
    cases hsilent
  | continued _ _ ih =>
    obtain ⟨v, hlast, hfault⟩ := ih hresult
    exact ⟨v, by rw [List.getLast?_append, hlast, Option.some_or], hfault⟩

/-- A visit to a declared step, in a world where events can be emitted and before any
cancellation. -/
structure Proper (x : Executor σ) (f : Flow) (v : Visit σ) : Prop where
  opened : v.before.Open
  uncancelled : v.before.cancellation = none
  declared : f.step? v.step.id = some v.step
  executed : x.execute (x.present v.before v.step) f v.context v.before = (v.outcome, v.after)

theorem Kept.proper {v : Visit σ} {r : StepResult} (hw : v.before.Open)
    (h : x.Kept f current v r w) :
    x.Proper f v where
  opened := hw
  uncancelled := h.uncancelled
  declared := by rw [(Flow.step?_eq_some h.found).2, h.found]
  executed := by rw [h.outcome, h.executed]

theorem Turn.proper (hw : w.Open) (h : x.Turn f current c w v (a, c', w')) :
    ∀ u ∈ v, x.Proper f u := by
  cases h with
  | cancelled => simp
  | missing => simp
  | raised huncancelled hfound hexecute =>
    rintro _ ⟨⟩
    exact ⟨hw, huncancelled, by rw [(Flow.step?_eq_some hfound).2, hfound], hexecute⟩
  | cutOff h =>
    rintro _ ⟨⟩
    exact h.proper hw
  | undecided h =>
    rintro _ ⟨⟩
    exact h.proper hw
  | went h =>
    rintro _ ⟨⟩
    exact h.proper hw
  | ended h =>
    rintro _ ⟨⟩
    exact h.proper hw

theorem Course.proper (hw : w.Open) (h : x.Course f left current c w vs out) :
    ∀ u ∈ vs, x.Proper f u := by
  induction h with
  | stopped hturn => simpa using hturn.proper hw
  | completed hturn => simpa using hturn.proper hw
  | limited hturn => simpa using hturn.proper hw
  | continued hturn _ ih =>
    have hfirst := hturn.proper hw
    exact List.forall_mem_append.2 ⟨by simpa using hfirst, ih ((hturn.through hw).open hw)⟩

theorem Proper.length_calls {v : Visit σ} {n : Nat} (h : x.Proper f v)
    (hactions : ∀ e ∈ x.actions, ∀ input context, (e.2.job input context).AsksAtMost n) :
    v.calls.length ≤ n := by
  have hlength := length_calls_execute hactions h.opened h.executed
  rw [Visit.calls, List.length_drop]
  omega

end Executor
end StepFlow
