import StepFlow.Proofs.Run.Invariance

/-!
# The scopes of a token

A token is cancelled, and its scopes are entered and left, in any order: scopes lie in each other,
or belong to several runs that share the token. What a token has come to follows from the moves that
it went through. A run adds moves of its own and leaves every scope that it enters, however it ends.
-/
namespace StepFlow

namespace Token

/-- What is done to a token. A scope goes by the number of those that were entered before it. -/
inductive Move where
  | cancel (reason : Option String)
  | enter
  | leave (scope : Nat)
deriving DecidableEq

def Move.reason? : Move → Option (Option String)
  | cancel reason => some reason
  | _ => none

def make (t : Token) : Move → Token
  | .cancel reason => t.cancel reason
  | .enter => t.enter.2
  | .leave scope => t.leave scope

def after (t : Token) (moves : List Move) : Token := moves.foldl make t

def firstReason (moves : List Move) : Option (Option String) := (moves.filterMap Move.reason?).head?

def entries (moves : List Move) : Nat := moves.count .enter

def Came (p : List Move → Move → Prop) (moves : List Move) : Prop :=
  ∃ before move later, moves = before ++ move :: later ∧ p before move

def Left (moves : List Move) (scope : Nat) : Prop :=
  Came (fun before move => move = .leave scope ∧ scope < entries before) moves

/-- A cancellation came before the scope was left: while it was open, or before it was entered. -/
def Met (moves : List Move) (scope : Nat) : Prop :=
  Came (fun before move => (∃ reason, move = .cancel reason) ∧ ¬ Left before scope) moves

variable {t : Token} {moves : List Move} {scope : Nat} {p : List Move → Move → Prop}

theorem came_concat (move : Move) : Came p (moves ++ [move]) ↔ Came p moves ∨ p moves move := by
  constructor
  · rintro ⟨before, m, later, hmoves, hp⟩
    rcases List.eq_nil_or_concat later with rfl | ⟨later, last, rfl⟩
    · obtain ⟨rfl, hlast⟩ := List.append_inj' hmoves rfl
      cases hlast
      exact .inr hp
    · rw [List.concat_eq_append, ← List.cons_append, ← List.append_assoc] at hmoves
      obtain ⟨rfl, -⟩ := List.append_inj' hmoves rfl
      exact .inl ⟨before, m, later, rfl, hp⟩
  · rintro (⟨before, m, later, rfl, hp⟩ | hp)
    · exact ⟨before, m, later ++ [move], by simp, hp⟩
    · exact ⟨moves, move, [], rfl, hp⟩

theorem Came.append (h : Came p moves) (more : List Move) : Came p (moves ++ more) := by
  obtain ⟨before, move, later, rfl, hp⟩ := h
  exact ⟨before, move, later ++ more, by simp, hp⟩

theorem left_concat (move : Move) :
    Left (moves ++ [move]) scope ↔ Left moves scope ∨ move = .leave scope ∧ scope < entries moves :=
  came_concat move

theorem met_concat (move : Move) :
    Met (moves ++ [move]) scope ↔ Met moves scope ∨ (∃ reason, move = .cancel reason) ∧
      ¬ Left moves scope :=
  came_concat move

theorem Left.lt (h : Left moves scope) : scope < entries moves := by
  obtain ⟨before, move, later, rfl, -, hscope⟩ := h
  rw [entries, List.count_append]
  exact Nat.lt_add_right _ hscope

theorem met_of_firstReason {reason : Option String} (h : firstReason moves = some reason)
    (hscope : ¬ Left moves scope) : Met moves scope := by
  obtain ⟨move, hmove, hreason⟩ := List.mem_filterMap.1 (List.mem_of_mem_head? h)
  obtain ⟨before, later, rfl⟩ := List.append_of_mem hmove
  refine ⟨before, move, later, rfl, ?_, fun hleft => hscope (hleft.append _)⟩
  cases move with
  | cancel reason => exact ⟨reason, rfl⟩
  | enter => cases hreason
  | leave _ => cases hreason

theorem met_entries : Met moves (entries moves) ↔ (firstReason moves).isSome = true := by
  constructor
  · rintro ⟨before, move, later, rfl, ⟨reason, rfl⟩, -⟩
    simp [firstReason, Move.reason?]
  · intro h
    obtain ⟨reason, hfirst⟩ := Option.isSome_iff_exists.1 h
    exact met_of_firstReason hfirst fun hleft => Nat.lt_irrefl _ hleft.lt

@[simp] theorem entries_concat (move : Move) :
    entries (moves ++ [move]) = entries moves + if move = .enter then 1 else 0 := by
  simp [entries, List.count_append, List.count_singleton]

theorem firstReason_concat (move : Move) :
    firstReason (moves ++ [move]) = (firstReason moves).or move.reason? := by
  cases h : move.reason? <;> simp [firstReason, List.filterMap_append, List.head?_append, h]

theorem lt_succ_and_iff {n : Nat} (P : Nat → Prop) :
    scope < n + 1 ∧ P scope ↔ scope < n ∧ P scope ∨ scope = n ∧ P n := by
  rw [Nat.lt_succ_iff_lt_or_eq, or_and_right]
  refine or_congr_right ⟨?_, ?_⟩
  · rintro ⟨rfl, h⟩
    exact ⟨rfl, h⟩
  · rintro ⟨rfl, h⟩
    exact ⟨rfl, h⟩

structure Recounts (t : Token) (moves : List Move) : Prop where
  entered : t.entered = entries moves
  cancellation : t.cancellation = firstReason moves
  inFlight : ∀ scope, scope ∈ t.inFlight ↔ scope < entries moves ∧ ¬ Left moves scope
  nodup : t.inFlight.Nodup
  reached : ∀ scope, scope ∈ t.reached ↔ scope < entries moves ∧ Met moves scope

theorem recounts_new : Recounts {} [] where
  entered := rfl
  cancellation := rfl
  inFlight := by simp [entries]
  nodup := List.nodup_nil
  reached := by simp [entries]

theorem Recounts.cancelled (h : t.Recounts moves) : t.cancelled = (firstReason moves).isSome := by
  rw [← h.cancellation, Token.cancellation]
  cases t.cancelled <;> rfl

theorem Recounts.entered_notMem (h : t.Recounts moves) : t.entered ∉ t.inFlight := by
  rw [h.inFlight, h.entered]
  exact fun hmem => Nat.lt_irrefl _ hmem.1

theorem Recounts.cancel (h : t.Recounts moves) (reason : Option String) :
    (t.cancel reason).Recounts (moves ++ [.cancel reason]) := by
  have hleft (scope : Nat) : Left (moves ++ [.cancel reason]) scope ↔ Left moves scope := by
    simp [left_concat]
  have hmet (scope : Nat) : Met (moves ++ [.cancel reason]) scope ↔
      Met moves scope ∨ ¬ Left moves scope := by
    simp [met_concat]
  have hcancellation : (t.cancel reason).cancellation =
      firstReason (moves ++ [.cancel reason]) := by
    rw [cancellation_cancel, h.cancellation, firstReason_concat]
    rfl
  unfold Token.cancel at hcancellation ⊢
  split at hcancellation
  · next hcancelled =>
    rw [if_pos hcancelled]
    have hfirst : firstReason moves = some t.reason := by
      rw [← h.cancellation, Token.cancellation, if_pos hcancelled]
    refine ⟨by simp [h.entered], hcancellation, by simp [h.inFlight, hleft], h.nodup,
      fun scope => ?_⟩
    -- What is in flight was met by the first cancellation already, so that the new one meets
    -- nothing more.
    have hmeets : ¬ Left moves scope → Met moves scope := met_of_firstReason hfirst
    rw [h.reached, hmet, or_iff_left_of_imp hmeets]
    simp
  · next hcancelled =>
    rw [if_neg hcancelled]
    refine ⟨by simp [h.entered], hcancellation, by simp [h.inFlight, hleft], h.nodup,
      fun scope => ?_⟩
    rw [List.mem_append, h.reached, h.inFlight, hmet, ← and_or_left]
    simp

theorem Recounts.enter (h : t.Recounts moves) : t.enter.2.Recounts (moves ++ [.enter]) := by
  have hleft (scope : Nat) : Left (moves ++ [.enter]) scope ↔ Left moves scope := by
    simp [left_concat]
  have hmet (scope : Nat) : Met (moves ++ [.enter]) scope ↔ Met moves scope := by simp [met_concat]
  have hnew : ¬ Left moves (entries moves) := fun hleft => Nat.lt_irrefl _ hleft.lt
  have hmeets : Met moves (entries moves) ↔ t.cancelled = true := by rw [h.cancelled, met_entries]
  refine ⟨by simp [Token.enter, h.entered], ?_, fun scope => ?_, ?_, fun scope => ?_⟩
  · rw [firstReason_concat, ← h.cancellation]
    exact (Option.or_none).symm
  · rw [entries_concat, if_pos rfl, hleft, lt_succ_and_iff fun scope => ¬ Left moves scope]
    simp [Token.enter, h.inFlight, h.entered, hnew]
  · refine List.nodup_append.2 ⟨h.nodup, List.pairwise_singleton _ _, ?_⟩
    rintro scope hscope _ hmem rfl
    exact h.entered_notMem (List.mem_singleton.1 hmem ▸ hscope)
  · rw [entries_concat, if_pos rfl, hmet, lt_succ_and_iff]
    cases hcancelled : t.cancelled <;> simp [Token.enter, h.reached, h.entered, hmeets, hcancelled]

theorem Recounts.leave (h : t.Recounts moves) (scope : Nat) :
    (t.leave scope).Recounts (moves ++ [.leave scope]) := by
  have hmet (scope' : Nat) : Met (moves ++ [.leave scope]) scope' ↔ Met moves scope' := by
    simp [met_concat]
  refine ⟨by simp [Token.leave, h.entered], ?_, fun scope' => ?_,
    h.nodup.filter _, fun scope' => ?_⟩
  · rw [firstReason_concat, ← h.cancellation]
    exact (Option.or_none).symm
  · rw [left_concat]
    simp only [Token.leave, List.mem_filter, bne_iff_ne, h.inFlight, entries_concat, reduceCtorEq,
      if_false, Move.leave.injEq, not_or, not_and, Nat.add_zero]
    constructor
    · rintro ⟨⟨hscope, hopen⟩, hother⟩
      exact ⟨hscope, hopen, fun heq => absurd heq.symm hother⟩
    · rintro ⟨hscope, hopen, hother⟩
      exact ⟨⟨hscope, hopen⟩, fun heq => hother heq.symm hscope⟩
  · simp [Token.leave, h.reached, hmet]

theorem Recounts.make (h : t.Recounts moves) (move : Move) :
    (t.make move).Recounts (moves ++ [move]) := by
  cases move with
  | cancel reason => exact h.cancel reason
  | enter => exact h.enter
  | leave scope => exact h.leave scope

theorem Recounts.after (h : t.Recounts moves) (more : List Move) :
    (t.after more).Recounts (moves ++ more) := by
  induction more generalizing t moves with
  | nil =>
    rw [List.append_nil]
    exact h
  | cons move more ih =>
    have hrest := ih (h.make move)
    rw [List.append_assoc] at hrest
    exact hrest

theorem after_append (t : Token) (moves more : List Move) :
    t.after (moves ++ more) = (t.after moves).after more :=
  List.foldl_append

theorem Recounts.inFlight_leave {t' : Token} (h : t.Recounts moves)
    (hflight : t'.inFlight = t.enter.2.inFlight) :
    (t'.leave t.entered).inFlight = t.inFlight := by
  have hkeep : t.inFlight.filter (· != t.entered) = t.inFlight :=
    List.filter_eq_self.2 fun scope hscope => bne_iff_ne.2 fun heq =>
      h.entered_notMem (heq ▸ hscope)
  simp [Token.leave, hflight, Token.enter, hkeep]

def ScopeAction.move? : ScopeAction → Option Move
  | .cancel reason => some (.cancel reason)
  | _ => none

theorem moves_act (scope : Nat) (t : Token) (count : Nat) (actions : List ScopeAction) :
    ∃ done, done <+: actions ∧ (act scope t count actions).2 =
      t.after (done.filterMap ScopeAction.move?) ∧
      (act scope t count actions).2.inFlight = t.inFlight := by
  induction actions generalizing t count with
  | nil => exact ⟨[], List.prefix_rfl, rfl, rfl⟩
  | cons action rest ih =>
    cases action with
    | pause =>
      unfold act
      split
      · exact ⟨[], List.nil_prefix, rfl, rfl⟩
      · obtain ⟨done, hdone, hmoves, hflight⟩ := ih t (count + 1)
        exact ⟨.pause :: done, (List.prefix_cons_inj _).2 hdone, hmoves, hflight⟩
    | cancel reason =>
      obtain ⟨done, hdone, hmoves, hflight⟩ := ih (t.cancel reason) (count + 1)
      exact ⟨.cancel reason :: done, (List.prefix_cons_inj _).2 hdone, hmoves,
        hflight.trans (t.cancel_inFlight reason)⟩
    | raise f => exact ⟨[], List.nil_prefix, rfl, rfl⟩

theorem Recounts.within (h : t.Recounts moves) (actions : List ScopeAction) :
    ∃ done, done <+: actions ∧
      (t.within actions).2 = t.after (.enter :: done.filterMap ScopeAction.move? ++
        [.leave (entries moves)]) ∧
      (t.within actions).2.inFlight = t.inFlight ∧
      ∀ report, (t.within actions).1 = .ok report →
        (report.cancelCalled = true ↔
          Met (moves ++ .enter :: done.filterMap ScopeAction.move?) (entries moves)) := by
  obtain ⟨done, hdone, hmoves, hflight⟩ := moves_act t.enter.1 t.enter.2 0 actions
  have hinside : (act t.enter.1 t.enter.2 0 actions).2.Recounts
      (moves ++ .enter :: done.filterMap ScopeAction.move?) := by
    rw [hmoves]
    exact h.after (.enter :: done.filterMap ScopeAction.move?)
  refine ⟨done, hdone, ?_, h.inFlight_leave hflight, fun report hreport => ?_⟩
  · rw [after_append, ← h.entered]
    have hleave : (t.within actions).2 = (act t.enter.1 t.enter.2 0 actions).2.leave t.entered :=
      rfl
    rw [hleave, hmoves]
    rfl
  · have hscope : entries moves <
        entries (moves ++ .enter :: done.filterMap ScopeAction.move?) := by
      simp only [entries, List.count_append, List.count_cons_self]
      omega
    have hcalled : report.cancelCalled = (act t.enter.1 t.enter.2 0 actions).2.hasReached
        t.entered := by
      unfold Token.within at hreport
      dsimp only at hreport ⊢
      cases hresult : (act t.enter.1 t.enter.2 0 actions).1 with
      | error fault =>
        rw [hresult] at hreport
        cases hreport
      | ok value =>
        rw [hresult] at hreport
        cases hreport
        rfl
    rw [hcalled, ← h.entered, Token.hasReached, List.contains_iff_mem, hinside.reached, h.entered]
    exact and_iff_right hscope

/-- The token has come from this one by more moves, and these scopes are in flight. -/
def Continues (t : Token) (flight : List Nat) (token : Option Token) : Prop :=
  ∃ more, token = some (t.after more) ∧ (t.after more).inFlight = flight

theorem Continues.make {t' : Token} {flight flight' : List Nat} (h : t.Continues flight (some t'))
    (move : Move) (hflight : (t'.make move).inFlight = flight') :
    t.Continues flight' (some (t'.make move)) := by
  obtain ⟨more, ht', -⟩ := h
  obtain rfl := Option.some.inj ht'
  have hmake : (t.after more).make move = t.after (more ++ [move]) := by
    rw [after_append]
    rfl
  exact ⟨more ++ [move], congrArg some hmake, hmake ▸ hflight⟩

theorem Continues.inFlight {t' : Token} {flight : List Nat} (h : t.Continues flight (some t')) :
    t'.inFlight = flight := by
  obtain ⟨more, ht', hflight⟩ := h
  obtain rfl := Option.some.inj ht'
  exact hflight

end Token

/-- A step leaves the scope that it enters, however its job ends. -/
theorem World.sustained_continues {σ : Type} {t : Token} {moves : List Token.Move}
    (h : t.Recounts moves) (flight : List Nat) : World.Sustained fun w : World σ =>
      t.Continues flight w.token where
  emit w e _ hw := by
    rw [token_emit]
    exact hw
  enter _ hw := hw
  leave _ hw := hw
  carry x s f c worker handler prompt w hw := by
    obtain ⟨more, htoken, hflight⟩ := hw
    have hbefore := h.after more
    -- The job only cancels, so the scopes are those of the entry until the last one is left.
    have hopened : t.Continues (t.after more).enter.2.inFlight (some (t.after more).enter.2) :=
      Token.Continues.make ⟨more, rfl, hflight⟩ .enter rfl
    unfold Executor.carryOut World.enterScope
    rw [htoken]
    dsimp only
    generalize hdone : World.perform _ _ _ _ = done
    have hdid : t.Continues (t.after more).enter.2.inFlight done.2.token := by
      rw [← hdone]
      refine token_perform (P := t.Continues (t.after more).enter.2.inFlight) ?_ _ _ _ hopened
      intro token reason htoken
      cases token with
      | none => exact htoken
      | some t' =>
        exact htoken.make (.cancel reason) ((t'.cancel_inFlight reason).trans htoken.inFlight)
    cases hlast : done.2.token with
    | none =>
      obtain ⟨_, hsome, -⟩ := hdid
      cases hlast.symm.trans hsome
    | some t' =>
      rw [hlast] at hdid
      have hleft : (t'.leave (t.after more).entered).inFlight = (t.after more).inFlight :=
        hbefore.inFlight_leave hdid.inFlight
      simp only [World.leaveScope, hlast]
      exact hdid.make (.leave (t.after more).entered) (hleft.trans hflight)

namespace Token

/-- What a token comes to: once a cancellation has come it refuses with the first reason, and later
ones change nothing. In flight are the scopes entered and not left. A step and a run, however they
end, leave those in flight that they found. A scope is reached just if a cancellation came before it
was left. -/
theorem follows_moves (moves : List Move) :
    let t := after {} moves
    (t.check = match firstReason moves with
      | some reason => .error (.cancelled reason)
      | none => .ok ()) ∧
    (firstReason moves ≠ none → ∀ reason, t.cancel reason = t) ∧
    (∀ scope, scope ∈ t.inFlight ↔ scope < entries moves ∧ ¬ Left moves scope) ∧ t.inFlight.Nodup ∧
    (∀ scope, t.hasReached scope = true ↔ scope < entries moves ∧ Met moves scope) ∧
    (∀ actions, ∃ done, done <+: actions ∧
      (t.within actions).2 = t.after (.enter :: done.filterMap ScopeAction.move? ++
        [.leave (entries moves)]) ∧
      (t.within actions).2.inFlight = t.inFlight ∧
      ∀ report, (t.within actions).1 = .ok report →
        (report.cancelCalled = true ↔
          Met (moves ++ .enter :: done.filterMap ScopeAction.move?) (entries moves))) ∧
    ∀ {σ : Type} (x : Executor σ) (f : Flow) (c : Context) (w : World σ), w.token = some t →
      (∀ current, t.Continues t.inFlight (x.advance f current c w).2.2.token) ∧
      t.Continues t.inFlight (x.run f c w).2.2.token := by
  have h : (after {} moves).Recounts moves := recounts_new.after moves
  refine ⟨?_, ?_, h.inFlight, h.nodup, ?_, h.within, ?_⟩
  · rw [← h.cancellation]
    unfold Token.check Token.cancellation
    cases (after {} moves).cancelled <;> rfl
  · intro hfirst reason
    have hcancelled : (after {} moves).cancelled = true := by
      rw [h.cancelled]
      exact Option.isSome_iff_ne_none.2 hfirst
    exact if_pos hcancelled
  · intro scope
    rw [← h.reached]
    exact List.contains_iff_mem
  · intro σ x f c w hw
    have hself : (after {} moves).Continues (after {} moves).inFlight w.token := ⟨[], hw, rfl⟩
    have hsustained := World.sustained_continues (σ := σ) h (after {} moves).inFlight
    exact ⟨fun current => hsustained.advance x f current c hself, hsustained.run x f c hself⟩

example : (after {} [.enter, .cancel (some "stop"), .enter, .leave 0, .cancel none]).describe =
    "CancelToken(cancelled=True, in_flight=1)" := by
  rfl

end Token
end StepFlow
