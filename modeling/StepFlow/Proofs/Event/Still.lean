import StepFlow.Proofs.Event.Sending

/-!
# Kinds of events that are not told

While no event of a kind is emitted and none is on its way, no listener receives one.
-/
namespace StepFlow

def Channel.Lacks (kind : EventKind) (c : Channel) : Prop := ∀ e ∈ c.pending, e.kind ≠ kind

theorem Channel.Lacks.advance {kind : EventKind} {c : Channel} (h : c.Lacks kind) (closed : Bool) :
    (c.advance closed).1.Lacks kind ∧ ∀ e, (c.advance closed).2.1 = some e → e.kind ≠ kind := by
  obtain ⟨listener, buffer, phase⟩ := c
  cases phase with
  | starting => exact ⟨h, by simp [Channel.advance]⟩
  | checking =>
    cases buffer with
    | nil => cases closed <;> exact ⟨h, by simp [Channel.advance]⟩
    | cons e es => exact ⟨h, by simp [Channel.advance]⟩
  | waiting => cases closed <;> exact ⟨h, by simp [Channel.advance]⟩
  | handed e => exact ⟨h, by simp [Channel.advance]⟩
  | handling e =>
    obtain ⟨he, hrest⟩ := List.forall_mem_cons.1 h
    refine ⟨hrest, ?_⟩
    rintro _ ⟨⟩
    exact he
  | done => exact ⟨h, by simp [Channel.advance]⟩

theorem Channel.Lacks.offer? {kind : EventKind} {c c' : Channel} {capacity : Capacity} {e : Event}
    (h : c.Lacks kind) (he : e.kind ≠ kind) (hoffer : c.offer? capacity e = some c') :
    c'.Lacks kind := by
  obtain ⟨listener, buffer, phase⟩ := c
  have hbuffer : ∀ e ∈ buffer, e.kind ≠ kind := fun e hmem => h e (List.mem_append_right _ hmem)
  have hafter : ∀ {phase : Phase}, Channel.Lacks kind ⟨listener, buffer, phase⟩ →
      Channel.Lacks kind ⟨listener, buffer ++ [e], phase⟩ := by
    intro phase hphase e' hmem
    rcases List.mem_append.1 hmem with hfirst | hlast
    · exact hphase e' (List.mem_append_left _ hfirst)
    · rcases List.mem_append.1 hlast with hold | hnew
      · exact hphase e' (List.mem_append_right _ hold)
      · rw [List.mem_singleton.1 hnew]
        exact he
  unfold Channel.offer? at hoffer
  split at hoffer
  · cases hoffer
    exact List.forall_mem_cons.2 ⟨he, hbuffer⟩
  · split at hoffer
    · cases hoffer
      exact hafter h
    · cases hoffer

theorem mem_modifyAt {α : Type} {f : α → α} {n : Nat} {xs : List α} {y : α}
    (h : y ∈ modifyAt f n xs) :
    y ∈ xs ∨ ∃ x ∈ xs, y = f x := by
  induction xs generalizing n with
  | nil => simp [modifyAt] at h
  | cons x xs ih =>
    cases n with
    | zero =>
      rcases List.mem_cons.1 h with rfl | hrest
      · exact .inr ⟨x, List.mem_cons_self, rfl⟩
      · exact .inl (List.mem_cons_of_mem _ hrest)
    | succ n =>
      rcases List.mem_cons.1 h with rfl | hrest
      · exact .inl List.mem_cons_self
      · rcases ih hrest with hold | ⟨x', hx', rfl⟩
        · exact .inl (List.mem_cons_of_mem _ hold)
        · exact .inr ⟨x', List.mem_cons_of_mem _ hx', rfl⟩

namespace Exchange

def receipts (x : Exchange) (kind : EventKind) : List (String × Event) :=
  x.received.filter fun r => r.2.kind == kind

/-- No event of the kind is on its way, and these were received. -/
structure Still (kind : EventKind) (told : List (String × Event)) (x : Exchange) : Prop where
  idle : ∀ m ∈ x.emitters, ∀ c ∈ m.channels, c.Lacks kind
  receipts : x.receipts kind = told

namespace Still
variable {kind : EventKind} {told : List (String × Event)} {x y : Exchange}

theorem modifyEmitter {position : Nat} {f : Emitter → Emitter} (h : x.Still kind told)
    (hf : ∀ m ∈ x.emitters, ∀ c ∈ (f m).channels, c.Lacks kind) :
    (x.modifyEmitter position f).Still kind told where
  idle := by
    intro m hm
    rcases mem_modifyAt hm with hold | ⟨m', hm', rfl⟩
    · exact h.idle m hold
    · exact hf m' hm'
  receipts := h.receipts

theorem handle_eq (x : Exchange) (l : Listener) (e : Event) :
    ∃ log, x.handle l e = { x with received := x.received ++ [(l.name, e)], log } := by
  unfold Exchange.handle
  dsimp only
  split <;> exact ⟨_, rfl⟩

theorem handle (h : x.Still kind told) (l : Listener) {e : Event} (he : e.kind ≠ kind) :
    (x.handle l e).Still kind told := by
  obtain ⟨log, hhandled⟩ := handle_eq x l e
  rw [hhandled]
  refine ⟨h.idle, ?_⟩
  have hother : [(l.name, e)].filter (fun r => r.2.kind == kind) = [] := by simp [he]
  rw [Exchange.receipts, List.filter_append, hother, List.append_nil]
  exact h.receipts

theorem handle_own {e : Event} (h : x.Still e.kind told) (l : Listener) :
    (x.handle l e).Still e.kind (told ++ [(l.name, e)]) := by
  obtain ⟨log, hhandled⟩ := handle_eq x l e
  rw [hhandled]
  refine ⟨h.idle, ?_⟩
  have hown : [(l.name, e)].filter (fun r => r.2.kind == e.kind) = [(l.name, e)] := by simp
  rw [Exchange.receipts, List.filter_append, hown, ← h.receipts]
  rfl

theorem stepConsumer (h : x.Still kind told) (position channel : Nat) :
    (x.stepConsumer position channel).Still kind told := by
  unfold Exchange.stepConsumer
  split
  · exact h
  · next listener c handled standing heq =>
    obtain ⟨m, hm, hchannel⟩ := Option.bind_eq_some_iff.1 heq
    obtain ⟨before, hbefore, hadvance⟩ := Option.map_eq_some_iff.1 hchannel
    have hlacks :=
      (h.idle m (List.mem_of_getElem? hm) before (List.mem_of_getElem? hbefore)).advance m.closed
    rw [(Prod.mk.inj hadvance).2] at hlacks
    have hmoved : (x.modifyEmitter position fun m => { m with
      channels := modifyAt (fun _ => c) channel m.channels }).Still
        kind told := by
      apply h.modifyEmitter
      intro m' hm' c' hc'
      rcases mem_modifyAt hc' with hold | ⟨_, _, rfl⟩
      · exact h.idle m' hm' c' hold
      · exact hlacks.1
    generalize (x.modifyEmitter position fun m =>
      { m with channels := modifyAt (fun _ => c) channel m.channels }) = y at hmoved ⊢
    have hhandled : (handled.elim y (y.handle listener)).Still kind told := by
      cases handled with
      | none => exact hmoved
      | some e => exact hmoved.handle listener (hlacks.2 e rfl)
    cases standing <;> exact ⟨hhandled.idle, hhandled.receipts⟩

theorem release (h : x.Still kind told) (position : Nat) :
    (x.release position).Still kind told := by
  unfold Exchange.release
  split
  · exact h
  · have hreleased : (x.modifyEmitter position fun m => { m with held := m.held - 1 }).Still
        kind told :=
      h.modifyEmitter h.idle
    dsimp only
    split
    · exact ⟨hreleased.idle, hreleased.receipts⟩
    · exact hreleased

theorem proceed (h : x.Still kind told) (fuel : Nat) : (proceed fuel x).Still kind told := by
  induction fuel generalizing x with
  | zero => exact h
  | succ fuel ih =>
    have hready : ∀ tasks, { x with ready := tasks }.Still kind told :=
      fun tasks => ⟨h.idle, h.receipts⟩
    unfold Exchange.proceed
    split
    · exact h
    · exact hready _
    · exact ih ((hready _).stepConsumer _ _)
    · exact ih ((hready _).release _)

theorem settle (h : x.Still kind told) : x.settle.Still kind told := h.proceed _

theorem pass (h : x.Still kind told) : x.pass.Still kind told :=
  proceed (x := x.enqueue [.caller]) ⟨h.idle, h.receipts⟩ _

theorem enter (h : x.Still kind told) : x.enter.Still kind told where
  idle := by
    intro m hm
    rcases List.mem_append.1 hm with hold | hnew
    · exact h.idle m hold
    · rw [List.mem_singleton.1 hnew]
      simp
  receipts := h.receipts

theorem closeAt (h : x.Still kind told) (position : Nat) :
    (x.closeAt position).Still kind told := by
  unfold Exchange.closeAt
  split
  · exact h
  · split
    · exact h
    · have hclosed : (x.modifyEmitter position fun m => { m with closed := true }).Still
          kind told :=
        h.modifyEmitter h.idle
      exact ⟨hclosed.idle, hclosed.receipts⟩

theorem leave (h : x.Still kind told) : x.leave.Still kind told := by
  unfold Exchange.leave
  split
  · next position _ =>
    have hclosed := h.closeAt position
    unfold leaveAt
    dsimp only
    have hleft : ∀ {y : Exchange}, y.Still kind told →
        (y.modifyEmitter position fun m => { m with active := false }).Still kind told :=
      fun hy => hy.modifyEmitter hy.idle
    apply hleft
    split
    · have hawaited : ((x.closeAt position).modifyEmitter position fun m =>
        { m with awaited := true }).Still kind told :=
        hclosed.modifyEmitter hclosed.idle
      exact hawaited.proceed _
    · exact hclosed.pass
  · exact h

theorem lacks_opened {d : Delivery} (h : ∀ c ∈ d.channels, c.Lacks kind) (l : Listener) :
    ∀ c ∈ (d.opened l).channels, c.Lacks kind := by
  unfold Delivery.opened
  split
  · exact h
  · intro c hc
    rcases List.mem_append.1 hc with hold | hnew
    · exact h c hold
    · rw [List.mem_singleton.1 hnew]
      simp [Channel.Lacks, Channel.pending]

theorem lacks_send {capacity : Capacity} {e : Event} (he : e.kind ≠ kind) {d : Delivery}
    (h : ∀ c ∈ d.channels, c.Lacks kind) (l : Listener) :
    ∀ c ∈ (d.send capacity e l).channels, c.Lacks kind := by
  have hopened := lacks_opened h l
  rw [Delivery.send_eq]
  split
  · next wasWaiting c' hoffered =>
    obtain ⟨c, hc, hmap⟩ := Option.bind_eq_some_iff.1 hoffered
    obtain ⟨taken, htaken, hpair⟩ := Option.map_eq_some_iff.1 hmap
    obtain ⟨-, rfl⟩ := Prod.mk.inj hpair
    intro c'' hc''
    rcases mem_modifyAt hc'' with hold | ⟨_, _, rfl⟩
    · exact hopened c'' hold
    · exact (hopened c (List.mem_of_getElem? hc)).offer? he htaken
  · exact hopened

theorem lacks_sendAll (capacity : Capacity) {e : Event} (he : e.kind ≠ kind) (ls : List Listener)
    {d : Delivery} (h : ∀ c ∈ d.channels, c.Lacks kind) :
    ∀ c ∈ (ls.foldl (Delivery.send capacity e) d).channels, c.Lacks kind := by
  induction ls generalizing d with
  | nil => exact h
  | cons l ls ih => exact ih (lacks_send he h l)

theorem emit (h : x.Still kind told) {e : Event} (he : e.kind ≠ kind) (hemit : x.emit e = .ok y) :
    y.Still kind told := by
  unfold Exchange.emit at hemit
  split at hemit
  · next position _ =>
    unfold emitAt at hemit
    split at hemit
    · cases hemit
    · next m hm =>
      have hchannels : ∀ c ∈ ({ channels := m.channels } : Delivery).channels, c.Lacks kind :=
        h.idle m (List.mem_of_getElem? hm)
      have hsent := lacks_sendAll x.bus.capacity he (x.bus.listeners e.kind) hchannels
      split at hemit
      · cases hemit
        exact ⟨h.idle, h.receipts⟩
      · dsimp only at hemit
        split at hemit
        · cases hemit
        · cases hemit
          generalize (x.bus.listeners e.kind).foldl (Delivery.send x.bus.capacity e)
            { channels := m.channels } = d at hsent ⊢
          have hmodified : (x.modifyEmitter position fun m' =>
              { m' with channels := d.channels, held := m'.held + (d.channels.length -
                m.channels.length) }).Still kind told :=
            h.modifyEmitter fun _ _ => hsent
          exact ⟨hmodified.idle, hmodified.receipts⟩
  · cases hemit

theorem turn (h : x.Still kind told) (l : Listener) :
    (if l.style = .pausing then x.pass else x).Still kind told := by
  split
  · exact h.pass
  · exact h

theorem publish (h : x.Still kind told) {e : Event} (he : e.kind ≠ kind) :
    (x.publish e).Still kind told := by
  unfold Exchange.publish
  generalize x.bus.listeners e.kind = ls
  induction ls generalizing x with
  | nil => exact h
  | cons l ls ih => exact ih ((h.turn l).handle l he)

/-- An event that is published is received at once by every listener of its kind, in the order of
subscription. -/
theorem publish_own {e : Event} (h : x.Still e.kind told) :
    (x.publish e).Still e.kind (told ++ (x.bus.listeners e.kind).map fun l => (l.name, e)) := by
  unfold Exchange.publish
  generalize x.bus.listeners e.kind = ls
  induction ls generalizing x told with
  | nil =>
    rw [List.map_nil, List.append_nil]
    exact h
  | cons l ls ih =>
    have hrest := ih ((h.turn l).handle_own l)
    rw [List.append_assoc] at hrest
    exact hrest

end Still
end Exchange
end StepFlow
