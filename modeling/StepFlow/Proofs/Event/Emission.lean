import StepFlow.Event.Exchange

/-!
# Emission

Consumers and emissions change neither the bus nor the number of emitters. So an exchange that takes
events goes on taking them: emission is refused only where no emitter was opened or the capacity of
the bus means nothing.
-/
namespace StepFlow.Exchange

theorem length_modifyAt {α : Type} (f : α → α) (n : Nat) (xs : List α) :
    (modifyAt f n xs).length = xs.length := by
  induction xs generalizing n with
  | nil => simp only [modifyAt]
  | cons x xs ih =>
    cases n with
    | zero => rfl
    | succ n => simp only [modifyAt, List.length_cons, ih]

/-- A later exchange has the same bus and as many emitters. -/
structure Keeps (x y : Exchange) : Prop where
  bus : y.bus = x.bus
  emitters : y.emitters.length = x.emitters.length

theorem Keeps.refl (x : Exchange) : x.Keeps x := ⟨rfl, rfl⟩

theorem Keeps.trans {x y z : Exchange} (h : x.Keeps y) (g : y.Keeps z) : x.Keeps z :=
  ⟨g.bus.trans h.bus, g.emitters.trans h.emitters⟩

theorem keeps_ready (x : Exchange) (tasks : List Task) : x.Keeps { x with ready := tasks } :=
  ⟨rfl, rfl⟩

theorem keeps_enqueue (x : Exchange) (tasks : List Task) : x.Keeps (x.enqueue tasks) := ⟨rfl, rfl⟩

theorem keeps_modifyEmitter (x : Exchange) (position : Nat) (f : Emitter → Emitter) :
    x.Keeps (x.modifyEmitter position f) := ⟨rfl, length_modifyAt _ _ _⟩

theorem keeps_handle (x : Exchange) (l : Listener) (e : Event) : x.Keeps (x.handle l e) := by
  unfold handle
  dsimp only
  split <;> exact ⟨rfl, rfl⟩

theorem keeps_stepConsumer (x : Exchange) (position channel : Nat) :
    x.Keeps (x.stepConsumer position channel) := by
  unfold stepConsumer
  split
  · exact .refl x
  · next listener c handled standing _ =>
    have hm := keeps_modifyEmitter x position fun m =>
      { m with channels := modifyAt (fun _ => c) channel m.channels }
    have hh := hm.trans (z := handled.elim _ (Exchange.handle _ listener)) (by
      cases handled with
      | none => exact .refl _
      | some e => exact keeps_handle _ _ _)
    cases standing with
    | ready => exact hh.trans (keeps_enqueue _ _)
    | asleep => exact hh
    | «over» => exact hh.trans (keeps_enqueue _ _)

theorem keeps_release (x : Exchange) (position : Nat) : x.Keeps (x.release position) := by
  unfold release
  split
  · exact .refl x
  · have hm := keeps_modifyEmitter x position fun m => { m with held := m.held - 1 }
    dsimp only
    split
    · exact hm.trans (keeps_enqueue _ _)
    · exact hm

theorem keeps_proceed (fuel : Nat) (x : Exchange) : x.Keeps (proceed fuel x) := by
  induction fuel generalizing x with
  | zero => exact .refl x
  | succ fuel ih =>
    unfold proceed
    split
    · exact .refl x
    · exact keeps_ready x _
    · next rest _ => exact (keeps_ready x rest).trans ((keeps_stepConsumer _ _ _).trans (ih _))
    · next rest _ => exact (keeps_ready x rest).trans ((keeps_release _ _).trans (ih _))

theorem keeps_settle (x : Exchange) : x.Keeps x.settle := keeps_proceed _ _

theorem keeps_closeAt (x : Exchange) (position : Nat) : x.Keeps (x.closeAt position) := by
  unfold closeAt
  split
  · exact .refl x
  · split
    · exact .refl x
    · exact (keeps_modifyEmitter x position _).trans (keeps_enqueue _ _)

theorem lt_of_current? {x : Exchange} {i : Nat} (h : x.current? = some i) :
    i < x.emitters.length := by
  have position {p : Emitter → Bool} {i : Nat}
      (h : (x.emitters.reverse.findIdx? p).map (fun i => x.emitters.length - 1 - i) = some i) :
      i < x.emitters.length := by
    obtain ⟨j, hj, rfl⟩ := Option.map_eq_some_iff.1 h
    have := (List.findIdx?_eq_some_iff_findIdx_eq.1 hj).1
    simp only [List.length_reverse] at this
    omega
  unfold current? at h
  dsimp only at h
  rw [Option.orElse_eq_orElse, Option.orElse_eq_or] at h
  rcases Option.or_eq_some_iff.1 h with h | ⟨-, h⟩
  · exact position h
  · exact position h

theorem exists_current? {x : Exchange} (h : x.emitters ≠ []) : ∃ i, x.current? = some i := by
  have hlast : ∃ i, (x.emitters.reverse.findIdx? fun _ => true) = some i := by
    cases hr : x.emitters.reverse with
    | nil => exact absurd (List.reverse_eq_nil_iff.1 hr) h
    | cons m ms => exact ⟨0, rfl⟩
  obtain ⟨i, hi⟩ := hlast
  unfold current?
  dsimp only
  rw [hi]
  cases (x.emitters.reverse.findIdx? Emitter.active) with
  | none => exact ⟨_, rfl⟩
  | some j => exact ⟨_, rfl⟩

theorem keeps_emitAt {x y : Exchange} {position : Nat} {e : Event}
    (h : x.emitAt position e = .ok y) : x.Keeps y := by
  unfold emitAt at h
  split at h
  · cases h
  · next m _ =>
    split at h
    · cases h
      exact ⟨rfl, rfl⟩
    · dsimp only at h
      split at h
      · cases h
      · cases h
        exact (keeps_modifyEmitter x position _).trans ⟨rfl, rfl⟩

theorem keeps_emit {x y : Exchange} {e : Event} (h : x.emit e = .ok y) : x.Keeps y := by
  unfold emit at h
  split at h
  · exact keeps_emitAt h
  · cases h

/-- Emission is refused for want of an emitter or for the capacity of the bus. -/
theorem emit_refused {x : Exchange} {e : Event} {fault : Fault} (h : x.emit e = .error fault) :
    fault = .unknownName "emitter" ∨ x.bus.capacity.check = .error fault := by
  unfold emit at h
  split at h
  · unfold emitAt at h
    split at h
    · cases h
      exact .inl rfl
    · split at h
      · cases h
      · dsimp only at h
        split at h
        · next hc =>
          cases h
          split at hc
          · cases hc
          · exact .inr hc
        · cases h
  · cases h
    exact .inl rfl

theorem current?_concat {x : Exchange} {ms : List Emitter} {m : Emitter}
    (hemitters : x.emitters = ms ++ [m]) (hactive : m.active = true) :
    x.current? = some ms.length := by
  have hfound : x.emitters.reverse.findIdx? Emitter.active = some 0 := by
    rw [hemitters, List.reverse_append, List.reverse_singleton, List.singleton_append,
      List.findIdx?_cons, hactive]
    rfl
  have hlength : x.emitters.length = ms.length + 1 := by
    rw [hemitters]
    exact List.length_append
  unfold current?
  dsimp only
  rw [hfound, hlength]
  rfl

/-- An open emitter takes an event wherever the capacity means something, and a closed one drops
it. -/
theorem emitAt_accepted {x : Exchange} {position : Nat} {m : Emitter}
    (h : x.emitters[position]? = some m) (hcapacity : x.bus.capacity.check = .ok ()) (e : Event) :
    ∃ y, x.emitAt position e = .ok y := by
  unfold emitAt
  rw [h]
  dsimp only
  split
  · exact ⟨_, rfl⟩
  · rw [hcapacity, ite_self]
    exact ⟨_, rfl⟩

theorem emit_accepted {x : Exchange} (hcapacity : x.bus.capacity.check = .ok ())
    (hemitters : x.emitters ≠ []) (e : Event) : ∃ y, x.emit e = .ok y ∧ x.Keeps y := by
  obtain ⟨i, hi⟩ := exists_current? hemitters
  obtain ⟨y, hy⟩ := emitAt_accepted (List.getElem?_eq_getElem (lt_of_current? hi)) hcapacity e
  have hemit : x.emit e = .ok y := by
    rw [emit, hi]
    exact hy
  exact ⟨y, hemit, keeps_emit hemit⟩

end StepFlow.Exchange
