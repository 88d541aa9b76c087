import StepFlow.Proofs.Run.Alignment

/-!
# Mirrors of a world

A mirror goes through the same run in a world of its own, where nobody listens, every note is
emitted, and no time passes. Its memory and its token are always the same, and it makes the same
calls. So nothing that can be observed from outside has an influence on a run.
-/
namespace StepFlow

def shown (thinking : Bool) (told : List Event) : List Event :=
  if thinking then told else told.filter fun e => e.kind != .thinking

theorem shown_append (thinking : Bool) (told more : List Event) :
    shown thinking (told ++ more) = shown thinking told ++ shown thinking more := by
  unfold shown
  split
  · rfl
  · exact List.filter_append ..

theorem shown_of_ne {e : Event} (h : e.kind ≠ .thinking) (thinking : Bool) :
    shown thinking [e] = [e] := by
  unfold shown
  split
  · rfl
  · exact List.filter_cons_of_pos (bne_iff_ne.2 h)

namespace World
variable {σ : Type}

/-- A world, which has come from an earlier one with the notes on or off, and its mirror, which has
come from one without calls and events. -/
structure Mirrors (thinking : Bool) (v w w₀ : World σ) : Prop where
  opened : w.Open
  mirror : w₀.Open
  now : w₀.now = .epoch
  memory : w₀.memory = w.memory
  token : w₀.token = w.token
  calls : w.calls = v.calls ++ w₀.calls
  emitted : ∃ told, w.emitted = v.emitted ++ told ∧
    told.map Event.untimed = shown thinking w₀.emitted

namespace Mirrors
variable {thinking : Bool} {v w w₀ : World σ}

theorem tell (h : Mirrors thinking v w w₀) {exchange exchange₀ : Exchange} {told : List Event}
    {e₀ : Event} (hkeeps : w.exchange.Keeps exchange) (hkeeps₀ : w₀.exchange.Keeps exchange₀)
    (htold : told.map Event.untimed = shown thinking [e₀]) :
    Mirrors thinking v { w with exchange, emitted := w.emitted ++ told }
      { w₀ with exchange := exchange₀, emitted := w₀.emitted ++ [e₀] } := by
  obtain ⟨before, hbefore, huntimed⟩ := h.emitted
  have hemitted : w.emitted ++ told = v.emitted ++ (before ++ told) := by
    rw [hbefore, List.append_assoc]
  have hshown : (before ++ told).map Event.untimed = shown thinking (w₀.emitted ++ [e₀]) := by
    rw [List.map_append, huntimed, htold, shown_append]
  exact { h with
    opened := h.opened.of_keeps hkeeps rfl
    mirror := h.mirror.of_keeps hkeeps₀ rfl
    emitted := ⟨before ++ told, hemitted, hshown⟩ }

theorem emit (h : Mirrors thinking v w w₀) {e : Event} (hkind : e.kind ≠ .thinking) :
    Agrees (Mirrors thinking v) (w.emit e) (w₀.emit e.untimed) := by
  obtain ⟨exchange, hemit, hkeeps⟩ := h.opened.emit_eq e
  obtain ⟨exchange₀, hemit₀, hkeeps₀⟩ := h.mirror.emit_eq e.untimed
  have hkind₀ : e.untimed.kind ≠ .thinking := hkind
  rw [hemit, hemit₀]
  exact ⟨rfl, h.tell hkeeps hkeeps₀ (shown_of_ne hkind₀ thinking).symm⟩

theorem think (h : Mirrors thinking v w w₀) {c : Circumstances} (hc : c.emitThinking = thinking)
    (worker kind content : String) (confidence : Value) :
    Agrees (Mirrors thinking v) (w.think c worker kind content confidence)
      (w₀.think (c.mirrored true) worker kind content confidence) := by
  have hthink₀ : w₀.think (c.mirrored true) worker kind content confidence =
      w₀.emit ((c.mirrored true).note worker kind content confidence .epoch) := by
    rw [think_eq, h.now]
    exact if_pos rfl
  obtain ⟨exchange₀, hemit₀, hkeeps₀⟩ :=
    h.mirror.emit_eq ((c.mirrored true).note worker kind content confidence .epoch)
  rw [hthink₀, hemit₀, think_eq]
  cases thinking with
  | true =>
    obtain ⟨exchange, hemit, hkeeps⟩ :=
      h.opened.emit_eq (c.note worker kind content confidence w.now)
    rw [if_pos hc, hemit]
    exact ⟨rfl, h.tell hkeeps hkeeps₀ rfl⟩
  | false =>
    have hhidden : [].map Event.untimed =
        shown false [(c.mirrored true).note worker kind content confidence .epoch] :=
      rfl
    have hsilent := h.tell (.refl _) hkeeps₀ hhidden
    rw [List.append_nil] at hsilent
    rw [if_neg (Bool.eq_false_iff.1 hc)]
    exact ⟨rfl, hsilent⟩

theorem settle (h : Mirrors thinking v w w₀) : Mirrors thinking v w.settle w₀.settle :=
  { h with
    opened := h.opened.of_keeps (Exchange.keeps_settle _) rfl
    mirror := h.mirror.of_keeps (Exchange.keeps_settle _) rfl }

theorem withToken (h : Mirrors thinking v w w₀) (token : Option Token) :
    Mirrors thinking v { w with token } { w₀ with token } :=
  { h with
    opened := h.opened.of_keeps (.refl _) rfl
    mirror := h.mirror.of_keeps (.refl _) rfl
    token := rfl }

theorem withOverdue (h : Mirrors thinking v w w₀) (overdue : Bool) :
    Mirrors thinking v { w with overdue } { w₀ with overdue } :=
  { h with
    opened := h.opened.of_keeps (.refl _) rfl
    mirror := h.mirror.of_keeps (.refl _) rfl }

theorem called (h : Mirrors thinking v w w₀) (call : Call) (memory : σ) :
    Mirrors thinking v { w with memory, calls := w.calls ++ [call] } { w₀ with
      memory, calls := w₀.calls ++ [call] } :=
  { h with
    opened := h.opened.of_keeps (.refl _) rfl
    mirror := h.mirror.of_keeps (.refl _) rfl
    memory := rfl
    calls := by rw [h.calls, List.append_assoc] }

end Mirrors

theorem alignment_mirrors (thinking : Bool)
    (look : σ → List (String × Value) → List (String × Value)) (v : World σ) :
    Alignment thinking true look (fun _ => True) (Mirrors thinking v) where
  now h := h.now
  token h := h.token
  look h := by rw [h.memory]
  emit h _ hkind := h.emit hkind
  think h _ hc worker kind content confidence := h.think hc worker kind content confidence
  settle h := h.settle
  withToken h token := h.withToken token
  withOverdue h overdue := h.withOverdue overdue
  called h := by
    intro worker action answer _ _ invocation
    rw [h.memory]
    exact ⟨rfl, h.called _ _⟩

end World
end StepFlow
