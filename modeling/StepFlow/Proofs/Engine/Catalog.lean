import StepFlow.Proofs.Event.Still
import StepFlow.Proofs.Run.Invariance
import StepFlow.Proofs.Source.Directory

/-!
# The catalog of an engine

What every operation of an engine makes of its catalog, and whom it tells of loaded flows. From an
engine without flows on, every flow stands under its own id.
-/
namespace StepFlow

theorem Source.keyed_load {source : Source} {c : Catalog} (h : source.load = .ok c) : c.Keyed := by
  cases source with
  | definitions ds => exact Definitions.keyed_load h
  | directory d => exact Directory.keyed_load h

/-- The news of loaded flows that listeners have received, in order. -/
def World.news {σ : Type} (w : World σ) : List (String × Event) := w.exchange.receipts .flowsLoaded

/-- The news of loaded flows are these, and nobody is about to receive or to emit another. -/
structure World.Untold {σ : Type} (told : List (String × Event)) (w : World σ) : Prop where
  still : w.exchange.Still .flowsLoaded told
  emitted : ∀ event ∈ w.emitted, event.kind ≠ .flowsLoaded

theorem World.stable_untold {σ : Type} (told : List (String × Event)) :
    Stable (σ := σ) (Untold told) where
  emit := by
    intro w event hkind hw
    unfold emit
    split
    · split
      · next hemit =>
        refine ⟨hw.still.emit hkind hemit, ?_⟩
        intro other hother
        rcases List.mem_append.1 hother with hold | hnew
        · exact hw.emitted other hold
        · rw [List.mem_singleton.1 hnew]
          exact hkind
      · exact hw
    · exact hw
  settle w hw := ⟨hw.still.settle, hw.emitted⟩
  enter w hw := ⟨hw.still.enter, hw.emitted⟩
  leave w hw := ⟨hw.still.leave, hw.emitted⟩
  turn w memory calls token overdue hw := ⟨hw.still, hw.emitted⟩

namespace Engine
variable {σ : Type} {e : Engine σ} {w : World σ} {told : List (String × Event)}

theorem untold_require (hw : w.Untold told) (id : String) : (e.require id w).2.Untold told := by
  unfold require
  split
  · exact hw
  · exact ⟨hw.still.publish nofun, hw.emitted⟩

theorem untold_run (hw : w.Untold told) (o : Order) : (e.run o w).2.Untold told := by
  have hrequired := untold_require (e := e) hw o.flow
  unfold run
  split
  · next heq =>
    rw [heq] at hrequired
    exact hrequired
  · next f w₁ heq =>
    rw [heq] at hrequired
    split
    · exact hrequired
    · next c _ =>
      have hran := (World.stable_untold told).runOn e f o.token c hrequired
      split <;> next heq =>
        rw [heq] at hran
        exact hran

theorem untold_stream (hw : w.Untold told) (o : Order) : (e.stream o w).2.Untold told := by
  have hrequired := untold_require (e := e) hw o.flow
  unfold stream
  split
  · next heq =>
    rw [heq] at hrequired
    exact hrequired
  · next f w₁ heq =>
    rw [heq] at hrequired
    split
    · exact hrequired
    · next c _ =>
      have hran := (World.stable_untold told).runOn e f o.token c hrequired
      dsimp only
      split <;> next heq =>
        rw [heq] at hran
        exact hran

inductive Operation where
  | load (given : Option Source)
  | register (f : Flow) (update : Bool)
  | run (o : Order)
  | stream (o : Order)

def refusal? {α : Type} : Except Fault α → Option Fault
  | .ok _ => none
  | .error fault => some fault

/-- The fault that an operation ends with, if any, and the engine and the world after it. One that
fails leaves the engine as it is. -/
def serve (e : Engine σ) (w : World σ) : Operation → Option Fault × Engine σ × World σ
  | .load given =>
    (refusal? (e.load given w).1, (e.load given w).1.toOption.getD e, (e.load given w).2)
  | .register f update => (refusal? (e.register f update), (e.register f update).toOption.getD e, w)
  | .run o => (refusal? (e.run o w).1, e, (e.run o w).2)
  | .stream o => ((e.stream o w).1.broken, e, (e.stream o w).2)

def serveAll (e : Engine σ) (w : World σ) : List Operation → Engine σ × World σ
  | [] => (e, w)
  | operation :: rest => serveAll (e.serve w operation).2.1 (e.serve w operation).2.2 rest

def loadedEvent (c : Catalog) (now : Moment) : Event where
  kind := .flowsLoaded
  data := Event.named [("flow_ids", .value (.texts c.ids))]
  timestamp := now

inductive Effect (e : Engine σ) (w : World σ) : Operation → Option Fault × Engine σ × World σ → Prop
  | sourceless {given : Option Source} : (given <|> e.source) = none →
    Effect e w (.load given) (some .noLoader, e, w)
  | unreadable {given : Option Source} {source : Source} {fault : Fault} :
    (given <|> e.source) = some source →
    source.load = .error fault → Effect e w (.load given) (some fault, e, w)
  | loaded {given : Option Source} {source : Source} {catalog : Catalog} {w' : World σ} :
    (given <|> e.source) = some source → source.load = .ok catalog →
    w'.news = w.news ++ (w.exchange.bus.listeners .flowsLoaded).map (fun l =>
      (l.name, loadedEvent catalog w.now)) →
      Effect e w (.load given) (none, { e with catalog }, w')
  | taken {f : Flow} : f.id ∈ e.catalog.ids →
    Effect e w (.register f false) (some (.flowExists f.id), e, w)
  | added {f : Flow} {update : Bool} : f.id ∉ e.catalog.ids →
    Effect e w (.register f update) (none, { e with catalog := e.catalog ++ [(f.id, f)] }, w)
  | replaced {f old : Flow} {before after : Catalog} : e.catalog = before ++ (f.id, old) :: after →
    Effect e w (.register f true) (none, { e with catalog := before ++ (f.id, f) :: after }, w)
  | ran {o : Order} {fault : Option Fault} {w' : World σ} :
    w'.news = w.news → Effect e w (.run o) (fault, e, w')
  | streamed {o : Order} {fault : Option Fault} {w' : World σ} : w'.news = w.news →
    Effect e w (.stream o) (fault, e, w')

theorem untold_publish (hw : w.Untold told) (event : Event) (hkind : event.kind = .flowsLoaded) :
    World.Untold (told ++ (w.exchange.bus.listeners .flowsLoaded).map fun l => (l.name, event))
      { w with exchange := w.exchange.publish event } where
  still := by
    have hstill := hw.still
    rw [← hkind] at hstill ⊢
    exact hstill.publish_own
  emitted := hw.emitted

theorem effect_load (hw : w.Untold told) (given : Option Source) :
    Effect e w (.load given) (e.serve w (.load given)) ∧
    ∃ told', (e.serve w (.load given)).2.2.Untold told' := by
  unfold serve
  cases hchosen : (given <|> e.source) with
  | none =>
    have hload : e.load given w = (.error .noLoader, w) := by rw [load, hchosen]
    dsimp only
    rw [hload]
    exact ⟨.sourceless hchosen, told, hw⟩
  | some source =>
    cases hread : source.load with
    | error fault =>
      have hload : e.load given w = (.error fault, w) := by
        rw [load, hchosen]
        dsimp only
        rw [hread]
      dsimp only
      rw [hload]
      exact ⟨.unreadable hchosen hread, told, hw⟩
    | ok catalog =>
      have hload : e.load given w = (.ok { e with catalog },
          { w with exchange := w.exchange.publish (loadedEvent catalog w.now) }) := by
        rw [load, hchosen]
        dsimp only
        rw [hread]
        rfl
      have htold := untold_publish hw (loadedEvent catalog w.now) rfl
      have hnews := htold.still.receipts
      rw [← hw.still.receipts] at hnews
      dsimp only
      rw [hload]
      exact ⟨.loaded hchosen hread hnews, _, htold⟩

theorem effect_register (f : Flow) (update : Bool) :
    Effect e w (.register f update) (e.serve w (.register f update)) := by
  unfold serve
  by_cases hthere : f.id ∈ e.catalog.ids
  · have hsome := Catalog.isSome_get?.2 hthere
    cases update with
    | false =>
      have hregister : e.register f false = .error (.flowExists f.id) :=
        if_pos ⟨hsome, Bool.false_ne_true⟩
      dsimp only
      rw [hregister]
      exact .taken hthere
    | true =>
      obtain ⟨before, old, after, hcatalog, hinsert⟩ := Catalog.insert_of_mem hthere
      have hregister : e.register f true = .ok { e with
        catalog := before ++ (f.id, f) :: after } := by
        rw [← hinsert]
        exact if_neg fun h => h.2 rfl
      dsimp only
      rw [hregister]
      exact .replaced hcatalog
  · have hregister : e.register f update = .ok { e with catalog := e.catalog ++ [(f.id, f)] } := by
      rw [← Catalog.insert_of_not_mem hthere]
      exact if_neg fun h => hthere (Catalog.isSome_get?.1 h.1)
    dsimp only
    rw [hregister]
    exact .added hthere

theorem effect_serve (hw : w.Untold told) (operation : Operation) :
    Effect e w operation (e.serve w operation) ∧
    ∃ told', (e.serve w operation).2.2.Untold told' := by
  cases operation with
  | load given => exact effect_load hw given
  | register f update => exact ⟨effect_register f update, told, hw⟩
  | run o =>
    have hran := untold_run (e := e) hw o
    exact ⟨.ran (hran.still.receipts.trans hw.still.receipts.symm), told, hran⟩
  | stream o =>
    have hran := untold_stream (e := e) hw o
    exact ⟨.streamed (hran.still.receipts.trans hw.still.receipts.symm), told, hran⟩

theorem Effect.keyed {operation : Operation} {out : Option Fault × Engine σ × World σ}
    (h : Effect e w operation out) (he : e.catalog.Keyed) : out.2.1.catalog.Keyed := by
  cases h with
  | sourceless => exact he
  | unreadable => exact he
  | loaded _ hload => exact Source.keyed_load hload
  | taken => exact he
  | added hnew => exact he.add hnew
  | replaced hcatalog => exact Catalog.Keyed.replace (hcatalog ▸ he)
  | ran => exact he
  | streamed => exact he

theorem serveAll_invariant (he : e.catalog.Keyed) (hw : w.Untold told)
    (operations : List Operation) :
    (e.serveAll w operations).1.catalog.Keyed ∧
    ∃ told', (e.serveAll w operations).2.Untold told' := by
  induction operations generalizing e w told with
  | nil => exact ⟨he, told, hw⟩
  | cons operation rest ih =>
    obtain ⟨heffect, told', hafter⟩ := effect_serve (e := e) hw operation
    exact ih (heffect.keyed he) hafter

/-- Whatever was done with an engine that had no flows, every flow of its catalog stands under its
own id, no run has told of loaded flows, and the next operation has one of the effects. -/
theorem catalog_after_operations (x : Executor σ) (source : Option Source) (memory : σ) (bus : Bus)
    (now : Moment) (operations : List Operation) :
    let (e, w) := serveAll { executor := x, source } { memory, exchange := { bus }, now } operations
    e.catalog.Keyed ∧ (∀ event ∈ w.emitted, event.kind ≠ .flowsLoaded) ∧
      ∀ operation, Effect e w operation (e.serve w operation) := by
  have hfresh : World.Untold [] { memory, exchange := { bus }, now : World σ } :=
    ⟨⟨nofun, rfl⟩, nofun⟩
  obtain ⟨hkeyed, told, huntold⟩ := serveAll_invariant (e := { executor := x, source })
    Catalog.keyed_nil hfresh operations
  exact ⟨hkeyed, huntold.emitted, fun operation => (effect_serve huntold operation).1⟩

end Engine
end StepFlow
