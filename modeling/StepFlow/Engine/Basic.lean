import StepFlow.Run.Drive
import StepFlow.Source.Basic

/-! The engine: a catalog of flows, and what they are run with. -/
namespace StepFlow

structure Engine (σ : Type) where
  executor : Executor σ
  source : Option Source := none
  catalog : Catalog := []

namespace Engine
variable {σ : Type}

def describe (e : Engine σ) : String :=
  "FlowEngine(flows=" ++ Text.Quoted.list (Text.sorted e.catalog.ids) ++ ", workers=" ++
    Text.Quoted.list e.executor.workers.names ++ s!", max_steps={e.executor.config.maxSteps})"

def describeRunner (e : Engine σ) (bus : Bus) : String :=
  s!"FlowRunner(max_steps={e.executor.config.maxSteps}, bus=" ++ bus.describe ++ ")"

/-- Replaces the catalog by the flows of a source, the given one or else the engine's own, and
announces them. A failure leaves the catalog as it is. -/
def load (e : Engine σ) (source : Option Source) (w : World σ) :
    Except Fault (Engine σ) × World σ :=
  match source <|> e.source with
  | none => (.error .noLoader, w)
  | some source =>
    match source.load with
    | .error fault => (.error fault, w)
    | .ok catalog =>
      let event : Event :=
        { kind := .flowsLoaded, data := Event.named [("flow_ids", .value (.texts catalog.ids))],
          timestamp := w.now }
      (.ok { e with catalog }, { w with exchange := w.exchange.publish event })

/-- Adds a flow; one with the same id gives way only on request. -/
def register (e : Engine σ) (f : Flow) (update : Bool) : Except Fault (Engine σ) :=
  if (e.catalog.get? f.id).isSome ∧ ¬update then .error (.flowExists f.id)
  else .ok { e with catalog := e.catalog.insert f }

def require (e : Engine σ) (id : String) (w : World σ) : Except Fault Flow × World σ :=
  match e.catalog.get? id with
  | some f => (.ok f, w)
  | none =>
    let fault := Fault.flowNotFound id (Text.sorted e.catalog.ids)
    let event : Event :=
      { kind := .flowError, flowId := some id,
        data := Event.named [("error", .value (.record fault.report))], timestamp := w.now }
    (.error fault, { w with exchange := w.exchange.publish event })

structure Order where
  flow : String
  query : String
  /-- The caller's data: a mapping, or what can be made one. -/
  callerContext : Value := .null
  /-- The session of the run. -/
  session : String
  token : Option Token := none

def Order.context (o : Order) (f : Flow) : Except Fault Context := do
  return { flowId := f.id, query := o.query, callerContext := ← o.callerContext.toEntries,
           sessionId := o.session }

def runOn (e : Engine σ) (f : Flow) (token : Option Token) (c : Context) (w : World σ) :
    Except Fault Unit × Context × World σ :=
  let (result, c, w) := e.executor.run f c { w with token }
  (result, c, { w with token := none })

def run (e : Engine σ) (o : Order) (w : World σ) : Except Fault Context × World σ :=
  match e.require o.flow w with
  | (.error fault, w) => (.error fault, w)
  | (.ok f, w) =>
    match o.context f with
    | .error fault => (.error fault, w)
    | .ok c =>
      match e.runOn f o.token c w with
      | (.ok (), c, w) => (.ok c, w)
      | (.error fault, _, w) => (.error fault, w)

end Engine
end StepFlow
