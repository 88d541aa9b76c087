import StepFlow.Table
import StepFlow.Worker.Basic

/-! Workers that act by a script: for every action the behaviours of the first, the second and all
later calls. -/
namespace StepFlow

inductive ScriptedReply where
  | value (v : Value)
  | fault (f : Fault)
  /-- The request itself. -/
  | echo
  /-- The prompt of the request. -/
  | prompt

structure Behaviour where
  cancel : Option (Option String) := none
  hang : Bool := false
  reply : ScriptedReply := .value (.record [("ok", .bool true)])

/-- The behaviours in order of the calls, by action; the entry `*` speaks for actions without
one. -/
abbrev Script := List (String × List Behaviour)

/-- How often each scripted worker was called for each action. -/
abbrev CallCounts := List ((Nat × ActionKind) × Nat)

namespace Script

/-- The behaviour on the call with the given number; the last one repeats. -/
def behaviour (s : Script) (a : ActionKind) (number : Nat) : Behaviour :=
  let bs := ((s.lookup a.name <|> s.lookup "*").getD [])
  (bs[number]? <|> bs.getLast?).getD {}

def outcome (r : Request) : ScriptedReply → Except Fault Value
  | .value v => .ok v
  | .fault f => .error f
  | .echo => .ok r.toValue
  | .prompt => r.prompt

/-- Acts by the script. The serial number tells the worker's calls from those of others. -/
def answer (s : Script) (serial : Nat) (wrap : Value → Value) : Answering CallCounts :=
  fun i counts =>
  let key := (serial, i.action)
  let number := (counts.lookup key).getD 0
  let b := s.behaviour i.action number
  (⟨b.cancel, b.hang, false, (outcome i.request b.reply).map wrap⟩, assign key (number + 1) counts)

end Script

namespace Worker

/-- A scripted worker with methods. Each wraps its replies together with its name if that is asked
for. -/
def scripted (name : String) (serial : Nat) (table : List (String × List ActionKind)) (named : Bool)
    (s : Script) :
    Worker CallCounts :=
  ⟨name, "Scripted", .methods table fun method => s.answer serial fun v =>
    if named then .record [("method", .text method), ("out", v)] else v⟩

def scriptedFunction (name : String) (serial : Nat) (actions : List ActionKind) (manner : Manner)
    (s : Script) :
    Worker CallCounts :=
  ⟨name, "FunctionWorker", .function actions manner (s.answer serial id)⟩

end Worker
end StepFlow
