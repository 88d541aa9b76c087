import StepFlow.Proofs.Fault.Sequence
import StepFlow.Proofs.Flow.Staffing
import StepFlow.Proofs.Run.Performance
import StepFlow.Proofs.Table
import StepFlow.Proofs.Text.Order

/-!
# Dispatch

A worker is asked in three ways about an action: whether it lists it, whether it supports it, and to
do it. The answers agree. Of several methods that claim an action the one whose name comes last does
it, in whatever order they are declared.
-/
namespace StepFlow

namespace Capability
variable {σ : Type} {table : List (String × List ActionKind)} {a : ActionKind} {m : String}

/-- A method that is offered claims the action. -/
def Claims (table : List (String × List ActionKind)) (a : ActionKind) (m : String) : Prop :=
  isOffered m = true ∧ ∃ kinds, (m, kinds) ∈ table ∧ a ∈ kinds

/-- Of the methods that claim the action, the one whose name is last. -/
structure ClaimsLast (table : List (String × List ActionKind)) (a : ActionKind) (m : String) :
    Prop where
  claims : Claims table a m
  last : ∀ other, Claims table a other → other ≤ m

theorem ClaimsLast.unique {m' : String} (h : ClaimsLast table a m) (h' : ClaimsLast table a m') :
    m = m' :=
  String.le_antisymm (h'.last m h.claims) (h.last m' h'.claims)

theorem mem_claims : (a, m) ∈ claims table ↔ Claims table a m := by
  unfold claims Claims
  simp only [List.mem_flatMap, List.mem_mergeSort, List.mem_filter, List.mem_map, Prod.mk.injEq]
  constructor
  · rintro ⟨⟨_, kinds⟩, ⟨hmem, hoffered⟩, _, ha, rfl, rfl⟩
    exact ⟨hoffered, kinds, hmem, ha⟩
  · rintro ⟨hoffered, kinds, hmem, ha⟩
    exact ⟨(m, kinds), ⟨hmem, hoffered⟩, a, ha, rfl, rfl⟩

theorem ordered_claims (table : List (String × List ActionKind)) :
    (claims table).Pairwise fun x y => x.2 ≤ y.2 := by
  refine List.pairwise_flatMap.2 ⟨?_, ?_⟩
  · intro method _
    exact List.pairwise_map.2 (List.pairwise_of_forall fun _ _ => String.le_refl _)
  · refine (Text.ordered_mergeSort Prod.fst _).imp fun hle => ?_
    intro x hx y hy
    obtain ⟨_, -, rfl⟩ := List.mem_map.1 hx
    obtain ⟨_, -, rfl⟩ := List.mem_map.1 hy
    exact hle

/-- The method that is left in the table for an action has the last claim to it. -/
theorem claimsLast_of_lookup (h : (methodTable table).lookup a = some m) :
    ClaimsLast table a m := by
  rw [methodTable, lookup_foldl_assign, List.lookup_nil, Option.or_none] at h
  obtain ⟨⟨a', m⟩, hlast, rfl⟩ := Option.map_eq_some_iff.1 h
  obtain ⟨front, hsplit⟩ := List.getLast?_eq_some_iff.1 hlast
  have hmem {x : ActionKind × String} (hx : x ∈ front ++ [(a', m)]) : x.1 = a ∧
      Claims table x.1 x.2 := by
    rw [← hsplit, List.mem_filter, beq_iff_eq] at hx
    exact ⟨hx.2, mem_claims.1 hx.1⟩
  obtain ⟨rfl, hclaims⟩ := hmem (List.mem_append_right front List.mem_cons_self)
  refine ⟨hclaims, fun other hother => ?_⟩
  have hordered := (ordered_claims table).filter fun x => x.1 == a'
  rw [hsplit] at hordered
  have hin : (a', other) ∈ front ++ [(a', m)] := by
    rw [← hsplit, List.mem_filter]
    exact ⟨mem_claims.2 hother, beq_self_eq_true a'⟩
  obtain hfront | hlast := List.mem_append.1 hin
  · exact (List.pairwise_append.1 hordered).2.2 _ hfront _ List.mem_cons_self
  · obtain ⟨rfl⟩ := List.mem_singleton.1 hlast
    exact String.le_refl _

theorem isSome_lookup_methodTable : ((methodTable table).lookup a).isSome ↔
    ∃ m, Claims table a m := by
  constructor
  · intro h
    obtain ⟨m, hm⟩ := Option.isSome_iff_exists.1 h
    exact ⟨m, (claimsLast_of_lookup hm).claims⟩
  · rintro ⟨m, hm⟩
    rw [methodTable, lookup_foldl_assign, List.lookup_nil, Option.or_none,
      Option.isSome_map, List.getLast?_isSome]
    exact List.ne_nil_of_mem (List.mem_filter.2 ⟨mem_claims.2 hm, beq_self_eq_true a⟩)

theorem lookup_methodTable_eq_some_iff : (methodTable table).lookup a = some m ↔
    ClaimsLast table a m := by
  refine ⟨claimsLast_of_lookup, fun h => ?_⟩
  obtain ⟨m', hm'⟩ := Option.isSome_iff_exists.1 (isSome_lookup_methodTable.2 ⟨m, h.claims⟩)
  rw [hm', (claimsLast_of_lookup hm').unique h]

example : methodTable [("zoom", [.search]), ("_hide", [.custom, .search]),
  ("Zoom", [.analyze, .search])] =
    [(.analyze, "Zoom"), (.search, "zoom")] := by cbv

theorem lookup_methodTable_congr {other : List (String × List ActionKind)}
    (h : ∀ m, Claims other a m ↔ Claims table a m) :
    (methodTable other).lookup a = (methodTable table).lookup a := by
  refine Option.ext fun m => ?_
  rw [lookup_methodTable_eq_some_iff, lookup_methodTable_eq_some_iff]
  constructor
  · rintro ⟨hclaims, hlast⟩
    exact ⟨(h m).1 hclaims, fun m' hm' => hlast m' ((h m').2 hm')⟩
  · rintro ⟨hclaims, hlast⟩
    exact ⟨(h m).2 hclaims, fun m' hm' => hlast m' ((h m').1 hm')⟩

/-- What does an action: of the methods that claim it the last one, or the function if the action is
among its own. -/
inductive Serves : Capability σ → ActionKind → Answering σ → Prop
  | method {table : List (String × List ActionKind)} {answer : String → Answering σ}
    {a : ActionKind} {m : String} :
    ClaimsLast table a m → Serves (.methods table answer) a (answer m)
  | function {actions : List ActionKind} {manner : Manner} {answer : Answering σ} {a : ActionKind} :
    a ∈ actions → Serves (.function actions manner answer) a answer

variable {capability : Capability σ} {answer : Answering σ}

theorem answering?_eq_some_iff : capability.answering? a = some answer ↔
    capability.Serves a answer := by
  constructor
  · intro h
    cases capability with
    | methods table answers =>
      obtain ⟨m, hm, rfl⟩ := Option.map_eq_some_iff.1 h
      exact .method (lookup_methodTable_eq_some_iff.1 hm)
    | function actions manner answer' =>
      obtain ⟨ha, hanswer⟩ := Option.ite_none_right_eq_some.1 h
      cases hanswer
      exact .function (List.contains_iff_mem.1 ha)
  · rintro (hlast | ha)
    · exact Option.map_eq_some_iff.2 ⟨_, lookup_methodTable_eq_some_iff.2 hlast, rfl⟩
    · exact if_pos (List.contains_iff_mem.2 ha)

theorem supports_eq : capability.supports a = (capability.answering? a).isSome := by
  cases capability with
  | methods table answers => exact (Option.isSome_map ..).symm
  | function actions manner answer =>
    dsimp only [supports, answering?]
    cases actions.contains a <;> rfl

theorem mem_actions : a ∈ capability.actions ↔ capability.supports a = true := by
  cases capability with
  | methods table answers => exact isSome_lookup.symm
  | function actions manner answer => exact List.mem_eraseDups.trans List.contains_iff_mem.symm

end Capability

namespace World
variable {σ : Type} {w : World σ} {c : Circumstances} {worker : Worker σ} {answer : Answering σ}
  {i : Invocation}

/-- What becomes of an invocation. It is answered, once and as it is, and a reply that is in time,
or holds out, is what it comes to; a worker that does anything aside may be cut off, before it is
called or before its reply is heeded. -/
inductive Delivered (w : World σ) (c : Circumstances) (worker : Worker σ) (answer : Answering σ)
    (i : Invocation) :
    Ending × World σ → Prop
  | answered {out : Ending × World σ} :
    out.2.calls = w.calls ++ [⟨worker.name, i, (answer i w.memory).1⟩] →
    out.2.memory = (answer i w.memory).2 →
    (worker.capability.manner ≠ .aside →
      (answer i w.memory).1.late = false ∨ (answer i w.memory).1.unyielding = true →
        out.1 = (answer i w.memory).1.ending) → Delivered w c worker answer i out
  | cutOff {ending : Ending} : worker.capability.manner ≠ .inline → w.cutOff? c = some ending →
    Delivered w c worker answer i (ending, w)

theorem memory_await (w : World σ) (c : Circumstances) (aside : Bool) (r : Reply) :
    (w.await c aside r).2.memory = w.memory := by
  have hheed : (w.heed r).memory = w.memory := by
    unfold heed
    split <;> rfl
  have hwait (w : World σ) : (w.wait c aside r).memory = w.memory := by
    unfold wait
    dsimp only
    split <;> rfl
  exact (hwait _).trans hheed

theorem await_inline {r : Reply} (h : r.late = false ∨ r.unyielding = true) :
    (w.await c false r).1 = r.ending := by
  have hwaits : (false || r.late && !r.unyielding) = false := by
    rcases h with h | h <;> simp [h]
  unfold await
  dsimp only
  rw [hwaits, if_neg Bool.false_ne_true]

theorem delivered_call (w : World σ) (c : Circumstances) (worker : Worker σ) (answer : Answering σ)
    (i : Invocation) :
    w.Delivered c worker answer i (w.call c worker answer i) := by
  cases hbarred : w.barred? c worker with
  | some ending =>
    rw [call_of_barred hbarred]
    obtain ⟨hmanner, hcut⟩ := barred?_eq_some_iff.1 hbarred
    exact .cutOff hmanner hcut
  | none =>
    have hmemory : (if worker.capability.manner = .prepared then w.settle else w).memory =
        w.memory := by
      split <;> rfl
    refine .answered (calls_call hbarred answer i) ?_ ?_
    · unfold call
      simp only [hbarred, memory_await, hmemory]
    · intro hmanner hheld
      unfold call
      simp only [hbarred, hmemory, hmanner, decide_false]
      exact await_inline hheld

theorem Delivered.ne_refused {out : Ending × World σ} (h : w.Delivered c worker answer i out)
    (fault : Fault) :
    out ≠ (.failed fault, w) := by
  rintro rfl
  cases h with
  | answered hcalls =>
    have hlength := congrArg List.length hcalls
    simp at hlength
  | cutOff _ hcut => exact cutOff?_ne_ending hcut { outcome := .error fault } rfl

theorem invoke_of_serves {a : ActionKind} (h : worker.capability.Serves a answer) (w : World σ)
    (c : Circumstances) (request : Request) (config : Option (List (String × Value))) :
    w.invoke c worker a request config = w.call c worker answer ⟨a, request, config.getD []⟩ := by
  unfold invoke Worker.answering
  rw [Capability.answering?_eq_some_iff.2 h]

theorem invoke_of_unsupported {a : ActionKind} (h : worker.supports a = false) (w : World σ)
    (c : Circumstances) (request : Request) (config : Option (List (String × Value))) :
    w.invoke c worker a request config = (.failed (.unsupportedAction worker.name a), w) := by
  have hnone : worker.capability.answering? a = none := by
    rw [← Option.not_isSome_iff_eq_none, ← Capability.supports_eq]
    exact Bool.eq_false_iff.1 h
  unfold invoke Worker.answering
  rw [hnone]

end World

namespace Worker
variable {σ : Type}

theorem supports_iff_serves {worker : Worker σ} {a : ActionKind} :
    worker.supports a = true ↔ ∃ answer, worker.capability.Serves a answer := by
  unfold supports
  rw [Capability.supports_eq, Option.isSome_iff_exists]
  exact exists_congr fun answer => Capability.answering?_eq_some_iff

theorem ofValue_eq_ok_iff {v : Value} {a : ActionKind} : ActionKind.ofValue v = .ok a ↔
    v = .text a.name := by
  unfold ActionKind.ofValue memberOf
  split
  · next name =>
    rw [Value.text.injEq, ← ActionKind.ofName?_eq_some_iff]
    cases ActionKind.ofName? name <;> simp
  · next hother =>
    constructor
    · intro h
      obtain ⟨_, -, hthrow⟩ := bind_eq_ok.1 h
      cases hthrow
    · intro h
      exact absurd h (hother a.name)

/-- The actions that are given are read by their names; where none are given all are meant. -/
theorem mem_choose {given : Option (List Value)} {actions : List ActionKind}
    (h : choose given = .ok actions) {a : ActionKind} : a ∈ actions ↔ ∀ names, given = some names →
      .text a.name ∈ names := by
  cases given with
  | none =>
    cases h
    simp only [reduceCtorEq, false_implies, implies_true, iff_true]
    cases a <;> decide
  | some names =>
    have hread := mapM_eq_ok.1 h
    have hmem : a ∈ actions ↔ Except.ok a ∈ names.map ActionKind.ofValue := by
      rw [hread, List.mem_map]
      exact ⟨fun ha => ⟨a, ha, rfl⟩, fun ⟨_, ha, heq⟩ => by cases heq; exact ha⟩
    rw [hmem, List.mem_map]
    simp only [Option.some.injEq, forall_eq', ofValue_eq_ok_iff, exists_eq_right]

theorem invoke_congr {table table' : List (String × List ActionKind)} {a : ActionKind}
    (h : ∀ m, Capability.Claims table' a m ↔ Capability.Claims table a m) (name typeName : String)
    (answer : String → Answering σ) (w : World σ) (c : Circumstances) (request : Request)
    (config : Option (List (String × Value))) :
    w.invoke c ⟨name, typeName, .methods table' answer⟩ a request config =
      w.invoke c ⟨name, typeName, .methods table answer⟩ a request config := by
  unfold World.invoke answering Capability.answering?
  dsimp only
  rw [Capability.lookup_methodTable_congr h]
  cases (Capability.methodTable table).lookup a <;> rfl

/-- What a worker says of an action agrees with what it does. It lists the action just if it
supports it, and just if it does not itself refuse to be asked for it. Then there is something that
serves the action, and this gets the request as it is, with the configuration that is given or an
empty one. With methods one of them must claim the action, and nothing but the claims counts, so
neither the order of the methods nor that of their actions. With one function the action must be
among the given ones, if any are given. -/
theorem answers_agree (worker : Worker σ) (a : ActionKind) :
    (a ∈ worker.actions ↔ worker.supports a = true) ∧
    (worker.supports a = true ↔ ∃ answer, worker.capability.Serves a answer) ∧
    (∀ (w : World σ) (c : Circumstances) (request : Request)
      (config : Option (List (String × Value))), (worker.supports a = true ↔
        w.invoke c worker a request config ≠ (.failed (.unsupportedAction worker.name a), w)) ∧
      ∀ answer, worker.capability.Serves a answer →
        w.Delivered c worker answer ⟨a, request, config.getD []⟩
          (w.invoke c worker a request config)) ∧
    (∀ table answer, worker.capability = .methods table answer →
      (worker.supports a = true ↔ ∃ m, Capability.Claims table a m) ∧
      ∀ table', (∀ m, Capability.Claims table' a m ↔ Capability.Claims table a m) →
        ∀ (w : World σ) (c : Circumstances) (request : Request)
          (config : Option (List (String × Value))),
          w.invoke c { worker with capability := .methods table' answer } a request config =
            w.invoke c worker a request config) ∧
    ∀ given actions manner answer, choose given = .ok actions →
      worker.capability = .function actions manner answer →
      (worker.supports a = true ↔ ∀ names, given = some names → .text a.name ∈ names) := by
  have hdelivered {answer : Answering σ} (hserves : worker.capability.Serves a answer) (w : World σ)
      (c : Circumstances) (request : Request) (config : Option (List (String × Value))) :
      w.Delivered c worker answer ⟨a, request, config.getD []⟩
        (w.invoke c worker a request config) := by
    rw [World.invoke_of_serves hserves]
    exact World.delivered_call w c worker answer _
  refine ⟨Capability.mem_actions, supports_iff_serves, ?_, ?_, ?_⟩
  · intro w c request config
    refine ⟨⟨fun hsupports => ?_, fun hnot => ?_⟩, fun answer hserves =>
      hdelivered hserves w c request config⟩
    · obtain ⟨answer, hserves⟩ := supports_iff_serves.1 hsupports
      exact (hdelivered hserves w c request config).ne_refused _
    · by_contra hsupports
      exact hnot (World.invoke_of_unsupported (Bool.eq_false_iff.2 hsupports) w c request config)
  · rintro table answer hmethods
    obtain ⟨name, typeName, capability⟩ := worker
    cases hmethods
    exact ⟨Capability.isSome_lookup_methodTable, fun table' hclaims =>
      invoke_congr hclaims name typeName answer⟩
  · rintro given actions manner answer hchosen hfunction
    unfold supports
    rw [hfunction, ← mem_choose hchosen]
    exact List.contains_iff_mem

end Worker
end StepFlow
