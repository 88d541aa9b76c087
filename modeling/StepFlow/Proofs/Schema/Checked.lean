import Mathlib.Data.List.Forall2
import StepFlow.Flow.Decode
import StepFlow.Proofs.Table

/-!
# The values of checks

Whether a check of raw data comes to a value, and to which, without regard to the issues of one that
does not. A check that is put together of others comes to a value just if all of them do.
-/
namespace StepFlow.Schema

namespace Checked
variable {α β : Type}

def value? : Checked α → Option α
  | good a => some a
  | bad _ => none

@[simp] theorem value?_good (a : α) : (good a).value? = some a := rfl
@[simp] theorem value?_bad (issues : List Issue) : (bad issues : Checked α).value? = none := rfl

theorem value?_map (f : α → β) (c : Checked α) : (f <$> c).value? = c.value?.map f := by
  cases c <;> rfl

theorem value?_seq (f : Checked (α → β)) (c : Checked α) :
    (f <*> c).value? = f.value?.bind fun g => c.value?.map g := by
  cases f <;> cases c <;> rfl

theorem value?_andThen (c : Checked α) (f : α → Checked β) :
    (c.andThen f).value? = c.value?.bind fun a => (f a).value? := by
  cases c <;> rfl

@[simp] theorem value?_within (p : Place) (c : Checked α) : (c.within p).value? = c.value? := by
  cases c <;> rfl

theorem value?_elements_go (check : Value → Checked α) (i : Nat) (xs : List Value) :
    (elements.go check i xs).value? = xs.mapM fun x => (check x).value? := by
  induction xs generalizing i with
  | nil => rfl
  | cons x xs ih =>
    rw [elements.go, value?_seq, value?_map, value?_within, ih, List.mapM_cons]
    cases (check x).value? <;> cases xs.mapM fun x => (check x).value? <;> rfl

theorem value?_elements (check : Value → Checked α) (xs : List Value) :
    (elements check xs).value? = xs.mapM fun x => (check x).value? :=
  value?_elements_go check 0 xs

end Checked

open Checked
variable {κ α : Type}

theorem value?_sequence (check : Value → Checked α) (v : Value) :
    (sequence check v).value? = match v with
      | .list xs | .tuple xs | .set xs => xs.mapM fun x => (check x).value?
      | _ => none := by
  cases v <;> first | rfl | exact value?_elements check _

theorem value?_field (es : Entries) (names : List String) (default : α)
    (check : Value → Checked α) :
    (field es names default check).value? = match present? es names with
      | some (_, v) => (check v).value?
      | none => some default := by
  unfold field
  cases present? es names with
  | none => rfl
  | some found => exact value?_within ..

theorem value?_required (es : Entries) (name : String) (check : Value → Checked α) :
    (required es name check).value? = (es.getText? name).bind fun v => (check v).value? := by
  unfold required
  split
  · next h => rw [value?_within, h, Option.bind_some]
  · next h =>
    rw [h]
    rfl

def pair? (key : Value → Checked κ) (value : Value → Checked α) (e : Value × Value) :
    Option (κ × α) :=
  (key e.1).value?.bind fun k => (value e.2).value?.map fun v => (k, v)

theorem value?_table_go (key : Value → Checked κ) (value : Value → Checked α) (es : Entries) :
    (table.go key value es).value? = es.mapM (pair? key value) := by
  induction es with
  | nil => rfl
  | cons e es ih =>
    rw [table.go, value?_seq, value?_seq, value?_map, value?_within, value?_within,
      value?_within, ih, List.mapM_cons, pair?]
    cases (key e.1).value? <;> cases (value e.2).value? <;> cases es.mapM (pair? key value) <;> rfl

theorem value?_table [BEq κ] (key : Value → Checked κ) (value : Value → Checked α) (v : Value) :
    (table key value v).value? = match v with
      | .mapping es => (es.mapM (pair? key value)).map fun pairs => pairs.foldl table.put []
      | _ => none := by
  cases v with
  | mapping es =>
    dsimp only
    rw [← value?_table_go]
    exact value?_map _ _
  | _ => rfl

theorem pair?_eq_some_iff {key : Value → Checked κ} {value : Value → Checked α} {e : Value × Value}
    {p : κ × α} :
    pair? key value e = some p ↔ (key e.1).value? = some p.1 ∧ (value e.2).value? = some p.2 := by
  obtain ⟨k, a⟩ := p
  simp [pair?, Option.bind_eq_some_iff]

theorem last_of_mapM [BEq κ] [LawfulBEq κ] {key : Value → Checked κ} {value : Value → Checked α}
    {es : Entries} {pairs : List (κ × α)} (h : es.mapM (pair? key value) = some pairs) (k : κ) :
    Option.Rel (fun e p => pair? key value e = some p) (es.filter fun e =>
      (key e.1).value? == some k).getLast?
      (pairs.filter fun p => p.1 == k).getLast? := by
  induction es generalizing pairs with
  | nil =>
    cases h
    exact .none
  | cons e es ih =>
    rw [List.mapM_cons] at h
    obtain ⟨p, hp, h⟩ := Option.bind_eq_some_iff.1 h
    obtain ⟨rest, hrest, hcons⟩ := Option.bind_eq_some_iff.1 h
    cases hcons
    have hlast := ih hrest
    rw [getLast?_filter_cons, getLast?_filter_cons, (pair?_eq_some_iff.1 hp).1,
      Option.some_beq_some]
    generalize (es.filter fun e => (key e.1).value? == some k).getLast? = last at hlast ⊢
    generalize (rest.filter fun p => p.1 == k).getLast? = last' at hlast ⊢
    cases hlast with
    | some hlast => exact .some hlast
    | none =>
      rw [Option.none_or, Option.none_or]
      split
      · exact .some hp
      · exact .none

/-- The value under a key of a table is read from the last of the entries whose keys are read as
that key. -/
theorem lookup_table [BEq κ] [LawfulBEq κ] {key : Value → Checked κ} {value : Value → Checked α}
    {es : Entries} {table : List (κ × α)}
    (h : (Schema.table key value (.mapping es)).value? = some table) (k : κ) :
    Option.Rel (fun e a => (value e.2).value? = some a) (es.filter fun e =>
      (key e.1).value? == some k).getLast?
      (table.lookup k) := by
  rw [value?_table] at h
  obtain ⟨pairs, hpairs, rfl⟩ := Option.map_eq_some_iff.1 h
  have hlookup : (pairs.foldl table.put []).lookup k =
      (pairs.filter fun p => p.1 == k).getLast?.map Prod.snd :=
    (lookup_foldl_assign pairs [] k).trans (Option.or_none ..)
  have hlast := last_of_mapM hpairs k
  rw [hlookup]
  generalize (es.filter fun e => (key e.1).value? == some k).getLast? = last at hlast ⊢
  generalize (pairs.filter fun p => p.1 == k).getLast? = last' at hlast ⊢
  cases hlast with
  | none => exact .none
  | some hlast => exact .some (pair?_eq_some_iff.1 hlast).2

theorem value?_action (v : Value) :
    (action v).value? = (text v).value?.bind ActionKind.ofName? := by
  unfold action
  cases text v with
  | bad issues => rfl
  | good s =>
    dsimp only [value?_good, Option.bind_some]
    cases ActionKind.ofName? s <;> rfl

end StepFlow.Schema
