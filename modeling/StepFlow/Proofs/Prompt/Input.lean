import StepFlow.Prompt.Input
import StepFlow.Proofs.Table

/-!
# The data of a step

Entries that are collected under text keys stand in the order in which the keys are first named,
once each.
-/
namespace StepFlow

theorem Value.sameKey_text (s t : String) : (text s).sameKey (text t) = (s == t) := by
  simp only [sameKey]

/-- The parts of a value that is spliced into a list: the items of a list or a tuple, and any other
value itself. -/
def Value.spliced : Value → List Value
  | list xs | tuple xs => xs
  | v => [v]

theorem StepInput.gatherSources_eq (i : StepInput) :
    i.gatherSources =
      (if i.previous.isNull then [] else [i.previous]) ++ (i.contextData.getD []).flatMap fun e =>
        e.2.spliced := by
  unfold gatherSources
  congr 2

namespace Entries

/-- What is given under texts, for those of them under which something is given. -/
def given (g : String → Option Value) (names : List String) : Entries :=
  names.filterMap fun name => (g name).map fun v => (.text name, v)

variable {g : String → Option Value} {name : String} {v : Value}

theorem given_append (names more : List String) :
    given g (names ++ more) = given g names ++ given g more :=
  List.filterMap_append

theorem given_of_none (h : g name = none) (rest : List String) :
    given g (name :: rest) = given g rest := by
  simp [given, h]

theorem given_of_some (h : g name = some v) (rest : List String) :
    given g (name :: rest) = (.text name, v) :: given g rest := by
  simp [given, h]

theorem insert_given_of_mem (h : g name = some v) {names : List String} (hmem : name ∈ names) :
    insert (given g names) (.text name) v = given g names := by
  induction names with
  | nil => cases hmem
  | cons n rest ih =>
    cases hn : g n with
    | none =>
      rw [given_of_none hn]
      apply ih
      rcases List.mem_cons.1 hmem with rfl | hrest
      · cases h.symm.trans hn
      · exact hrest
    | some u =>
      rw [given_of_some hn]
      unfold insert
      rw [Value.sameKey_text]
      by_cases heq : n = name
      · subst heq
        cases h.symm.trans hn
        rw [if_pos (beq_self_eq_true n)]
      · rw [if_neg (by simpa using heq), ih ((List.mem_cons.1 hmem).resolve_left (Ne.symm heq))]

theorem insert_given_of_not_mem {names : List String} (hmem : name ∉ names) :
    insert (given g names) (.text name) v = given g names ++ [(.text name, v)] := by
  induction names with
  | nil => rfl
  | cons n rest ih =>
    obtain ⟨hne, hrest⟩ := not_or.1 (mt List.mem_cons.2 hmem)
    cases hn : g n with
    | none => rw [given_of_none hn, ih hrest]
    | some u =>
      rw [given_of_some hn]
      unfold insert
      rw [Value.sameKey_text, if_neg (by simpa using Ne.symm hne), ih hrest, List.cons_append]

theorem insert_given_eraseDups (h : g name = some v) (names : List String) :
    insert (given g names.eraseDups) (.text name) v = given g (names ++ [name]).eraseDups := by
  rw [eraseDups_concat]
  split
  · next hmem => exact insert_given_of_mem h (List.mem_eraseDups.2 hmem)
  · next hmem =>
    rw [insert_given_of_not_mem (mt List.mem_eraseDups.1 hmem), given_append, given_of_some h]
    rfl

theorem given_eraseDups_of_none (h : g name = none) (names : List String) :
    given g (names ++ [name]).eraseDups = given g names.eraseDups := by
  rw [eraseDups_concat]
  split
  · rfl
  · rw [given_append, given_of_none h]
    exact List.append_nil _

/-- The collected entries are those of the distinct texts in the order in which they are first
named. -/
theorem ofList_given (g : String → Option Value) (names : List String) :
    ofList (given g names) = given g names.eraseDups := by
  have hfold (seen : List String) :
      (given g names).foldl (fun es e => insert es e.1 e.2) (given g seen.eraseDups) =
        given g (seen ++ names).eraseDups := by
    induction names generalizing seen with
    | nil => rw [List.append_nil]; rfl
    | cons name rest ih =>
      rw [← List.singleton_append, ← List.append_assoc, ← ih (seen ++ [name]),
        List.singleton_append]
      cases h : g name with
      | none => rw [given_of_none h, given_eraseDups_of_none h]
      | some v =>
        rw [given_of_some h, List.foldl_cons]
        dsimp only
        rw [insert_given_eraseDups h]
  exact hfold []

end Entries
end StepFlow
