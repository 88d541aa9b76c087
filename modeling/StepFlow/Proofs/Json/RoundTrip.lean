import StepFlow.Proofs.Json.Spelling

/-!
# Reading back what was written

A value that JSON has a form for is read back from any layout, unless it is nested too deeply for
the reader.
-/
namespace StepFlow.Json

/-- A value that JSON has a form for: null, a bool, a whole number that has a text, a text, a list,
or a mapping whose keys are texts, each of them once. -/
inductive Plain : Value → Prop
  | null : Plain .null
  | bool (b : Bool) : Plain (.bool b)
  | int {n : Int} : n.natAbs < tenTo Reading.maxDigits → Plain (.int n)
  | text (s : String) : Plain (.text s)
  | list {xs : List Value} : (∀ x ∈ xs, Plain x) → Plain (.list xs)
  | record {fields : List (String × Value)} : (fields.map Prod.fst).Nodup →
    (∀ f ∈ fields, Plain f.2) → Plain (.record fields)

theorem spells_writeItems {l : Layout} {level : Nat} {xs : List Value}
    (h : ∀ x ∈ xs, ∃ cs, write l level x = .ok cs ∧ Spells x cs) :
    ∃ texts, writeItems l level xs = .ok texts ∧ List.Forall₂ Spells xs texts := by
  induction xs with
  | nil => exact ⟨[], by unfold writeItems; rfl, .nil⟩
  | cons x xs ih =>
    obtain ⟨hx, hxs⟩ := List.forall_mem_cons.1 h
    obtain ⟨cs, hwrite, hspells⟩ := hx
    obtain ⟨texts, hwrites, hall⟩ := ih hxs
    refine ⟨cs :: texts, ?_, .cons hspells hall⟩
    unfold writeItems
    exact bind_eq_ok.2 ⟨cs, hwrite, bind_eq_ok.2 ⟨texts, hwrites, rfl⟩⟩

theorem spells_writeEntries {l : Layout} {level : Nat} {fs : List (String × Value)}
    (h : ∀ f ∈ fs, ∃ cs, write l level f.2 = .ok cs ∧ Spells f.2 cs) :
    ∃ texts, writeEntries l level (entries fs) = .ok texts ∧
    List.Forall₂ SpellsEntry (entries fs) texts := by
  induction fs with
  | nil => exact ⟨[], by unfold entries writeEntries; rfl, .nil⟩
  | cons f fs ih =>
    obtain ⟨key, v⟩ := f
    obtain ⟨hv, hfs⟩ := List.forall_mem_cons.1 h
    obtain ⟨cs, hwrite, hspells⟩ := hv
    obtain ⟨texts, hwrites, hall⟩ := ih hfs
    refine ⟨_, ?_, .cons (.mk hspells) hall⟩
    have hfields : entries ((key, v) :: fs) = (.text key, v) :: entries fs := rfl
    rw [hfields, writeEntries]
    exact bind_eq_ok.2 ⟨key, rfl, bind_eq_ok.2 ⟨cs, hwrite, bind_eq_ok.2 ⟨texts, hwrites, rfl⟩⟩⟩

theorem spells_write {v : Value} (h : Plain v) (l : Layout) (level : Nat) :
    ∃ cs, write l level v = .ok cs ∧ Spells v cs := by
  induction h generalizing level with
  | null => exact ⟨_, by unfold write; rfl, spells_null⟩
  | bool b => exact ⟨_, by unfold write; rfl, spells_bool b⟩
  | @int n hn =>
    have htext : Value.intText n = .ok (toString n) := if_neg (Nat.not_le.2 hn)
    refine ⟨_, ?_, spells_int hn⟩
    unfold write
    exact bind_eq_ok.2 ⟨toString n, mapError_eq_ok.2 htext, rfl⟩
  | text s => exact ⟨_, by unfold write; rfl, spells_text s⟩
  | list _ ih =>
    obtain ⟨texts, hwrites, hspells⟩ := spells_writeItems fun x hx => ih x hx (level + 1)
    refine ⟨_, ?_, spells_list hspells l level⟩
    unfold write
    exact bind_eq_ok.2 ⟨texts, hwrites, rfl⟩
  | record hkeys _ ih =>
    obtain ⟨texts, hwrites, hspells⟩ := spells_writeEntries fun f hf => ih f hf (level + 1)
    refine ⟨_, ?_, spells_record hkeys hspells l level⟩
    unfold Value.record write
    exact bind_eq_ok.2 ⟨texts, hwrites, rfl⟩

theorem parseWithin_of_spells {v : Value} {cs : List Char} (h : Spells v cs) (limit : Nat) :
    (v.nesting ≤ limit → parseWithin limit (String.ofList cs) = .ok v) ∧
      (limit < v.nesting → ∃ isArray, parseWithin limit (String.ofList cs) =
        .error (.tooDeep isArray)) := by
  have hread := h.reads limit (show 2 * cs.length ≤ 2 * cs.length + 2 by omega)
    (Nat.zero_le limit) ends_nil
  rw [List.append_nil, Nat.zero_add] at hread
  unfold parseWithin
  dsimp only
  rw [String.toList_ofList, h.begins.skipSpace]
  constructor
  · intro hfits
    rw [hread.ok hfits]
    rfl
  · intro hdeep
    obtain ⟨isArray, herror⟩ := hread.tooDeep (Nat.not_le.2 hdeep)
    rw [herror]
    exact ⟨isArray, rfl⟩

/-- A value that JSON has a form for is rendered, and its text is read back just if the nesting
allows it. -/
theorem render_reads {v : Value} (h : Plain v) (l : Layout) :
    ∃ text, render l v = .ok text ∧ ∀ limit, (parseWithin limit text = .ok v ↔
      v.nesting ≤ limit) := by
  obtain ⟨cs, hwrite, hspells⟩ := spells_write h l 0
  refine ⟨String.ofList cs, bind_eq_ok.2 ⟨cs, hwrite, rfl⟩, fun limit => ?_⟩
  obtain ⟨hfits, hdeep⟩ := parseWithin_of_spells hspells limit
  constructor
  · intro hread
    apply Nat.le_of_not_lt
    intro hlimit
    obtain ⟨isArray, herror⟩ := hdeep hlimit
    rw [herror] at hread
    cases hread
  · exact hfits

/-- No two values have the same text, in whichever layouts they are written. -/
theorem render_injective {v w : Value} (hv : Plain v) (hw : Plain w) {l l' : Layout} {text : String}
    (hrenderv : render l v = .ok text) (hrenderw : render l' w = .ok text) : v = w := by
  obtain ⟨textv, hv', hreadv⟩ := render_reads hv l
  obtain ⟨textw, hw', hreadw⟩ := render_reads hw l'
  rw [hrenderv] at hv'
  rw [hrenderw] at hw'
  cases hv'
  cases hw'
  have hboth := (hreadv (v.nesting + w.nesting)).2 (by omega)
  rw [(hreadw (v.nesting + w.nesting)).2 (by omega)] at hboth
  exact (Except.ok.inj hboth).symm

end StepFlow.Json
