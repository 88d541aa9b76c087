import StepFlow.Table

/-!
# Tables

What is found under a key after an entry was assigned, or after all values have changed. The keys
stand in the order in which they are first given. Keys that do not repeat, and what is found under
them, make up the whole table.
-/
namespace StepFlow
variable {κ α β : Type} [BEq κ]

theorem lookup_map (g : α → β) (key : κ) (table : List (κ × α)) :
    (table.map fun e => (e.1, g e.2)).lookup key = (table.lookup key).map g := by
  induction table with
  | nil => rfl
  | cons entry rest ih =>
    rw [List.map_cons, List.lookup_cons, List.lookup_cons]
    split
    · rfl
    · exact ih

theorem assign_map (g : α → β) (key : κ) (value : α) (table : List (κ × α)) :
    assign key (g value) (table.map fun e => (e.1, g e.2)) = (assign key value table).map fun e =>
      (e.1, g e.2) := by
  induction table with
  | nil => rfl
  | cons entry rest ih =>
    rw [List.map_cons, assign, assign]
    split
    · rfl
    · rw [ih, List.map_cons]

variable [LawfulBEq κ]

theorem lookup_assign (key : κ) (value : α) (table : List (κ × α)) :
    (assign key value table).lookup key = some value := by
  induction table with
  | nil => simp [assign]
  | cons entry rest ih =>
    obtain ⟨k, v⟩ := entry
    unfold assign
    split
    · next hkey => simp [beq_iff_eq.1 hkey]
    · next hkey =>
      have hne : (key == k) = false := by
        rw [beq_eq_false_iff_ne]
        rintro rfl
        exact hkey (beq_self_eq_true _)
      rw [List.lookup_cons, hne]
      exact ih

theorem lookup_assign_of_ne {key other : κ} (h : other ≠ key) (value : α) (table : List (κ × α)) :
    (assign key value table).lookup other = table.lookup other := by
  have hother : (other == key) = false := beq_eq_false_iff_ne.2 h
  induction table with
  | nil => simp [assign, List.lookup_cons, hother]
  | cons entry rest ih =>
    obtain ⟨k, v⟩ := entry
    unfold assign
    split
    · next hkey =>
      rw [beq_iff_eq.1 hkey, List.lookup_cons, List.lookup_cons, hother]
    · rw [List.lookup_cons, List.lookup_cons, ih]

theorem isSome_lookup {key : κ} {table : List (κ × α)} : (table.lookup key).isSome ↔
    key ∈ table.map Prod.fst := by
  simp only [List.lookup_isSome_iff, List.mem_map, beq_iff_eq, eq_comm (a := key)]

/-- Where no key stands twice, the entries are what is found under the keys. -/
theorem mem_iff_lookup {table : List (κ × α)} (h : (table.map Prod.fst).Nodup) {key : κ}
    {value : α} :
    (key, value) ∈ table ↔ table.lookup key = some value := by
  induction table with
  | nil => simp
  | cons entry rest ih =>
    obtain ⟨k, v⟩ := entry
    obtain ⟨hfirst, hrest⟩ := List.nodup_cons.1 h
    rw [List.lookup_cons, List.mem_cons]
    by_cases hkey : key = k
    · subst hkey
      have hno : (key, value) ∉ rest := fun hmem => hfirst (List.mem_map.2 ⟨_, hmem, rfl⟩)
      simp [hno, eq_comm]
    · simp [hkey, beq_eq_false_iff_ne.2 hkey, ih hrest]

theorem table_ext {table other : List (κ × α)} (hdistinct : (table.map Prod.fst).Nodup)
    (hkeys : table.map Prod.fst = other.map Prod.fst)
    (hlookup : ∀ key, table.lookup key = other.lookup key) :
    table = other := by
  induction table generalizing other with
  | nil => exact (List.map_eq_nil_iff.1 hkeys.symm).symm
  | cons entry rest ih =>
    cases other with
    | nil => cases hkeys
    | cons entry' rest' =>
      obtain ⟨key, value⟩ := entry
      obtain ⟨key', value'⟩ := entry'
      obtain ⟨rfl, hrest⟩ := List.cons.inj hkeys
      obtain ⟨hnew, hdistinct⟩ := List.nodup_cons.1 hdistinct
      obtain rfl : value = value' := by simpa using hlookup key
      refine congrArg _ (ih hdistinct hrest fun other => ?_)
      by_cases hother : other = key
      · -- Below its first place the key stands in neither table.
        have hnone {t : List (κ × α)} (h : key ∉ t.map Prod.fst) : t.lookup key = none := by
          rw [← Option.not_isSome_iff_eq_none, isSome_lookup]
          exact h
        rw [hother, hnone hnew, hnone (hrest ▸ hnew)]
      · simpa [List.lookup_cons, beq_eq_false_iff_ne.2 hother] using hlookup other

theorem nodup_eraseDups (keys : List κ) : keys.eraseDups.Nodup := by
  cases keys with
  | nil => exact List.nodup_nil
  | cons key rest =>
    rw [List.eraseDups_cons, List.nodup_cons]
    exact ⟨by simp [List.mem_eraseDups], nodup_eraseDups _⟩
termination_by keys.length
decreasing_by exact Nat.lt_succ_of_le (List.length_filter_le _ _)

omit [BEq κ] [LawfulBEq κ] in
theorem nodup_concat {keys : List κ} {key : κ} (h : keys.Nodup) (hnew : key ∉ keys) :
    (keys ++ [key]).Nodup := by
  refine List.nodup_append.2 ⟨h, by simp, ?_⟩
  intro k hk other hother heq
  rw [List.mem_singleton.1 hother] at heq
  exact hnew (heq ▸ hk)

theorem eraseDups_concat (keys : List κ) (key : κ) :
    (keys ++ [key]).eraseDups = if key ∈ keys then keys.eraseDups else keys.eraseDups ++ [key] := by
  rw [List.eraseDups_append]
  split <;> next h => simp [List.removeAll, List.eraseDups_cons, h]

omit [LawfulBEq κ] in
theorem length_eraseDups_le (keys : List κ) : keys.eraseDups.length ≤ keys.length := by
  cases keys with
  | nil => exact Nat.le_refl _
  | cons key rest =>
    rw [List.eraseDups_cons, List.length_cons, List.length_cons]
    have hrest := length_eraseDups_le (rest.filter fun k => !k == key)
    have hfilter := List.length_filter_le (fun k => !k == key) rest
    omega
termination_by keys.length
decreasing_by exact Nat.lt_succ_of_le (List.length_filter_le _ _)

theorem length_eraseDups_eq_iff {keys : List κ} : keys.eraseDups.length = keys.length ↔
    keys.Nodup := by
  induction keys with
  | nil => simp
  | cons key rest ih =>
    rw [List.eraseDups_cons, List.length_cons, List.length_cons,
      List.nodup_cons, Nat.add_right_cancel_iff]
    by_cases hmem : key ∈ rest
    · have hshorter : (rest.filter fun k => !k == key).length < rest.length :=
        List.length_filter_lt_length_iff_exists.2 ⟨key, hmem, by simp⟩
      have hle := length_eraseDups_le (rest.filter fun k => !k == key)
      exact ⟨fun h => by omega, fun h => absurd hmem h.1⟩
    · have hsame : (rest.filter fun k => !k == key) = rest := by
        apply List.filter_eq_self.2
        intro k hk
        have hne : k ≠ key := fun h => hmem (h ▸ hk)
        simpa using hne
      rw [hsame, ih]
      exact (and_iff_right hmem).symm

theorem keys_assign (key : κ) (value : α) (table : List (κ × α)) :
    (assign key value table).map Prod.fst =
      if key ∈ table.map Prod.fst then table.map Prod.fst else table.map Prod.fst ++ [key] := by
  induction table with
  | nil => simp [assign]
  | cons entry rest ih =>
    obtain ⟨k, v⟩ := entry
    unfold assign
    split
    · next hkey => simp [beq_iff_eq.1 hkey]
    · next hkey =>
      have hne : key ≠ k := by
        rintro rfl
        exact hkey (beq_self_eq_true _)
      rw [List.map_cons, ih, List.map_cons]
      by_cases hmem : key ∈ rest.map Prod.fst
      · rw [if_pos hmem, if_pos (List.mem_cons_of_mem _ hmem)]
      · rw [if_neg hmem, if_neg (by simp [hne, hmem]), List.cons_append]

/-- A new key comes last. -/
theorem assign_of_not_mem {key : κ} {table : List (κ × α)} (h : key ∉ table.map Prod.fst)
    (value : α) :
    assign key value table = table ++ [(key, value)] := by
  induction table with
  | nil => rfl
  | cons entry rest ih =>
    obtain ⟨k, v⟩ := entry
    rw [List.map_cons, List.mem_cons, not_or] at h
    rw [assign, if_neg (by simpa using Ne.symm h.1), ih h.2, List.cons_append]

theorem assign_of_mem {key : κ} {table : List (κ × α)} (h : key ∈ table.map Prod.fst) (value : α) :
    ∃ before old after, table = before ++ (key, old) :: after ∧
      assign key value table = before ++ (key, value) :: after := by
  induction table with
  | nil => simp at h
  | cons entry rest ih =>
    obtain ⟨k, v⟩ := entry
    by_cases hkey : k = key
    · subst hkey
      exact ⟨[], v, rest, rfl, by simp [assign]⟩
    · have hrest : key ∈ rest.map Prod.fst := by
        rw [List.map_cons, List.mem_cons] at h
        exact h.resolve_left (Ne.symm hkey)
      obtain ⟨before, old, after, hsplit, hassign⟩ := ih hrest
      refine ⟨(k, v) :: before, old, after, by rw [hsplit, List.cons_append], ?_⟩
      rw [assign, if_neg (by simpa using hkey), hassign, List.cons_append]

omit [BEq κ] [LawfulBEq κ] in
theorem getLast?_filter_cons (p : α → Bool) (x : α) (xs : List α) :
    ((x :: xs).filter p).getLast? = (xs.filter p).getLast?.or (if p x then some x else none) := by
  rw [List.filter_cons]
  split
  · rw [List.getLast?_cons]
    cases (xs.filter p).getLast? <;> rfl
  · rw [Option.or_none]

theorem lookup_foldl_assign (pairs table : List (κ × α)) (key : κ) :
    (pairs.foldl (fun table p => assign p.1 p.2 table) table).lookup key =
      ((pairs.filter fun p => p.1 == key).getLast?.map Prod.snd).or (table.lookup key) := by
  induction pairs generalizing table with
  | nil => rfl
  | cons p pairs ih =>
    rw [List.foldl_cons, ih, getLast?_filter_cons]
    split
    · next hkey =>
      rw [← beq_iff_eq.1 hkey, lookup_assign]
      cases (pairs.filter fun q => q.1 == p.1).getLast? <;> rfl
    · next hkey =>
      rw [lookup_assign_of_ne (fun heq => hkey (beq_iff_eq.2 heq.symm)), Option.or_none]

theorem nodup_foldl_assign (pairs table : List (κ × α)) (h : (table.map Prod.fst).Nodup) :
    ((pairs.foldl (fun table p => assign p.1 p.2 table) table).map Prod.fst).Nodup := by
  induction pairs generalizing table with
  | nil => exact h
  | cons p pairs ih =>
    apply ih
    rw [keys_assign]
    split
    · exact h
    · next hnew => exact nodup_concat h hnew

theorem last_eq_lookup {table : List (κ × α)} (h : (table.map Prod.fst).Nodup) (key : κ) :
    (table.filter fun e => e.1 == key).getLast?.map Prod.snd = table.lookup key := by
  induction table with
  | nil => rfl
  | cons entry rest ih =>
    obtain ⟨hnew, hrest⟩ := List.nodup_cons.1 h
    rw [getLast?_filter_cons, List.lookup_cons, Bool.beq_comm]
    cases hkey : key == entry.1 with
    | true =>
      have hnone : rest.lookup key = none := by
        rw [← Option.not_isSome_iff_eq_none, isSome_lookup, beq_iff_eq.1 hkey]
        exact hnew
      rw [← ih hrest, Option.map_eq_none_iff] at hnone
      rw [hnone]
      rfl
    | false =>
      rw [if_neg Bool.false_ne_true, Option.or_none, ih hrest]

end StepFlow
