import StepFlow.Proofs.Source.Catalog

/-!
# Mappings of definitions

A mapping of definitions is loaded just if each of them is read. Of several flows with one id the
last remains, in the place of the first; the others are lost.
-/
namespace StepFlow

/-- The last of the flows with an id. -/
def lastNamed (fs : List Flow) (id : String) : Option Flow := fs.reverse.find? fun f => f.id == id

theorem lastNamed_concat (fs : List Flow) (f : Flow) (id : String) :
    lastNamed (fs ++ [f]) id = if f.id = id then some f else lastNamed fs id := by
  unfold lastNamed
  rw [List.reverse_append, List.reverse_singleton, List.singleton_append, List.find?_cons]
  by_cases h : f.id = id
  · rw [beq_iff_eq.2 h, if_pos h]
  · rw [beq_eq_false_iff_ne.2 h, if_neg h]

namespace Catalog
variable {c : Catalog} {fs : List Flow}

/-- The catalog into which flows were put, one after the other. -/
structure Collects (c : Catalog) (fs : List Flow) : Prop where
  ids : c.ids = (fs.map Flow.id).eraseDups
  get : ∀ id, c.get? id = lastNamed fs id

theorem collects_nil : Collects [] [] := ⟨rfl, fun _ => rfl⟩

theorem Collects.insert (h : c.Collects fs) (f : Flow) : (c.insert f).Collects (fs ++ [f]) where
  ids := by
    have hkeys : (c.insert f).ids = if f.id ∈ c.ids then c.ids else c.ids ++ [f.id] :=
      keys_assign f.id f c
    rw [hkeys, h.ids, List.map_append, List.map_singleton, eraseDups_concat]
    simp only [List.mem_eraseDups]
  get := by
    intro id
    rw [lastNamed_concat]
    split
    · next hid => exact hid ▸ lookup_assign f.id f c
    · next hid => exact (lookup_assign_of_ne (Ne.symm hid) f c).trans (h.get id)

theorem collects_foldl (gs : List Flow) (h : c.Collects fs) :
    (gs.foldl Catalog.insert c).Collects (fs ++ gs) := by
  induction gs generalizing c fs with
  | nil => simpa using h
  | cons g gs ih => simpa using ih (h.insert g)

theorem Collects.unique {c' : Catalog} (h : c.Collects fs) (h' : c'.Collects fs) : c = c' := by
  refine table_ext (?_ : c.ids.Nodup) (h.ids.trans h'.ids.symm) fun id =>
    (h.get id).trans (h'.get id).symm
  rw [h.ids]
  exact nodup_eraseDups _

theorem Collects.length_eq_iff (h : c.Collects fs) :
    c.length = fs.length ↔ (fs.map Flow.id).Nodup := by
  have hlength : c.ids.length = c.length := List.length_map Prod.fst
  rw [← length_eraseDups_eq_iff, ← h.ids, hlength, List.length_map]

end Catalog

namespace Definitions

def Read (ds : Definitions) (fs : List Flow) : Prop :=
  ds.map (fun (key, d) => d.parse key) = fs.map .ok

theorem Read.length {ds : Definitions} {fs : List Flow} (h : ds.Read fs) :
    fs.length = ds.length := by
  have hlength := congrArg List.length h
  rw [List.length_map, List.length_map] at hlength
  exact hlength.symm

theorem load_eq (ds : Definitions) :
    ds.load = do return (← ds.mapM fun (key, d) => d.parse key).foldl Catalog.insert [] :=
      foldlM_return

/-- Definitions give a catalog just if all of them are read. It has the ids in the order in which
they first come up, and under each of them the last flow that has it; so it has a flow for each
definition just if no two of these have the same id. Otherwise the fault is that of the first
definition which is not read. -/
theorem load_keeps_last (ds : Definitions) :
    (∀ c, ds.load = .ok c ↔ ∃ fs, ds.Read fs ∧ c.ids = (fs.map Flow.id).eraseDups ∧
      (∀ id, c.get? id = lastNamed fs id) ∧ (c.length = ds.length ↔ (fs.map Flow.id).Nodup)) ∧
    ∀ fault, ds.load = .error fault ↔ ∃ before key d after, ds = before ++ (key, d) :: after ∧
      (∀ e ∈ before, ∃ f, e.2.parse e.1 = .ok f) ∧ d.parse key = .error fault := by
  rw [load_eq]
  constructor
  · intro c
    rw [bind_eq_ok]
    constructor
    · rintro ⟨fs, hread, hreturn⟩
      cases hreturn
      have hfs : ds.Read fs := mapM_eq_ok.1 hread
      have hcollects : (fs.foldl Catalog.insert []).Collects fs :=
        Catalog.collects_foldl fs Catalog.collects_nil
      exact ⟨fs, hfs, hcollects.ids, hcollects.get, hfs.length ▸ hcollects.length_eq_iff⟩
    · rintro ⟨fs, hfs, hids, hget, -⟩
      refine ⟨fs, mapM_eq_ok.2 hfs, congrArg Except.ok ?_⟩
      have hcollects : c.Collects fs := ⟨hids, hget⟩
      exact (Catalog.collects_foldl fs Catalog.collects_nil).unique hcollects
  · intro fault
    rw [bind_eq_error]
    constructor
    · rintro (hread | ⟨fs, -, hreturn⟩)
      · obtain ⟨before, ⟨key, d⟩, after, hsplit, hbefore, hfault⟩ := mapM_eq_error.1 hread
        exact ⟨before, key, d, after, hsplit, hbefore, hfault⟩
      · cases hreturn
    · rintro ⟨before, key, d, after, hsplit, hbefore, hfault⟩
      exact .inl (mapM_eq_error.2 ⟨before, (key, d), after, hsplit, hbefore, hfault⟩)

/-- Not every definition is kept: the second of two for one id takes the place of the first. -/
theorem not_every_definition_is_kept :
    ¬∀ (ds : Definitions) (c : Catalog), ds.load = .ok c → c.length = ds.length := by
  intro h
  let data (id : String) : Value := .record [("id", .text id), ("action", .text "search")]
  let ds : Definitions :=
    [(.text "x", .raw (.record [("id", .text "same"), ("steps", .list [data "a"])])),
    (.text "same", .raw (.record [("steps", .list [data "b"])]))]
  have hload : ds.load =
      .ok [("same", { id := "same", steps := [{ id := "b", action := .search }] })] := by
    with_unfolding_all rfl
  cases h ds _ hload

end Definitions
end StepFlow
