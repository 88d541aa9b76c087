import StepFlow.Proofs.Fault.Sequence
import StepFlow.Proofs.Table
import StepFlow.Source.Catalog

/-!
# Catalogs

Every flow of a catalog stands under its own id, whatever it was known by before it was read.
-/
namespace StepFlow
namespace Catalog
variable {c : Catalog} {f : Flow}

/-- Every flow stands under its own id, and no id stands twice. -/
structure Keyed (c : Catalog) : Prop where
  own : ∀ id f, (id, f) ∈ c → f.id = id
  nodup : c.ids.Nodup

theorem keyed_nil : Keyed [] := ⟨by simp, List.nodup_nil⟩

theorem isSome_get? {id : String} : (c.get? id).isSome ↔ id ∈ c.ids := isSome_lookup

theorem insert_of_not_mem (h : f.id ∉ c.ids) : c.insert f = c ++ [(f.id, f)] :=
  assign_of_not_mem h f

theorem insert_of_mem (h : f.id ∈ c.ids) :
    ∃ before old after, c = before ++ (f.id, old) :: after ∧
    c.insert f = before ++ (f.id, f) :: after :=
  assign_of_mem h f

theorem Keyed.add (h : c.Keyed) (hnew : f.id ∉ c.ids) : Keyed (c ++ [(f.id, f)]) where
  own := by
    intro id g hmem
    rcases List.mem_append.1 hmem with hold | hadded
    · exact h.own id g hold
    · cases List.mem_singleton.1 hadded
      rfl
  nodup := by
    have hids : ids (c ++ [(f.id, f)]) = c.ids ++ [f.id] := List.map_append
    rw [hids]
    exact nodup_concat h.nodup hnew

theorem Keyed.replace {before after : Catalog} {old : Flow}
    (h : Keyed (before ++ (f.id, old) :: after)) :
    Keyed (before ++ (f.id, f) :: after) where
  own := by
    intro id g hmem
    rcases List.mem_append.1 hmem with hbefore | hrest
    · exact h.own id g (List.mem_append_left _ hbefore)
    · rcases List.mem_cons.1 hrest with hthis | hafter
      · cases hthis
        rfl
      · exact h.own id g (List.mem_append_right _ (List.mem_cons_of_mem _ hafter))
  nodup := by
    have hids : ids (before ++ (f.id, f) :: after) = ids (before ++ (f.id, old) :: after) := by
      simp [ids]
    rw [hids]
    exact h.nodup

theorem Keyed.insert (h : c.Keyed) (f : Flow) : (c.insert f).Keyed := by
  by_cases hthere : f.id ∈ c.ids
  · obtain ⟨before, old, after, rfl, hinsert⟩ := insert_of_mem hthere
    rw [hinsert]
    exact h.replace
  · rw [insert_of_not_mem hthere]
    exact h.add hthere

def ofFlows (fs : List Flow) : Catalog := fs.map fun f => (f.id, f)

theorem ids_ofFlows (fs : List Flow) : (ofFlows fs).ids = fs.map Flow.id := by
  unfold ofFlows ids
  rw [List.map_map]
  rfl

theorem keyed_ofFlows {fs : List Flow} (h : (fs.map Flow.id).Nodup) : (ofFlows fs).Keyed where
  own := by
    intro id f hmem
    obtain ⟨g, -, hg⟩ := List.mem_map.1 hmem
    cases hg
    rfl
  nodup := by
    rw [ids_ofFlows]
    exact h

end Catalog

theorem Definitions.keyed_load {ds : Definitions} {c : Catalog} (h : ds.load = .ok c) :
    c.Keyed := by
  refine foldlM_invariant ?_ Catalog.keyed_nil h
  intro c d c' hc hread
  obtain ⟨f, -, hinsert⟩ := bind_eq_ok.1 hread
  cases hinsert
  exact hc.insert f

end StepFlow
