import StepFlow.Proofs.Flow.References
import StepFlow.Proofs.Table
import StepFlow.Proofs.Text.Order

/-!
# Which flows are accepted

A flow whose fields are in order is accepted just if its ids are declared once and its references
name declared ids. Of a flow that is refused it is said what is wrong first: that there are no
steps, then every repetition of an id, then every reference to a step that is not declared.
-/
namespace StepFlow

namespace Flow

/-- There are steps, no id is declared twice, and every reference names a declared id. The name of
the end is exempt as the target of a condition, and there only; an empty text asks for no earlier
step. -/
structure WellReferenced (f : Flow) : Prop where
  steps : f.steps ≠ []
  distinct : f.stepIds.Nodup
  start : ∀ t, f.defaultStart = some t → t ∈ f.stepIds
  conditions : ∀ s ∈ f.steps, ∀ c, s.conditions = some c →
    ∀ t, some t ∈ [c.onSuccess, c.onFailure, c.onNoResults] → t ≠ "end" → t ∈ f.stepIds
  fromStep : ∀ s ∈ f.steps, ∀ i, s.inputs = some i → ∀ t, i.fromStep = some t → t ≠ "" →
    t ∈ f.stepIds
  fromContext : ∀ s ∈ f.steps, ∀ i, s.inputs = some i → ∀ ids, i.fromContext = some ids →
    ∀ t ∈ ids, t ∈ f.stepIds

/-- The ids that are declared again, one entry for each position before which the id has stood
already. -/
def repetitions (ids : List String) : List String :=
  (List.range ids.length).filterMap fun i => ids[i]?.filter fun id => id ∈ ids.take i

def undeclared (f : Flow) (ids : List String) : List String := ids.filter fun id => id ∉ f.stepIds

/-- The references to steps that are not declared: the start step, then for each step those of its
conditions and those of its inputs. -/
def unresolved (f : Flow) : List StepReference :=
  let targets (c : Conditions) :=
    ([c.onSuccess, c.onFailure, c.onNoResults].filterMap fun t => t).filter (· ≠ "end")
  let sources (i : StepInputs) := i.fromStep.toList.filter (· ≠ "") ++ i.fromContext.getD []
  (f.undeclared f.defaultStart.toList).map .start ++ f.steps.flatMap fun s =>
    (f.undeclared (s.conditions.toList.flatMap targets)).map (.condition s.id) ++
      (f.undeclared (s.inputs.toList.flatMap sources)).map (.input s.id)

variable {f g : Flow}

theorem targets_eq (c : Conditions) :
    c.targets = ([c.onSuccess, c.onFailure, c.onNoResults].filterMap fun t =>
      t).filter (· ≠ "end") := by
  have htarget (t : Option String) : (if t = some endTarget then none else t) =
      t.filter (· ≠ "end") := by
    cases t with
    | none => rfl
    | some t => by_cases h : t = "end" <;> simp [endTarget, Option.filter_some, h]
  unfold Conditions.targets
  rw [List.filter_filterMap, funext htarget]

theorem referencedIds_eq (i : StepInputs) :
    i.referencedIds = i.fromStep.toList.filter (· ≠ "") ++ i.fromContext.getD [] := by
  unfold StepInputs.referencedIds
  cases i.fromStep with
  | none => rfl
  | some t => by_cases h : t = "" <;> simp [given?, h]

theorem filter_references (f : Flow) {place : String → StepReference}
    (hplace : ∀ t, (place t).target = t) (ids : List String) :
    (ids.map place).filter (fun r => !f.stepIds.contains r.target) =
    (f.undeclared ids).map place := by
  unfold undeclared
  rw [List.filter_map]
  congr 2
  funext t
  simp [hplace]

/-- The check finds the references that are read off the fields. -/
theorem danglingReferences_eq (f : Flow) : f.danglingReferences = f.unresolved := by
  have htargets (s : Step) :
      (s.conditions.map Conditions.targets).getD [] =
      s.conditions.toList.flatMap Conditions.targets := by
    cases s.conditions <;> simp
  have hsources (s : Step) :
      (s.inputs.map StepInputs.referencedIds).getD [] = s.inputs.toList.flatMap
        StepInputs.referencedIds := by
    cases s.inputs <;> simp
  have hstart : (f.defaultStart.map StepReference.start).toList =
      f.defaultStart.toList.map .start := by
    cases f.defaultStart <;> rfl
  unfold danglingReferences references stepReferences unresolved
  rw [hstart, List.filter_append, filter_references f (fun _ => rfl), List.filter_flatMap]
  congr 2
  funext s
  rw [List.filter_append, filter_references f (fun _ => rfl), filter_references f (fun _ => rfl),
    htargets, hsources, funext targets_eq, funext referencedIds_eq]

theorem repeated_eq (seen ids : List String) :
    repeated seen ids = (List.range ids.length).filterMap fun i =>
      ids[i]?.filter fun id => id ∈ seen ∨ id ∈ ids.take i := by
  induction ids generalizing seen with
  | nil => rfl
  | cons x ids ih =>
    have hrest (seen' : List String) (h : ∀ id, id ∈ seen' ↔ id = x ∨ id ∈ seen) :
        repeated seen' ids = (List.range ids.length).filterMap
          ((fun i => (x :: ids)[i]?.filter fun id => id ∈ seen ∨ id ∈ (x :: ids).take i) ∘
            Nat.succ) := by
      rw [ih]
      congr 1
      funext i
      simp only [Function.comp, Nat.succ_eq_add_one, List.getElem?_cons_succ,
        List.take_succ_cons, List.mem_cons, h]
      congr 1
      funext id
      simp only [or_assoc, or_left_comm]
    rw [List.length_cons, List.range_succ_eq_map, List.filterMap_cons, List.filterMap_map]
    by_cases hx : x ∈ seen
    · rw [← hrest seen (by simp [hx])]
      simp [repeated, Option.filter_some, hx]
    · rw [← hrest (x :: seen) (by simp)]
      simp [repeated, Option.filter_some, hx]

theorem repeated_eq_nil_iff {seen ids : List String} :
    repeated seen ids = [] ↔ ids.Nodup ∧ ∀ id ∈ ids, id ∉ seen := by
  induction ids generalizing seen with
  | nil => simp [repeated]
  | cons x ids ih =>
    by_cases hx : x ∈ seen
    · simp [repeated, hx]
    · rw [repeated, if_neg hx, ih, List.nodup_cons]
      constructor
      · rintro ⟨hdistinct, hunseen⟩
        refine ⟨⟨fun hmem => hunseen x hmem List.mem_cons_self, hdistinct⟩, ?_⟩
        exact List.forall_mem_cons.2 ⟨hx, fun id hid => fun hseen =>
          hunseen id hid (List.mem_cons_of_mem _ hseen)⟩
      · rintro ⟨⟨hfirst, hdistinct⟩, hunseen⟩
        refine ⟨hdistinct, fun id hid hseen => ?_⟩
        rcases List.mem_cons.1 hseen with rfl | hseen
        · exact hfirst hid
        · exact hunseen id (List.mem_cons_of_mem _ hid) hseen

theorem undeclared_eq_nil_iff {ids : List String} : f.undeclared ids = [] ↔
    ∀ t ∈ ids, t ∈ f.stepIds := by
  simp [undeclared, List.filter_eq_nil_iff]

/-- Nothing is unresolved just if every reference names a declared id. -/
theorem wellReferenced_iff :
    f.WellReferenced ↔ f.steps ≠ [] ∧ f.stepIds.Nodup ∧ f.unresolved = [] := by
  unfold unresolved
  simp only [List.append_eq_nil_iff, List.map_eq_nil_iff, List.flatMap_eq_nil_iff,
    undeclared_eq_nil_iff]
  constructor
  · intro h
    refine ⟨h.steps, h.distinct, fun t ht => h.start t (Option.mem_toList.1 ht),
      fun s hs => ⟨?_, ?_⟩⟩
    · intro t ht
      obtain ⟨c, hc, ht⟩ := List.mem_flatMap.1 ht
      obtain ⟨ht, hend⟩ := List.mem_filter.1 ht
      obtain ⟨_, hmem, rfl⟩ := List.mem_filterMap.1 ht
      exact h.conditions s hs c (Option.mem_toList.1 hc) t hmem (by simpa using hend)
    · intro t ht
      obtain ⟨i, hi, ht⟩ := List.mem_flatMap.1 ht
      have hi := Option.mem_toList.1 hi
      rcases List.mem_append.1 ht with ht | ht
      · obtain ⟨ht, hgiven⟩ := List.mem_filter.1 ht
        exact h.fromStep s hs i hi t (Option.mem_toList.1 ht) (by simpa using hgiven)
      · cases hids : i.fromContext with
        | none => simp [hids] at ht
        | some ids => exact h.fromContext s hs i hi ids hids t (by simpa [hids] using ht)
  · rintro ⟨hsteps, hdistinct, hstart, hrest⟩
    have hsources (s : Step) (hs : s ∈ f.steps) (i : StepInputs)
        (hi : s.inputs = some i) (t : String)
        (ht : t ∈ i.fromStep.toList.filter (· ≠ "") ++ i.fromContext.getD []) : t ∈ f.stepIds :=
      (hrest s hs).2 t (List.mem_flatMap.2 ⟨i, Option.mem_toList.2 hi, ht⟩)
    exact {
      steps := hsteps
      distinct := hdistinct
      start := fun t ht => hstart t (Option.mem_toList.2 ht)
      conditions := by
        intro s hs c hc t hmem hend
        refine (hrest s hs).1 t (List.mem_flatMap.2 ⟨c, Option.mem_toList.2 hc, ?_⟩)
        exact List.mem_filter.2 ⟨List.mem_filterMap.2 ⟨_, hmem, rfl⟩, by simpa using hend⟩
      fromStep := by
        intro s hs i hi t ht hgiven
        refine hsources s hs i hi t (List.mem_append_left _ ?_)
        exact List.mem_filter.2 ⟨Option.mem_toList.2 ht, by simpa using hgiven⟩
      fromContext := by
        intro s hs i hi ids hids t ht
        exact hsources s hs i hi t (List.mem_append_right _ (by simpa [hids] using ht)) }

/-- What is said of a flow that is refused: the first of the three things that is wrong with it, and
all that is wrong in this respect. -/
inductive Refused (f : Flow) : String → List (String × Value) → Prop
  | noSteps : f.steps = [] → Refused f ("Flow " ++ Fault.named f.id ++
    " has no steps") [("flow_id", .text f.id)]
  | duplicates : f.steps ≠ [] → ¬f.stepIds.Nodup →
    Refused f ("Flow " ++ Fault.named f.id ++ " has duplicate step ids: " ++
      Text.Quoted.list (repetitions f.stepIds))
      [("flow_id", .text f.id), ("duplicates", .texts (repetitions f.stepIds))]
  | dangling {names : List String} : f.steps ≠ [] → f.stepIds.Nodup → f.unresolved ≠ [] →
    names.Pairwise (· < ·) → (∀ t, t ∈ names ↔ t ∈ f.unresolved.map StepReference.target) →
      Refused f ("Flow " ++ Fault.named f.id ++ " references unknown steps: " ++
        Text.Quoted.list names)
        [("flow_id", .text f.id), ("dangling", .list (f.unresolved.map StepReference.toValue))]

theorem sorted_eraseDups (names : List String) :
    (Text.sorted names.eraseDups).Pairwise (· < ·) ∧ ∀ t, t ∈ Text.sorted names.eraseDups ↔
    t ∈ names := by
  have hdistinct : (names.eraseDups.map fun t => t).Nodup := by
    rw [List.map_id']
    exact nodup_eraseDups names
  refine ⟨Text.pairwise_mergeSort hdistinct, fun t => ?_⟩
  unfold Text.sorted
  rw [List.mem_mergeSort, List.mem_eraseDups]

theorem repeated_nil_eq (ids : List String) : repeated [] ids = repetitions ids := by
  rw [repeated_eq]
  simp [repetitions]

theorem repetitions_eq_nil_iff {ids : List String} : repetitions ids = [] ↔ ids.Nodup := by
  rw [← repeated_nil_eq, repeated_eq_nil_iff]
  simp

theorem checkReferences_cases (f : Flow) :
    (f.WellReferenced ∧ f.checkReferences = .ok f) ∨
      ∃ fault, ¬f.WellReferenced ∧ f.checkReferences = .error fault ∧
        fault.kind? = some .flowValidation ∧ f.Refused fault.message fault.details := by
  unfold checkReferences
  rw [wellReferenced_iff, danglingReferences_eq, repeated_nil_eq]
  by_cases hsteps : f.steps = []
  · exact .inr ⟨.noSteps f.id, by simp [hsteps], by simp [hsteps], rfl, .noSteps hsteps⟩
  · rw [if_neg (by simpa using hsteps)]
    by_cases hrepeats : repetitions f.stepIds = []
    · have hdistinct := repetitions_eq_nil_iff.1 hrepeats
      rw [if_neg (by simp [hrepeats])]
      by_cases hopen : f.unresolved = []
      · exact .inl ⟨⟨hsteps, hdistinct, hopen⟩, by simp [hopen]⟩
      · obtain ⟨hsorted, hnames⟩ := sorted_eraseDups (f.unresolved.map StepReference.target)
        exact .inr ⟨.danglingSteps f.id f.unresolved, by simp [hopen], by simp [hopen], rfl,
          .dangling hsteps hdistinct hopen hsorted hnames⟩
    · have hdistinct : ¬f.stepIds.Nodup := mt repetitions_eq_nil_iff.2 hrepeats
      exact .inr ⟨.duplicateSteps f.id (repetitions f.stepIds), by simp [hdistinct], by
        simp [hrepeats], rfl, .duplicates hsteps hdistinct⟩

theorem wellReferenced_of_parse {data knownAs : Value} (h : Flow.parse data knownAs = .ok f) :
    f.WellReferenced := by
  obtain ⟨g, hchecked⟩ := checkReferences_of_parse h
  rcases checkReferences_cases g with ⟨hwell, hok⟩ | ⟨fault, -, herror, -⟩
  · cases hok.symm.trans hchecked
    exact hwell
  · cases herror.symm.trans hchecked

/-- A mapping whose fields are in order is accepted as the flow of these fields just if that is well
referenced, and then the index finds each step at its position. Otherwise it is refused for the
first thing that is wrong. -/
theorem parse_accepts {entries : Entries} {knownAs : Value} {g : Flow} (hfields :
    Flow.check (if knownAs.isNull then entries else Entries.insertNew entries
      (.text "id") knownAs) = .good g) :
    (∀ f, Flow.parse (.mapping entries) knownAs = .ok f ↔ f = g ∧ g.WellReferenced) ∧
      (¬g.WellReferenced → ∃ fault, Flow.parse (.mapping entries) knownAs = .error fault ∧
        fault.kind? = some .flowValidation ∧ g.Refused fault.message fault.details) ∧
      (g.WellReferenced → ∀ i (hi : i < g.steps.length), g.indexOf? g.steps[i].id = some i) := by
  have hparse : Flow.parse (.mapping entries) knownAs = g.checkReferences := by
    simp only [Flow.parse, hfields]
  rw [hparse]
  rcases checkReferences_cases g with ⟨hwell, hcheck⟩ | ⟨fault, hill, hcheck, hkind, hrefused⟩
  · rw [hcheck]
    refine ⟨fun f => ?_, fun hill => absurd hwell hill, fun _ i hi =>
      indexOf?_of_nodup hwell.distinct hi⟩
    simp [hwell, eq_comm]
  · rw [hcheck]
    refine ⟨fun f => ?_, fun _ => ⟨fault, rfl, hkind, hrefused⟩, fun hwell => absurd hwell hill⟩
    simp [hill]

/-- The data of a flow that starts at the name of the end, and goes on to a step that is not
declared. -/
def strayData : Entries := [
  (.text "id", .text "stray"),
  (.text "default_start_step", .text "end"),
  (.text "steps", .list [
    .record [("id", .text "a"), ("action", .text "synthesize"),
      ("conditions", .record [("on_success", .text "end"), ("on_failure", .text "b")]),
      ("inputs", .record [("from_step", .text ""), ("from_context", .list [.text "a"])])]])]

def stray : Flow where
  id := "stray"
  steps := [
    { id := "a", action := .synthesize,
      conditions := some { onSuccess := some "end", onFailure := some "b" },
      inputs := some { fromStep := some "", fromContext := some ["a"] } }]
  defaultStart := some "end"

theorem stray_is_refused :
    Flow.check strayData = .good stray ∧ stray.unresolved = [.start "end", .condition "a" "b"] ∧
      ∃ fault, Flow.parse (.mapping strayData) .null = .error fault ∧
        fault.kind? = some .flowValidation ∧ stray.Refused fault.message fault.details := by
  have hill : ¬stray.WellReferenced := fun h => absurd (h.start "end" rfl) (by decide)
  exact ⟨rfl, rfl, (@parse_accepts strayData .null stray rfl).2.1 hill⟩

end Flow
end StepFlow
