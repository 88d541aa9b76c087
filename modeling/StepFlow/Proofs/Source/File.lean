import StepFlow.Proofs.Fault.Sequence
import StepFlow.Source.File

/-!
# Flow files

Which names are those of flow files, and which definitions a flow file holds: none, the ones that it
collects, or the one that it is.
-/
namespace StepFlow

def FileFormat.endings : FileFormat → List String
  | .yaml => ["yaml", "yml"]
  | .json => ["json"]

/-- Something, a point, and an ending of the format in letters of any case. -/
def FileFormat.Names (format : FileFormat) (name : String) : Prop :=
  ∃ stem ending, name = stem ++ "." ++ ending ∧ stem ≠ "" ∧ ending.map Char.toLower ∈ format.endings

theorem splitFileName_of_point {stem ending : List Char} (hstem : stem ≠ []) (hending : ending ≠ [])
    (hpoint : '.' ∉ ending) :
    splitFileName (String.ofList (stem ++ '.' :: ending)) = (String.ofList stem,
      String.ofList ending) := by
  have htail : ((stem ++ '.' :: ending).reverse.takeWhile (· != '.')).reverse = ending := by
    have hall : ∀ c ∈ ending.reverse, (c != '.') = true := by
      intro c hc
      rw [bne_iff_ne]
      rintro rfl
      exact hpoint (List.mem_reverse.1 hc)
    rw [List.reverse_append, List.reverse_cons, List.append_assoc,
      List.takeWhile_append_of_pos hall,
      List.singleton_append, List.takeWhile_cons_of_neg (by simp),
        List.append_nil, List.reverse_reverse]
  have hcut : (stem ++ '.' :: ending).length - ending.length - 1 = stem.length := by
    rw [List.length_append, List.length_cons]
    omega
  unfold splitFileName
  rw [String.toList_ofList]
  dsimp only
  rw [htail, hcut, List.take_left]
  simp [hstem, hending]

/-- A name that has an ending has something in front of its last point. -/
theorem splitFileName_eq {name stem ending : String} (h : splitFileName name = (stem, ending))
    (hending : ending ≠ "") :
    name = stem ++ "." ++ ending ∧ stem ≠ "" := by
  unfold splitFileName at h
  dsimp only at h
  generalize hcs : name.toList = cs at h
  split at h
  · obtain ⟨-, hnone⟩ := Prod.mk.inj h
    exact absurd hnone.symm hending
  · next hsplit =>
    rw [not_or, List.isEmpty_iff, List.isEmpty_iff] at hsplit
    obtain ⟨hstem, htail⟩ := Prod.mk.inj h
    subst hstem htail
    -- Behind the characters up to the last point, read from the end, comes that point.
    have hsides := List.takeWhile_append_dropWhile (p := (· != '.')) (l := cs.reverse)
    have hpoint := List.head?_dropWhile_not (· != '.') cs.reverse
    generalize cs.reverse.takeWhile (· != '.') = after at *
    cases hbefore : cs.reverse.dropWhile (· != '.') with
    | nil =>
      rw [hbefore, List.append_nil] at hsides
      have hlength := congrArg List.length hsides
      rw [List.length_reverse] at hlength
      refine absurd ?_ hsplit.2
      rw [List.length_reverse, hlength, Nat.sub_self, Nat.zero_sub, List.take_zero]
    | cons c before =>
      rw [hbefore] at hsides hpoint
      obtain rfl : c = '.' := by simpa using hpoint
      have hwhole : cs = before.reverse ++ '.' :: after.reverse := by
        rw [← List.reverse_reverse cs, ← hsides]
        simp
      have hcut : cs.length - after.reverse.length - 1 = before.reverse.length := by
        rw [hwhole, List.length_append, List.length_cons]
        omega
      rw [hcut] at hsplit ⊢
      rw [hwhole, List.take_left] at hsplit ⊢
      refine ⟨?_, fun hempty => hsplit.2 (by simpa using congrArg String.toList hempty)⟩
      apply String.toList_inj.1
      rw [hcs, hwhole]
      simp

theorem FileFormat.map_toLower_mem_endings {ending : String} {format : FileFormat}
    (h : ending.map Char.toLower ∈ format.endings) : ending.toList ≠ [] ∧ '.' ∉ ending.toList := by
  have hmapped : (ending.map Char.toLower).toList = ending.toList.map Char.toLower :=
    String.toList_map
  have hplain : ∀ format : FileFormat, ∀ e ∈ format.endings, e.toList ≠ [] ∧ '.' ∉ e.toList := by
    intro format
    cases format <;> decide
  obtain ⟨hlong, hpoint⟩ := hplain format _ h
  rw [hmapped] at hlong hpoint
  refine ⟨fun hnil => hlong (by rw [hnil, List.map_nil]), fun hmem => hpoint ?_⟩
  exact List.mem_map.2 ⟨'.', hmem, rfl⟩

theorem FileFormat.names_iff {name : String} {format : FileFormat} :
    ofName? name = some format ↔ format.Names name := by
  constructor
  · intro h
    unfold ofName? at h
    cases hsplit : splitFileName name with
    | mk stem ending =>
      rw [hsplit] at h
      dsimp only at h
      have hlower : ending.map Char.toLower ∈ format.endings := by
        split at h
        · next hyaml =>
          cases h
          simpa [endings] using hyaml
        · split at h
          · next hjson =>
            cases h
            simpa [endings] using hjson
          · cases h
      have hending : ending ≠ "" := fun hempty =>
        (map_toLower_mem_endings hlower).1 (by rw [hempty]; rfl)
      obtain ⟨hname, hstem⟩ := splitFileName_eq hsplit hending
      exact ⟨stem, ending, hname, hstem, hlower⟩
  · rintro ⟨stem, ending, rfl, hstem, hlower⟩
    obtain ⟨hending, hpoint⟩ := map_toLower_mem_endings hlower
    have hsplit : splitFileName (stem ++ "." ++ ending) = (stem, ending) := by
      have hlong : stem.toList ≠ [] := by simpa using hstem
      have h := splitFileName_of_point hlong hending hpoint
      have hwhole : String.ofList (stem.toList ++ '.' :: ending.toList) =
          stem ++ "." ++ ending := by
        apply String.toList_inj.1
        simp
      rwa [hwhole, String.ofList_toList, String.ofList_toList] at h
    unfold ofName?
    rw [hsplit]
    cases format with
    | yaml => rw [if_pos (by simpa [endings] using hlower)]
    | json =>
      have hjson : ending.map Char.toLower = "json" := List.mem_singleton.1 hlower
      rw [hjson]
      rfl

namespace FlowFile

/-- The definitions that a document holds in order, each under what it is known by: no definition in
an empty document, those under `flows` unless there are steps beside them, or else the document
itself under the name of its file. -/
inductive Holds (stem : String) : Value → List (Value × Value) → Prop
  | empty : Holds stem .null []
  | keyed {es : Entries} {definitions : List (Value × Value)} :
    es.getText? "flows" = some (.mapping definitions) → es.getText? "steps" = none →
      Holds stem (.mapping es) definitions
  | listed {es : Entries} {definitions : List Value} :
    es.getText? "flows" = some (.list definitions) → es.getText? "steps" = none →
      Holds stem (.mapping es) (definitions.map fun data => (.null, data))
  | single {es : Entries} : es.getText? "flows" = none ∨ (es.getText? "steps").isSome →
    Holds stem (.mapping es) [(.text stem, .mapping es)]

/-- The file is read, and its definitions are those of flows, in order. -/
def Yields (file : FlowFile) (fs : List Flow) : Prop :=
  ∃ document definitions, file.document = .ok document ∧ Holds file.stem document definitions ∧
    definitions.map (fun (key, data) => Flow.parse data key) = fs.map .ok

/-- The definitions that a document holds are read one after the other. -/
theorem flows_of_holds {file : FlowFile} {document : Value} {definitions : List (Value × Value)}
    (hdocument : file.document = .ok document) (hholds : Holds file.stem document definitions) :
    file.flows = definitions.mapM fun (key, data) => Flow.parse data key := by
  unfold flows
  rw [hdocument]
  cases hholds with
  | empty => rfl
  | @keyed es _ hflows hsteps =>
    have hnone : Entries.hasText es "steps" = false := by rw [Entries.hasText, hsteps]; rfl
    dsimp only [bind, Except.bind]
    rw [hflows, hnone]
  | @listed es _ hflows hsteps =>
    have hnone : Entries.hasText es "steps" = false := by rw [Entries.hasText, hsteps]; rfl
    dsimp only [bind, Except.bind]
    rw [hflows, hnone, List.mapM_map]
    rfl
  | @single es hsingle =>
    have hno : ∀ v, Entries.getText? es "flows" = some v → Entries.hasText es "steps" = false →
        False := by
      intro v hflows hsteps
      rcases hsingle with hnone | hsome
      · rw [hnone] at hflows
        cases hflows
      · exact Bool.noConfusion (hsteps.symm.trans hsome)
    rw [List.mapM_cons, List.mapM_nil]
    dsimp only [bind, Except.bind]
    split
    · next hflows hsteps => exact (hno _ hflows hsteps).elim
    · next hflows hsteps => exact (hno _ hflows hsteps).elim
    · next hflows hsteps => exact (hno _ hflows hsteps).elim
    · rfl

theorem holds_or_refused {file : FlowFile} {document : Value}
    (hdocument : file.document = .ok document) :
    (∃ definitions, Holds file.stem document definitions) ∨
      file.flows = .error (.fileNotMapping file.name file.path) ∨
      file.flows = .error (.flowsNotCollection file.name file.path) := by
  unfold flows
  rw [hdocument]
  dsimp only [bind, Except.bind]
  split
  · exact .inl ⟨[], .empty⟩
  · next es =>
    split
    · next definitions hflows hsteps =>
        exact .inl ⟨definitions, .keyed hflows (by simpa [Entries.hasText] using hsteps)⟩
    · next definitions hflows hsteps =>
        exact .inl ⟨_, .listed hflows (by simpa [Entries.hasText] using hsteps)⟩
    · exact .inr (.inr rfl)
    · next _ _ hother =>
      refine .inl ⟨_, .single ?_⟩
      cases hflows : Entries.getText? es "flows" with
      | none => exact .inl rfl
      | some v =>
        cases hsteps : Entries.hasText es "steps" with
        | true => exact .inr hsteps
        | false => exact absurd hsteps (hother v hflows)
  · exact .inr (.inl rfl)

theorem flows_eq_ok {file : FlowFile} {fs : List Flow} : file.flows = .ok fs ↔ file.Yields fs := by
  constructor
  · intro h
    cases hdocument : file.document with
    | error fault =>
      rw [flows, hdocument] at h
      cases h
    | ok document =>
      rcases holds_or_refused hdocument with ⟨definitions, hholds⟩ | hrefused | hrefused
      · rw [flows_of_holds hdocument hholds] at h
        exact ⟨document, definitions, hdocument, hholds, mapM_eq_ok.1 h⟩
      · cases hrefused.symm.trans h
      · cases hrefused.symm.trans h
  · rintro ⟨document, definitions, hdocument, hholds, hparse⟩
    rw [flows_of_holds hdocument hholds]
    exact mapM_eq_ok.2 hparse

end FlowFile
end StepFlow
