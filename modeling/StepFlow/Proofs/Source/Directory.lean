import StepFlow.Proofs.Source.Catalog
import StepFlow.Proofs.Source.File
import StepFlow.Proofs.Text.Order
import StepFlow.Source.Directory

/-!
# Directories of flow files

A directory gives the flows of all its flow files, in the order of the names of the files and in
each file in that of the document, or it gives none.
-/
namespace StepFlow

def FlowFile.yield (file : FlowFile) : List Flow := file.flows.toOption.getD []

theorem FlowFile.Yields.yield_eq {file : FlowFile} {fs : List Flow} (h : file.Yields fs) :
    file.yield = fs := by
  unfold yield
  rw [flows_eq_ok.2 h]
  rfl

namespace Directory
variable {d : Directory} {path : String} {items : List (String × DirectoryItem)} {file : FlowFile}
  {c c' : Catalog} {f : Flow} {fs : List Flow} {files : List FlowFile}

theorem addFlow_eq_ok : addFlow file c f = .ok c' ↔ f.id ∉ c.ids ∧ c' = c ++ [(f.id, f)] := by
  unfold addFlow
  by_cases hthere : f.id ∈ c.ids
  · rw [if_pos (Catalog.isSome_get?.2 hthere)]
    simp [hthere]
  · rw [if_neg (fun h => hthere (Catalog.isSome_get?.1 h)), Catalog.insert_of_not_mem hthere]
    simp [hthere, eq_comm]

theorem foldlM_addFlow_eq_ok (hc : c.ids.Nodup) :
    fs.foldlM (addFlow file) c = .ok c' ↔ (c.ids ++ fs.map Flow.id).Nodup ∧
      c' = c ++ Catalog.ofFlows fs := by
  induction fs generalizing c with
  | nil => simp [pure, Except.pure, Catalog.ofFlows, hc, eq_comm]
  | cons f fs ih =>
    have hids : Catalog.ids (c ++ [(f.id, f)]) = c.ids ++ [f.id] := List.map_append
    have hwhole : (c.ids ++ [f.id]) ++ fs.map Flow.id = c.ids ++ (f :: fs).map Flow.id := by simp
    rw [List.foldlM_cons, bind_eq_ok]
    constructor
    · rintro ⟨c₁, hadd, hrest⟩
      obtain ⟨hnew, rfl⟩ := addFlow_eq_ok.1 hadd
      have hc₁ : (c.ids ++ [f.id]).Nodup := nodup_concat hc hnew
      obtain ⟨hdistinct, rfl⟩ := (ih (hids ▸ hc₁)).1 hrest
      rw [hids, hwhole] at hdistinct
      exact ⟨hdistinct, by simp [Catalog.ofFlows]⟩
    · rintro ⟨hdistinct, rfl⟩
      rw [← hwhole] at hdistinct
      have hc₁ : (c.ids ++ [f.id]).Nodup := (List.nodup_append.1 hdistinct).1
      have hnew : f.id ∉ c.ids := fun hmem => (List.nodup_append.1 hc₁).2.2 _ hmem
        _ (List.mem_singleton.2 rfl) rfl
      refine ⟨c ++ [(f.id, f)], addFlow_eq_ok.2 ⟨hnew, rfl⟩,
        (ih (hids ▸ hc₁)).2 ⟨hids ▸ hdistinct, ?_⟩⟩
      simp [Catalog.ofFlows]

theorem foldlM_addFile_eq_ok (hc : c.ids.Nodup) :
    files.foldlM addFile c = .ok c' ↔ (∀ file ∈ files, file.flows = .ok file.yield) ∧
      (c.ids ++ (files.flatMap FlowFile.yield).map Flow.id).Nodup ∧
      c' = c ++ Catalog.ofFlows (files.flatMap FlowFile.yield) := by
  induction files generalizing c with
  | nil => simp [pure, Except.pure, Catalog.ofFlows, hc, eq_comm]
  | cons file files ih =>
    have hids : Catalog.ids (c ++ Catalog.ofFlows file.yield) = c.ids ++
        file.yield.map Flow.id := by
      rw [← Catalog.ids_ofFlows]
      exact List.map_append
    have hwhole : (c.ids ++ file.yield.map Flow.id) ++ (files.flatMap FlowFile.yield).map Flow.id =
        c.ids ++ ((file :: files).flatMap FlowFile.yield).map Flow.id := by
      simp
    have hadded : c ++ Catalog.ofFlows file.yield ++
        Catalog.ofFlows (files.flatMap FlowFile.yield) =
        c ++ Catalog.ofFlows ((file :: files).flatMap FlowFile.yield) := by
      simp [Catalog.ofFlows]
    rw [List.foldlM_cons, bind_eq_ok, List.forall_mem_cons]
    constructor
    · rintro ⟨c₁, hadd, hrest⟩
      obtain ⟨fs, hread, hflows⟩ := bind_eq_ok.1 hadd
      obtain rfl : file.yield = fs := (FlowFile.flows_eq_ok.1 hread).yield_eq
      obtain ⟨hc₁, rfl⟩ := (foldlM_addFlow_eq_ok hc).1 hflows
      obtain ⟨hothers, hdistinct, rfl⟩ := (ih (hids ▸ hc₁)).1 hrest
      rw [hids, hwhole] at hdistinct
      exact ⟨⟨hread, hothers⟩, hdistinct, hadded⟩
    · rintro ⟨⟨hread, hothers⟩, hdistinct, rfl⟩
      rw [← hwhole] at hdistinct
      have hc₁ : (c.ids ++ file.yield.map Flow.id).Nodup := (List.nodup_append.1 hdistinct).1
      refine ⟨_, bind_eq_ok.2 ⟨_, hread, (foldlM_addFlow_eq_ok hc).2 ⟨hc₁, rfl⟩⟩, ?_⟩
      exact (ih (hids ▸ hc₁)).2 ⟨hothers, hids ▸ hdistinct, hadded.symm⟩

theorem load_eq_ok :
    load ⟨path, some items⟩ = .ok c ↔
      (∀ file ∈ flowFiles ⟨path, some items⟩ items, file.flows = .ok file.yield) ∧
      (((flowFiles ⟨path, some items⟩ items).flatMap FlowFile.yield).map Flow.id).Nodup ∧
      c = Catalog.ofFlows ((flowFiles ⟨path, some items⟩ items).flatMap FlowFile.yield) :=
  foldlM_addFile_eq_ok List.nodup_nil

theorem keyed_load (h : d.load = .ok c) : c.Keyed := by
  obtain ⟨path, items⟩ := d
  cases items with
  | none => cases h
  | some items =>
    obtain ⟨-, hdistinct, rfl⟩ := load_eq_ok.1 h
    exact Catalog.keyed_ofFlows hdistinct

def Offers (path : String) (items : List (String × DirectoryItem)) (file : FlowFile) : Prop :=
  (file.name, .file file.bytes) ∈ items ∧ file.format.Names file.name ∧
    file.path = path ++ "/" ++ file.name

theorem flowFile?_eq_some {item : String × DirectoryItem} :
    d.flowFile? item = some file ↔
      item = (file.name, .file file.bytes) ∧ file.format.Names file.name ∧
      file.path = d.path ++ "/" ++ file.name := by
  obtain ⟨name, kind⟩ := item
  obtain ⟨fileName, filePath, format, content⟩ := file
  dsimp only
  rw [← FileFormat.names_iff]
  constructor
  · intro h
    unfold flowFile? at h
    split at h
    · next bytes readAs hkind hname =>
      cases h
      cases hkind
      exact ⟨rfl, hname, rfl⟩
    · cases h
  · rintro ⟨hitem, hname, rfl⟩
    cases hitem
    unfold flowFile?
    rw [hname]

theorem mem_flowFiles : file ∈ flowFiles ⟨path, some items⟩ items ↔ Offers path items file := by
  unfold flowFiles
  rw [List.mem_filterMap]
  constructor
  · rintro ⟨item, hitem, hfile⟩
    obtain ⟨rfl, hname, hpath⟩ := flowFile?_eq_some.1 hfile
    exact ⟨List.mem_mergeSort.1 hitem, hname, hpath⟩
  · rintro ⟨hitem, hname, hpath⟩
    exact ⟨_, List.mem_mergeSort.2 hitem, flowFile?_eq_some.2 ⟨rfl, hname, hpath⟩⟩

theorem pairwise_flowFiles (hnames : (items.map Prod.fst).Nodup) :
    (d.flowFiles items).Pairwise fun a b => a.name < b.name := by
  refine (Text.pairwise_mergeSort hnames).filterMap d.flowFile? ?_
  intro item other hlt a ha b hb
  obtain ⟨rfl, -⟩ := flowFile?_eq_some.1 ha
  obtain ⟨rfl, -⟩ := flowFile?_eq_some.1 hb
  exact hlt

/-- The order in which a directory lists what is in it makes no difference. The files stand in the
order of their names, and a catalog comes of them just if each of them gives flows and no two of all
these have the same id. It holds these flows. -/
theorem load_whatever_order (hnames : (items.map Prod.fst).Nodup) :
    (∀ listed, items.Perm listed → load ⟨path, some listed⟩ = load ⟨path, some items⟩) ∧
    ∃ files : List FlowFile, files.Pairwise (fun a b => a.name < b.name) ∧
      (∀ file, file ∈ files ↔ Offers path items file) ∧
      ∀ c, load ⟨path, some items⟩ = .ok c ↔ ∃ flowsOf : FlowFile → List Flow,
        (∀ file ∈ files, file.Yields (flowsOf file)) ∧ ((files.flatMap flowsOf).map Flow.id).Nodup ∧
        c = Catalog.ofFlows (files.flatMap flowsOf) := by
  constructor
  · intro listed hperm
    have hsorted : flowFiles ⟨path, some listed⟩ listed = flowFiles ⟨path, some items⟩ items :=
      congrArg (List.filterMap _) (Text.mergeSort_eq_of_perm hnames hperm).symm
    exact congrArg (List.foldlM addFile []) hsorted
  · refine ⟨flowFiles ⟨path, some items⟩ items, pairwise_flowFiles hnames,
      fun file => mem_flowFiles, ?_⟩
    intro c
    rw [load_eq_ok]
    constructor
    · rintro ⟨hread, hdistinct, hc⟩
      exact ⟨FlowFile.yield, fun file hfile => FlowFile.flows_eq_ok.1 (hread file hfile),
        hdistinct, hc⟩
    · rintro ⟨flowsOf, hyields, hdistinct, rfl⟩
      have hsame : (flowFiles ⟨path, some items⟩ items).flatMap FlowFile.yield =
          (flowFiles ⟨path, some items⟩ items).flatMap flowsOf := by
        rw [List.flatMap_def, List.flatMap_def]
        exact congrArg List.flatten (List.map_congr_left fun file hfile =>
          (hyields file hfile).yield_eq)
      rw [hsame]
      refine ⟨fun file hfile => ?_, hdistinct, rfl⟩
      rw [(hyields file hfile).yield_eq]
      exact FlowFile.flows_eq_ok.2 (hyields file hfile)

def twoFiles : List (String × DirectoryItem) :=
  [("a.yml", .file ("flows:\n- id: x\n  steps:\n  - id: s\n    action: search").toUTF8.toList),
    ("b.json",
      .file ("\x7b\"steps\": [\x7b\"id\": \"s\", \"action\": \"search\"\x7d]\x7d").toUTF8.toList)]

theorem two_files_load_alike :
    (twoFiles.map Prod.fst).Nodup ∧
    load ⟨"flows", some twoFiles.reverse⟩ = load ⟨"flows", some twoFiles⟩ ∧
    (load ⟨"flows", some twoFiles⟩).toOption.map Catalog.ids = some ["x", "b"] := by
  have hnames : (twoFiles.map Prod.fst).Nodup := by decide
  have hsorted : (twoFiles.mergeSort fun a b => !decide (b.1 < a.1)) = twoFiles :=
    List.mergeSort_of_pairwise (by decide)
  refine ⟨hnames, (load_whatever_order hnames).1 _ (List.reverse_perm _).symm, ?_⟩
  unfold load flowFiles
  dsimp only
  rw [hsorted]
  decide +kernel

end Directory
end StepFlow
