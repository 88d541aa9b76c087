import StepFlow.Proofs.Flow.Acceptance
import StepFlow.Proofs.Source.Directory
import StepFlow.Proofs.Yaml.Faults

/-!
# What the loading of a directory reports

A directory that gives no catalog is reported as a configuration or as a flow that is not valid,
unless one of its files lets a failure of the reading itself through. Which ones these are is said
file by file: a file that is no text, a number that is too long, data nested too deep or a value
that cannot be made, and an id that has no text when its definition is to be refused. None of these
failures is of a reported kind.
-/
namespace StepFlow

theorem Value.toText_eq_error {v : Value} {fault : Fault} (h : v.toText = .error fault) :
    fault.kind? = none := by
  unfold Value.toText at h
  cases hdisplay : v.display with
  | ok s =>
    rw [hdisplay] at h
    cases h
  | error defect =>
    rw [hdisplay] at h
    cases h
    rfl

namespace Flow

/-- Data that are to be refused under an id whose text fails. -/
inductive Unnamed : Value → Value → Fault → Prop
  | notMapping {data knownAs : Value} {fault : Fault} :
    (∀ entries, data ≠ .mapping entries) → knownAs.toText = .error fault →
    Unnamed data knownAs fault
  | fields {entries es : Entries} {knownAs : Value} {issues : List Schema.Issue} {fault : Fault} :
    es = (if knownAs.isNull then entries else Entries.insertNew entries (.text "id") knownAs) →
      Flow.check es = .bad issues → ((es.getText? "id").getD knownAs).toText = .error fault →
        Unnamed (.mapping entries) knownAs fault

variable {data knownAs : Value} {fault : Fault}

/-- A refusal is one of a flow that is not valid, unless the id in it has no text. -/
theorem parse_eq_error (h : parse data knownAs = .error fault) :
    fault.kind? = some .flowValidation ∨ Unnamed data knownAs fault := by
  unfold parse at h
  split at h
  · next entries =>
    dsimp only at h
    split at h
    · next f hfields =>
      rcases checkReferences_cases f with ⟨-, hok⟩ | ⟨fault', -, hrefused, hkind, -⟩
      · cases hok.symm.trans h
      · cases hrefused.symm.trans h
        exact .inl hkind
    · next issues hfields =>
      rcases bind_eq_error.1 h with htext | ⟨text, -, hthrow⟩
      · exact .inr (.fields rfl hfields htext)
      · cases hthrow
        exact .inl rfl
  · next hother =>
    rcases bind_eq_error.1 h with htext | ⟨text, -, hthrow⟩
    · exact .inr (.notMapping hother htext)
    · cases hthrow
      exact .inl rfl

theorem Unnamed.parse_eq (h : Unnamed data knownAs fault) : parse data knownAs = .error fault := by
  cases h with
  | notMapping hother htext =>
    unfold parse
    split
    · next entries => exact absurd rfl (hother entries)
    · exact bind_eq_error.2 (.inl htext)
  | fields hes hfields htext =>
    subst hes
    simp only [parse, hfields]
    exact bind_eq_error.2 (.inl htext)

theorem Unnamed.kind?_eq_none (h : Unnamed data knownAs fault) : fault.kind? = none := by
  cases h with
  | notMapping _ htext => exact Value.toText_eq_error htext
  | fields _ _ htext => exact Value.toText_eq_error htext

end Flow

namespace FlowFile

inductive Escapes (file : FlowFile) : Fault → Prop
  | notUtf8 : Text.ofUtf8? file.bytes = none → Escapes file .fileNotUtf8
  | longNumber {text : String} {digits : Nat} : Text.ofUtf8? file.bytes = some text →
    file.format = .json →
    Json.parse (String.ofList (Text.unifyNewlines text.toList)) = .error (.tooLong digits) →
      Escapes file (.intTooLong digits)
  | deepJson {text : String} {isArray : Bool} : Text.ofUtf8? file.bytes = some text →
    file.format = .json →
    Json.parse (String.ofList (Text.unifyNewlines text.toList)) = .error (.tooDeep isArray) →
      Escapes file (.nestedTooDeep (some (if isArray then "array" else "object")))
  | yaml {text : String} {fault : Fault} : Text.ofUtf8? file.bytes = some text →
    file.format = .yaml →
    Yaml.read (Text.unifyNewlines text.toList) = .error (.fault fault) → Escapes file fault
  | definition {document key data : Value} {before after : List (Value × Value)} {fault : Fault} :
    file.document = .ok document → Holds file.stem document (before ++ (key, data) :: after) →
      (∀ e ∈ before, ∃ f, Flow.parse e.2 e.1 = .ok f) → Flow.Unnamed data key fault →
      Escapes file fault

variable {file : FlowFile} {fault : Fault}

/-- A file whose value is not read is one that is not well formed, or the failure comes from the
reading itself. -/
theorem document_eq_error (h : file.document = .error fault) :
    fault.kind? = some .flowValidation ∨ file.Escapes fault := by
  unfold document at h
  split at h
  · next hbytes =>
    cases h
    exact .inr (.notUtf8 hbytes)
  · next text hbytes =>
    dsimp only at h
    split at h
    · next hformat =>
      cases hread : Json.parse (String.ofList (Text.unifyNewlines text.toList)) with
      | ok v =>
        rw [hread] at h
        cases h
      | error issue =>
        rw [hread] at h
        cases h
        cases issue with
        | malformed => exact .inl rfl
        | tooLong digits => exact .inr (.longNumber hbytes hformat hread)
        | tooDeep isArray => exact .inr (.deepJson hbytes hformat hread)
    · next hformat =>
      cases hread : Yaml.read (Text.unifyNewlines text.toList) with
      | ok v =>
        rw [hread] at h
        cases h
      | error issue =>
        rw [hread] at h
        cases h
        cases issue with
        | malformed => exact .inl rfl
        | fault fault => exact .inr (.yaml hbytes hformat hread)

theorem flows_eq_error (h : file.flows = .error fault) :
    fault.kind? = some .flowValidation ∨ file.Escapes fault := by
  cases hdocument : file.document with
  | error fault' =>
    rw [flows, hdocument] at h
    cases h
    exact document_eq_error hdocument
  | ok document =>
    rcases holds_or_refused hdocument with ⟨definitions, hholds⟩ | hrefused | hrefused
    · rw [flows_of_holds hdocument hholds] at h
      obtain ⟨before, ⟨key, data⟩, after, rfl, hbefore, hparse⟩ := mapM_eq_error.1 h
      rcases Flow.parse_eq_error hparse with hkind | hunnamed
      · exact .inl hkind
      · exact .inr (.definition hdocument hholds hbefore hunnamed)
    · cases hrefused.symm.trans h
      exact .inl rfl
    · cases hrefused.symm.trans h
      exact .inl rfl

theorem Escapes.flows_eq (h : file.Escapes fault) : file.flows = .error fault := by
  have hread (hdocument : file.document = .error fault) : file.flows = .error fault := by
    rw [flows, hdocument]
    rfl
  cases h with
  | notUtf8 hbytes =>
    apply hread
    rw [document, hbytes]
  | longNumber hbytes hformat hjson =>
    apply hread
    rw [document, hbytes]
    dsimp only
    rw [hformat, hjson]
    rfl
  | deepJson hbytes hformat hjson =>
    apply hread
    rw [document, hbytes]
    dsimp only
    rw [hformat, hjson]
    rfl
  | yaml hbytes hformat hyaml =>
    apply hread
    rw [document, hbytes]
    dsimp only
    rw [hformat, hyaml]
    rfl
  | definition hdocument hholds hbefore hunnamed =>
    rw [flows_of_holds hdocument hholds]
    exact mapM_eq_error.2 ⟨_, _, _, rfl, hbefore, hunnamed.parse_eq⟩

theorem Escapes.kind?_eq_none (h : file.Escapes fault) : fault.kind? = none := by
  cases h with
  | notUtf8 => rfl
  | longNumber => rfl
  | deepJson => rfl
  | yaml _ _ hyaml => exact Yaml.kind?_of_read hyaml
  | definition _ _ _ hunnamed => exact hunnamed.kind?_eq_none

end FlowFile

namespace Directory
variable {d : Directory} {file : FlowFile} {fault : Fault} {c c' : Catalog}

/-- A failure of the first file that is not read. The files in front of it give flows, no two of
which have the same id. -/
def LetsThrough (d : Directory) (fault : Fault) : Prop :=
  ∃ items before file after, d.items = some items ∧ d.flowFiles items = before ++ file :: after ∧
    (∃ flowsOf : FlowFile → List Flow, (∀ f ∈ before, f.Yields (flowsOf f)) ∧
      ((before.flatMap flowsOf).map Flow.id).Nodup) ∧
    file.Escapes fault

theorem foldlM_addFlow_eq_error {fs : List Flow} (h : fs.foldlM (addFlow file) c = .error fault) :
    fault.kind? = some .flowValidation := by
  obtain ⟨-, f, -, c', -, -, hadd⟩ := foldlM_eq_error.1 h
  unfold addFlow at hadd
  split at hadd <;> cases hadd
  rfl

/-- The files that are read give a catalog just if no two of their flows have the same id. -/
theorem foldlM_addFile_nil {files : List FlowFile} :
    (∃ c, files.foldlM addFile [] = .ok c) ↔ ∃ flowsOf : FlowFile → List Flow,
      (∀ f ∈ files, f.Yields (flowsOf f)) ∧ ((files.flatMap flowsOf).map Flow.id).Nodup := by
  have hnil : (Catalog.ids []).Nodup := List.nodup_nil
  constructor
  · rintro ⟨c, hc⟩
    obtain ⟨hread, hdistinct, -⟩ := (foldlM_addFile_eq_ok hnil).1 hc
    exact ⟨FlowFile.yield, fun f hf => FlowFile.flows_eq_ok.1 (hread f hf), hdistinct⟩
  · rintro ⟨flowsOf, hyields, hdistinct⟩
    have hsame : files.flatMap FlowFile.yield = files.flatMap flowsOf := by
      rw [List.flatMap_def, List.flatMap_def]
      exact congrArg List.flatten (List.map_congr_left fun f hf => (hyields f hf).yield_eq)
    refine ⟨_, (foldlM_addFile_eq_ok hnil).2 ⟨fun f hf => ?_, ?_, rfl⟩⟩
    · rw [(hyields f hf).yield_eq]
      exact FlowFile.flows_eq_ok.2 (hyields f hf)
    · rw [hsame]
      exact hdistinct

theorem LetsThrough.load_eq (h : d.LetsThrough fault) : d.load = .error fault := by
  obtain ⟨items, before, file, after, hitems, hfiles, hbefore, hescape⟩ := h
  obtain ⟨c, hc⟩ := foldlM_addFile_nil.2 hbefore
  unfold load
  rw [hitems]
  refine foldlM_eq_error.2 ⟨before, file, after, c, hfiles, hc, ?_⟩
  exact bind_eq_error.2 (.inl hescape.flows_eq)

/-- A directory that gives no catalog is missing, or a flow in it is not valid, or it lets a failure
through. -/
theorem load_eq_error (h : d.load = .error fault) :
    (fault.kind? = some .configuration ∧ d.items = none) ∨ fault.kind? = some .flowValidation ∨
      d.LetsThrough fault := by
  unfold load at h
  split at h
  · next hitems =>
    cases h
    exact .inl ⟨rfl, hitems⟩
  · next items hitems =>
    obtain ⟨before, file, after, c, hfiles, hc, hadd⟩ := foldlM_eq_error.1 h
    rcases bind_eq_error.1 hadd with hflows | ⟨fs, -, hfold⟩
    · rcases FlowFile.flows_eq_error hflows with hkind | hescape
      · exact .inr (.inl hkind)
      · exact .inr (.inr ⟨items, before, file, after, hitems, hfiles,
          foldlM_addFile_nil.1 ⟨c, hc⟩, hescape⟩)
    · exact .inr (.inl (foldlM_addFlow_eq_error hfold))

theorem LetsThrough.kind?_eq_none (h : d.LetsThrough fault) : fault.kind? = none := by
  obtain ⟨items, before, file, after, -, -, -, hescape⟩ := h
  exact hescape.kind?_eq_none

/-- A directory that gives no catalog is missing, or one of its flows is not valid, or the failure
is not reported at all; the failures that are not reported are those that a file lets through. -/
theorem load_reports (d : Directory) (fault : Fault) :
    (d.load = .error fault → (fault.kind? = some .configuration ∧ d.items = none) ∨
      fault.kind? = some .flowValidation ∨ fault.kind? = none) ∧
    (d.load = .error fault ∧ fault.kind? = none ↔ d.LetsThrough fault) := by
  refine ⟨fun h => ?_, fun ⟨h, hkind⟩ => ?_, fun h => ⟨h.load_eq, h.kind?_eq_none⟩⟩
  · exact (load_eq_error h).imp_right (Or.imp_right LetsThrough.kind?_eq_none)
  · rcases load_eq_error h with ⟨hreported, -⟩ | hreported | hthrough
    · cases hkind.symm.trans hreported
    · cases hkind.symm.trans hreported
    · exact hthrough

/-- Not every failure is reported: that of a file with a byte that begins no character is let
through. -/
theorem not_every_failure_is_reported :
    ¬∀ (d : Directory) (fault : Fault), d.load = .error fault →
      fault.kind? = some .configuration ∨ fault.kind? = some .flowValidation := by
  intro h
  let file : FlowFile := { name := "f.yaml", path := "flows/f.yaml", format := .yaml,
                           bytes := [0xFF] }
  have hfile : flowFile? ⟨"flows", none⟩ ("f.yaml", .file [0xFF]) = some file := by
    have hname : FileFormat.ofName? "f.yaml" = some .yaml := by decide +kernel
    rw [flowFile?, hname]
    rfl
  have hfiles : flowFiles ⟨"flows", none⟩ [("f.yaml", .file [0xFF])] = [file] := by
    rw [flowFiles, List.mergeSort_singleton, List.filterMap_cons_some hfile, List.filterMap_nil]
  have hthrough : LetsThrough ⟨"flows", some [("f.yaml", .file [0xFF])]⟩ .fileNotUtf8 :=
    ⟨_, [], file, [], rfl, hfiles, ⟨fun _ => [], nofun, List.nodup_nil⟩, .notUtf8 (by decide)⟩
  rcases h _ _ hthrough.load_eq with hkind | hkind <;> cases hkind

end Directory
end StepFlow
