import StepFlow.Output.Render
import StepFlow.Proofs.Fault.Sequence

/-!
# The lists in prose

In prose every search result has a block and every source a line, in order and numbered from 1 on.
What a block or a line says depends on its number and its item alone, so a longer list continues a
shorter one.
-/
namespace StepFlow.Output

/-- The texts of the items in order, numbered from the given number on. -/
def each (text : Nat → Value → String) (first : Nat) (xs : List Value) : String :=
  String.join (xs.mapIdx fun i x => text (first + i) x)

theorem each_append (text : Nat → Value → String) (first : Nat) (xs ys : List Value) :
    each text first (xs ++ ys) = each text first xs ++ each text (first + xs.length) ys := by
  simp [each, List.mapIdx_append, Nat.add_assoc, Nat.add_comm xs.length]

theorem each_cons (text : Nat → Value → String) (first : Nat) (x : Value) (xs : List Value) :
    each text first (x :: xs) = text first x ++ each text (first + 1) xs := by
  simp [each, List.mapIdx_cons, Nat.add_assoc, Nat.add_comm 1]

theorem numbered_eq_each {entry : Nat → Value → Except Fault String} {text : Nat → Value → String}
    {xs : List Value} (h : ∀ n, ∀ x ∈ xs, entry n x = .ok (text n x)) (first : Nat) :
    numbered entry first xs = .ok (each text first xs) := by
  induction xs generalizing first with
  | nil => rfl
  | cons x xs ih =>
    have hrest := ih (fun n y hy => h n y (List.mem_cons_of_mem x hy)) (first + 1)
    rw [each_cons]
    unfold numbered
    rw [h first x List.mem_cons_self, hrest]
    rfl

def IsRecord : Value → Prop
  | .mapping _ | .object .. => True
  | _ => False

def textIf? (v : Value) (name : String) : Option String :=
  match v.part name with
  | .value w => if w.isTruthy then w.toText.toOption else none
  | .method => none

def textOf (v : Value) (name : String) : String :=
  match v.part name with
  | .value w => w.toText.toOption.getD ""
  | .method => ""

def lineIf (before : String) (text : Option String) (after : String) : String :=
  match text with
  | some s => before ++ s ++ after
  | none => ""

/-- The block of a search result: its title or what stands for one, then what it has of a snippet
and an address. -/
def block (n : Nat) (item : Value) : String :=
  s!"## {n}. " ++ (textIf? item "title").getD "Untitled" ++ "\n" ++
    lineIf "" (textIf? item "snippet") "\n" ++ lineIf "[Source](" (textIf? item "url") ")\n" ++ "\n"

/-- The line of a source: the source itself where it is a text, or else a link to it. -/
def sourceEntry (n : Nat) : Value → String
  | .text s => s!"{n}. " ++ s ++ "\n"
  | source => s!"{n}. [" ++ textOf source "title" ++ "](" ++ textOf source "url" ++ ")\n"

def listing (items : List Value) : String := "# Search Results\n\n" ++ each block 1 items

/-- A record whose title, snippet and address have texts where they count as true. -/
structure Listed (item : Value) : Prop where
  isRecord : IsRecord item
  legible : ∀ name ∈ ["title", "snippet", "url"], ∀ w, item.part name = .value w →
    w.isTruthy = true → ∃ s, w.toText = .ok s

/-- A text, or a record whose title and address have texts. -/
inductive Cited : Value → Prop
  | text (s : String) : Cited (.text s)
  | record {source : Value} : IsRecord source →
    (∀ name ∈ ["title", "url"], ∀ w, source.part name = .value w → ∃ s, w.toText = .ok s) →
    Cited source

variable {v item source output : Value} {name : String} {items : List Value} {spec : OutputSpec}
  {includeSources : Bool}

theorem IsRecord.part (h : IsRecord v) (name : String) : ∃ w, v.part name = .value w := by
  cases v with
  | mapping entries => exact ⟨_, rfl⟩
  | object attributes shown => exact ⟨_, rfl⟩
  | _ => cases h

theorem Listed.text_cases (h : Listed item) (hname : name ∈ ["title", "snippet", "url"]) :
    truthyPart? item name = none ∧ textIf? item name = none ∨
      ∃ p s, truthyPart? item name = some p ∧ partText p = .ok s ∧ textIf? item name = some s := by
  obtain ⟨w, hw⟩ := h.isRecord.part name
  cases htruthy : w.isTruthy with
  | false => exact .inl ⟨by simp [truthyPart?, hw, htruthy], by simp [textIf?, hw, htruthy]⟩
  | true =>
    obtain ⟨s, hs⟩ := h.legible name hname w hw htruthy
    have htext : textIf? item name = some s := by simp [textIf?, hw, htruthy, hs, Except.toOption]
    exact .inr ⟨.value w, s, by simp [truthyPart?, hw, htruthy], hs, htext⟩

theorem Listed.partLine_eq (h : Listed item) (hname : name ∈ ["title", "snippet", "url"])
    (before after : String) :
    partLine item name before after = .ok (lineIf before (textIf? item name) (after ++ "\n")) := by
  unfold partLine
  obtain ⟨hpart, htext⟩ | ⟨p, s, hpart, hs, htext⟩ := h.text_cases hname
  · rw [hpart, htext]
    rfl
  · rw [hpart, htext]
    dsimp only
    rw [hs]
    exact congrArg Except.ok String.append_assoc

theorem Listed.resultBlock_eq (h : Listed item) (n : Nat) :
    resultBlock n item = .ok (block n item) := by
  unfold resultBlock block
  rw [h.partLine_eq (by simp), h.partLine_eq (by simp)]
  obtain ⟨hpart, htext⟩ | ⟨p, s, hpart, hs, htext⟩ :=
    h.text_cases (show "title" ∈ ["title", "snippet", "url"] by simp)
  · rw [hpart, htext]
    rfl
  · rw [hpart, htext]
    dsimp only
    rw [hs]
    rfl

theorem Cited.sourceLine_eq (h : Cited source) (n : Nat) :
    sourceLine n source = .ok (sourceEntry n source) := by
  cases h with
  | text s => rfl
  | record hrecord hlegible =>
    have hpart (name : String) (hname : name ∈ ["title", "url"]) :
        partText (source.part name) = .ok (textOf source name) := by
      obtain ⟨w, hw⟩ := hrecord.part name
      obtain ⟨s, hs⟩ := hlegible name hname w hw
      simp [textOf, hw, partText, hs, Except.toOption]
    have htitle := hpart "title" (by simp)
    have hurl := hpart "url" (by simp)
    cases source with
    | mapping entries => simp only [sourceLine, sourceEntry, htitle, hurl]; rfl
    | object attributes shown => simp only [sourceLine, sourceEntry, htitle, hurl]; rfl
    | _ => cases hrecord

theorem proseBody_eq_listing (hkeys : ∀ key ∈ proseKeys, truthyPart? output key = none)
    (hresults : output.part "results" = .value (.list items)) (hne : items ≠ [])
    (h : ∀ item ∈ items, Listed item) :
    proseBody output = .ok (listing items) := by
  have hnone : proseKeys.findSome? (truthyPart? output) = none := List.findSome?_eq_none_iff.2 hkeys
  have hsome : truthyPart? output "results" = some (.value (.list items)) := by
    simp [truthyPart?, hresults, Value.isTruthy, hne]
  have hblocks : numbered resultBlock 1 items = .ok (each block 1 items) :=
    numbered_eq_each (fun n item hitem => (h item hitem).resultBlock_eq n) 1
  unfold proseBody
  rw [hnone, hsome]
  exact bind_eq_ok.2 ⟨items, rfl, bind_eq_ok.2 ⟨_, hblocks, rfl⟩⟩

theorem proseSources_eq_entries {p : Part} {sources : List Value}
    (hpart : truthyPart? output "sources" = some p) (hitems : partItems p = .ok sources)
    (h : ∀ source ∈ sources, Cited source) :
    proseSources output true = .ok ("\n\n## Sources\n\n" ++ each sourceEntry 1 sources) := by
  have hentries : numbered sourceLine 1 sources = .ok (each sourceEntry 1 sources) :=
    numbered_eq_each (fun n source hsource => (h source hsource).sourceLine_eq n) 1
  unfold proseSources
  rw [hpart]
  exact bind_eq_ok.2 ⟨sources, hitems, bind_eq_ok.2 ⟨_, hentries, rfl⟩⟩

theorem proseSources_none (h : includeSources = false ∨ truthyPart? output "sources" = none) :
    proseSources output includeSources = .ok "" := by
  unfold proseSources
  rcases h with rfl | h
  · rfl
  · rw [h]
    cases includeSources <;> rfl

theorem format_prose {body tail : String} (hspec : OutputFormat.parse? spec.format = some .prose)
    (houtput : ∀ s, output ≠ .text s) (hbody : proseBody output = .ok body)
    (htail : proseSources output spec.includeSources = .ok tail) (generatedAt : Option Moment) :
    format output (some spec) generatedAt = .ok (.text (body ++ tail)) := by
  have hprose : prose output spec.includeSources = .ok (body ++ tail) := by
    unfold prose
    split
    · next s => exact absurd rfl (houtput s)
    · exact bind_eq_ok.2 ⟨body, hbody, bind_eq_ok.2 ⟨tail, htail, rfl⟩⟩
  unfold format
  dsimp only [Option.bind_some]
  rw [hspec]
  exact bind_eq_ok.2 ⟨body ++ tail, hprose, rfl⟩

/-- Prose lists all search results, and all sources after whatever body there is. -/
theorem prose_lists (output : Value) (spec : OutputSpec)
    (hspec : OutputFormat.parse? spec.format = some .prose) (houtput : ∀ s, output ≠ .text s)
    (generatedAt : Option Moment) :
    (∀ items, (∀ key ∈ proseKeys, truthyPart? output key = none) →
      output.part "results" = .value (.list items) →
      items ≠ [] → (∀ item ∈ items, Listed item) → proseBody output = .ok (listing items)) ∧
    (∀ xs ys, listing (xs ++ ys) = listing xs ++ each block (xs.length + 1) ys) ∧
    ∀ body, proseBody output = .ok body →
      (∀ sources, spec.includeSources = true →
        output.part "sources" = .value (.list sources) ∨
        output.part "sources" = .value (.tuple sources) →
        sources ≠ [] → (∀ source ∈ sources, Cited source) →
        format output (some spec) generatedAt =
          .ok (.text (body ++ ("\n\n## Sources\n\n" ++ each sourceEntry 1 sources)))) ∧
      (spec.includeSources = false ∨ truthyPart? output "sources" = none →
        format output (some spec) generatedAt = .ok (.text body)) := by
  refine ⟨fun items => proseBody_eq_listing, ?_, fun body hbody => ⟨?_, fun hnone => ?_⟩⟩
  · intro xs ys
    unfold listing
    rw [each_append, Nat.add_comm 1, String.append_assoc]
  · intro sources hinclude hpart hne hcited
    apply format_prose hspec houtput hbody
    rw [hinclude]
    rcases hpart with hpart | hpart
    · exact proseSources_eq_entries (p := .value (.list sources))
        (by simp [truthyPart?, hpart, Value.isTruthy, hne]) rfl hcited
    · exact proseSources_eq_entries (p := .value (.tuple sources))
        (by simp [truthyPart?, hpart, Value.isTruthy, hne]) rfl hcited
  · have hformat := format_prose hspec houtput hbody (proseSources_none hnone) generatedAt
    rwa [String.append_empty] at hformat

def found : Value := .record [
  ("results", .list [.record [("title", .text "A"), ("url", .text "https://a.example")],
    .object [("snippet", .text "Fast")] "<obj>"]),
  ("sources", .tuple [.text "B", .record [("url", .text "https://c.example")]])]

theorem found_is_listed :
    format found (some { format := " Markdown", includeSources := true }) none = .ok (.text
      ("# Search Results\n\n## 1. A\n[Source](https://a.example)\n\n## 2. Untitled\nFast\n\n" ++
        "\n\n## Sources\n\n1. B\n2. [None](https://c.example)\n")) := by
  obtain ⟨hbody, -, hformat⟩ :=
    prose_lists found { format := " Markdown", includeSources := true }
      (by decide +kernel) nofun none
  have hitems : ∀ item ∈ [.record [("title", .text "A"), ("url", .text "https://a.example")],
      .object [("snippet", .text "Fast")] "<obj>"], Listed item := by
    intro item hitem
    rcases List.mem_cons.1 hitem with rfl | hitem
    · refine ⟨trivial, ?_⟩
      simp only [List.mem_cons, List.not_mem_nil, or_false]
      rintro _ (rfl | rfl | rfl) w ⟨⟩ htruthy
      · exact ⟨_, rfl⟩
      · cases htruthy
      · exact ⟨_, rfl⟩
    · rw [List.mem_singleton.1 hitem]
      refine ⟨trivial, ?_⟩
      simp only [List.mem_cons, List.not_mem_nil, or_false]
      rintro _ (rfl | rfl | rfl) w ⟨⟩ htruthy
      · cases htruthy
      · exact ⟨_, rfl⟩
      · cases htruthy
  have hsources : ∀ source ∈ [.text "B", .record [("url", .text "https://c.example")]],
      Cited source := by
    intro source hsource
    rcases List.mem_cons.1 hsource with rfl | hsource
    · exact .text "B"
    · rw [List.mem_singleton.1 hsource]
      refine .record trivial ?_
      simp only [List.mem_cons, List.not_mem_nil, or_false]
      rintro _ (rfl | rfl) w ⟨⟩ <;> exact ⟨_, rfl⟩
  have hlisted := (hformat _ (hbody _ (by decide) rfl (by simp) hitems)).1 _ rfl
    (.inr rfl) (by simp) hsources
  rw [hlisted, Except.ok.injEq, Value.text.injEq]
  decide +kernel

/-- The title of a source may have no text, and then there is no prose either. -/
theorem not_every_source_is_listed :
    ¬ ∀ (output : Value) (spec : OutputSpec) (generatedAt : Option Moment)
      (body : String) (sources : List Value),
      OutputFormat.parse? spec.format = some .prose → (∀ s, output ≠ .text s) →
      proseBody output = .ok body →
      spec.includeSources = true → output.part "sources" = .value (.list sources) → sources ≠ [] →
      (∀ source ∈ sources, (∃ s, source = .text s) ∨ IsRecord source) →
      ∃ text, format output (some spec) generatedAt = .ok (.text text) := by
  intro h
  let source : Value := .record [("title", .unprintable "boom"), ("url", .text "https://a.example")]
  obtain ⟨text, htext⟩ := h (.record [("synthesis", .text "Found"), ("sources", .list [source])])
    { format := "prose", includeSources := true } none "Found" [source]
      (by decide +kernel) nofun rfl rfl rfl
    (by simp) (by simp [source, Value.record, IsRecord])
  cases htext

end StepFlow.Output
