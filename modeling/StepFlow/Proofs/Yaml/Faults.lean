import Mathlib.Data.List.Basic
import StepFlow.Yaml.Reader

set_option mvcgen.warning false

/-!
# The faults of a YAML text

What the reading of a text raises on its own account, other than that the text is not well formed,
belongs to none of the reported kinds. Each function of the lexer, of the assembly and of the
filling has a triple that says so of the function alone; the triples of the functions that it calls
are all that its proof takes. Where functions call each other within a number of calls the proof is
by induction on that number.
-/
namespace StepFlow.Yaml
open Std.Do

def Issue.IsForeign : Issue → Prop
  | malformed => True
  | fault f => f.kind? = none

abbrev unreported {α : Type} : PostCond α (.except Issue .pure) :=
  post⟨fun _ => ⌜True⌝, fun issue => ⌜issue.IsForeign⌝⟩

/-- Whatever is read and whatever state is left, an issue is foreign. -/
abbrev unreportedWith {α τ : Type} : PostCond α (.arg τ (.except Issue .pure)) :=
  post⟨fun _ _ => ⌜True⌝, fun issue => ⌜issue.IsForeign⌝⟩

abbrev unreportedFault {α : Type} : PostCond α (.except Fault .pure) :=
  post⟨fun _ => ⌜True⌝, fun fault => ⌜fault.kind? = none⌝⟩

/-! ### Triples of the monads -/

section
variable {ε α β : Type} {a : α} {e : ε} {Q : PostCond α (.except ε .pure)}

@[spec]
theorem ok_spec : ⦃Q.1 a⦄ (Except.ok a : Except ε α) ⦃Q⦄ := Triple.pure (m := Except ε) a .rfl

/-- The library's own triple leaves the monad under the errors open, which is why it comes
second. -/
@[spec high]
theorem throw_spec : ⦃Q.2.1 e⦄ (MonadExceptOf.throw e : Except ε α) ⦃Q⦄ :=
  Spec.throw_Except (m := Except ε)

end

section
variable {m : Type → Type} {ps : PostShape} [Monad m] [WPMonad m ps] {α β : Type}
  {E : ExceptConds ps}

theorem mapM_spec {f : α → m β} (h : ∀ a, ⦃⌜True⌝⦄ f a ⦃(fun _ => ⌜True⌝, E)⦄) (as : List α) :
    ⦃⌜True⌝⦄ as.mapM f ⦃(fun _ => ⌜True⌝, E)⦄ := by
  induction as with
  | nil =>
    rw [List.mapM_nil]
    exact Triple.pure _ .rfl
  | cons a as ih =>
    rw [List.mapM_cons]
    exact Triple.bind _ _ (h a) fun b => Triple.bind _ _ ih fun bs => Triple.pure _ .rfl

theorem forM_spec {f : α → m PUnit} (h : ∀ a, ⦃⌜True⌝⦄ f a ⦃(fun _ => ⌜True⌝, E)⦄) (as : List α) :
    ⦃⌜True⌝⦄ as.forM f ⦃(fun _ => ⌜True⌝, E)⦄ := by
  induction as with
  | nil => exact Triple.pure _ .rfl
  | cons a as ih => exact Triple.bind _ _ (h a) fun _ => ih

end

section
variable {α β τ : Type}

@[spec]
theorem mapM_except_spec {f : α → Except Issue β} (h : ∀ a, ⦃⌜True⌝⦄ f a ⦃unreported⦄)
    (as : List α) :
    ⦃⌜True⌝⦄ as.mapM f ⦃unreported⦄ := mapM_spec h as

@[spec]
theorem mapM_state_spec {f : α → StateT τ (Except Issue) β} (h : ∀ a, ⦃⌜True⌝⦄ f a ⦃unreportedWith⦄)
    (as : List α) :
    ⦃⌜True⌝⦄ as.mapM f ⦃unreportedWith⦄ := mapM_spec h as

@[spec]
theorem forM_state_spec {f : α → StateT τ (Except Issue) PUnit}
    (h : ∀ a, ⦃⌜True⌝⦄ f a ⦃unreportedWith⦄) (as : List α) : ⦃⌜True⌝⦄ as.forM f ⦃unreportedWith⦄ :=
      forM_spec h as

@[spec high]
theorem foldlM_state_spec {f : β → α → StateT τ (Except Issue) β}
    (h : ∀ b a, ⦃⌜True⌝⦄ f b a ⦃unreportedWith⦄) (as : List α) (b : β) :
    ⦃⌜True⌝⦄ as.foldlM f b ⦃unreportedWith⦄ :=
  Spec.foldlM_list (fun _ => ⌜True⌝, (unreportedWith (α := β)).2) fun _ a _ _ b => h b a

end

/-! ### Scalars and tags as they are written -/

@[spec]
theorem characterOf_spec (n : Nat) : ⦃⌜True⌝⦄ characterOf n ⦃unreported⦄ := by mvcgen [characterOf]

@[spec]
theorem quotedBreaks_spec (fuel : Nat) (c : Cursor) :
    ⦃⌜True⌝⦄ quotedBreaks fuel c ⦃unreported⦄ := by
  induction fuel generalizing c with
  | zero => mvcgen [quotedBreaks]
  | succ fuel ih =>
    unfold quotedBreaks
    mvcgen [ih]

@[spec]
theorem quotedBlanks_spec (fuel : Nat) (c : Cursor) :
    ⦃⌜True⌝⦄ quotedBlanks fuel c ⦃unreported⦄ := by
  mvcgen [quotedBlanks]

@[spec]
theorem escape_spec (fuel : Nat) (c : Cursor) : ⦃⌜True⌝⦄ escape fuel c ⦃unreported⦄ := by
    mvcgen [escape]

@[spec]
theorem quoted_spec (double : Bool) (fuel : Nat) (c : Cursor) :
    ⦃⌜True⌝⦄ quoted double fuel c ⦃unreported⦄ := by
  induction fuel generalizing c with
  | zero => mvcgen [quoted]
  | succ fuel ih =>
    unfold quoted
    mvcgen [ih]

@[spec]
theorem indentation?_spec (c : Option Char) : ⦃⌜True⌝⦄ indentation? c ⦃unreported⦄ := by
    mvcgen [indentation?]

@[spec]
theorem skipLineEnd_spec (c : Cursor) : ⦃⌜True⌝⦄ c.skipLineEnd ⦃unreported⦄ := by
    mvcgen [Cursor.skipLineEnd]

@[spec]
theorem blockHeader_spec (c : Cursor) : ⦃⌜True⌝⦄ blockHeader c ⦃unreported⦄ := by
    mvcgen [blockHeader]

@[spec]
theorem block_spec (folded : Bool) (outer : Int) (c : Cursor) :
    ⦃⌜True⌝⦄ block folded outer c ⦃unreported⦄ := by
  mvcgen [block]

@[spec]
theorem name_spec (c : Cursor) : ⦃⌜True⌝⦄ name c ⦃unreported⦄ := by mvcgen [name]

@[spec]
theorem anchorName_spec (c : Cursor) : ⦃⌜True⌝⦄ anchorName c ⦃unreported⦄ := by
  unfold anchorName
  mvcgen

@[spec]
theorem unescapeTag_spec (cs : List Char) (bytes : List UInt8) :
    ⦃⌜True⌝⦄ unescapeTag cs bytes ⦃unreported⦄ := by
  fun_induction unescapeTag cs bytes <;> mvcgen [*]

@[spec]
theorem tagTail_spec (c : Cursor) : ⦃⌜True⌝⦄ tagTail c ⦃unreported⦄ := by mvcgen [tagTail]

@[spec]
theorem tagHandle_spec (c : Cursor) : ⦃⌜True⌝⦄ tagHandle c ⦃unreported⦄ := by mvcgen [tagHandle]

@[spec]
theorem tagToken_spec (c : Cursor) : ⦃⌜True⌝⦄ tagToken c ⦃unreported⦄ := by mvcgen [tagToken]

@[spec]
theorem versionPart_spec (c : Cursor) : ⦃⌜True⌝⦄ versionPart c ⦃unreported⦄ := by
    mvcgen [versionPart]

@[spec]
theorem directive_spec (c : Cursor) : ⦃⌜True⌝⦄ directive c ⦃unreported⦄ := by
  unfold directive
  mvcgen

/-! ### Tokens -/

namespace Lexer

@[spec]
theorem giveUp_spec (k : Option PendingKey) : ⦃⌜True⌝⦄ giveUp k ⦃unreported⦄ := by mvcgen [giveUp]

@[spec]
theorem dropPending_spec (s : Lexer) : ⦃⌜True⌝⦄ s.dropPending ⦃unreported⦄ := by
    mvcgen [dropPending]

@[spec]
theorem dropStale_spec (s : Lexer) : ⦃⌜True⌝⦄ s.dropStale ⦃unreported⦄ := by mvcgen [dropStale]

@[spec]
theorem savePending_spec (s : Lexer) : ⦃⌜True⌝⦄ s.savePending ⦃unreported⦄ := by
    mvcgen [savePending]

@[spec]
theorem startBlock_spec (s : Lexer) (t : Token) : ⦃⌜True⌝⦄ s.startBlock t ⦃unreported⦄ := by
    mvcgen [startBlock]

@[spec]
theorem openFlow_spec (s : Lexer) (t : Token) : ⦃⌜True⌝⦄ s.openFlow t ⦃unreported⦄ := by
    mvcgen [openFlow]

@[spec]
theorem closeFlow_spec (s : Lexer) (t : Token) : ⦃⌜True⌝⦄ s.closeFlow t ⦃unreported⦄ := by
    mvcgen [closeFlow]

@[spec]
theorem entry_spec (s : Lexer) (keyAllowed : Bool) (t : Token) :
    ⦃⌜True⌝⦄ s.entry keyAllowed t ⦃unreported⦄ := by
  mvcgen [entry]

@[spec]
theorem valueMark_spec (s : Lexer) : ⦃⌜True⌝⦄ s.valueMark ⦃unreported⦄ := by mvcgen [valueMark]

@[spec]
theorem documentMark_spec (s : Lexer) : ⦃⌜True⌝⦄ s.documentMark ⦃unreported⦄ := by
    mvcgen [documentMark]

@[spec]
theorem word_spec {s : Lexer} {read : Cursor → Except Issue (Token × Cursor)}
    (h : ∀ c, ⦃⌜True⌝⦄ read c ⦃unreported⦄) : ⦃⌜True⌝⦄ s.word read ⦃unreported⦄ := by
      mvcgen [word, h]

@[spec]
theorem plainWord_spec (s : Lexer) : ⦃⌜True⌝⦄ s.plainWord ⦃unreported⦄ := by mvcgen [plainWord]

@[spec]
theorem blockScalar_spec (s : Lexer) (folded : Bool) :
    ⦃⌜True⌝⦄ s.blockScalar folded ⦃unreported⦄ := by
  mvcgen [blockScalar]

@[spec]
theorem token_spec (s : Lexer) (ch : Char) : ⦃⌜True⌝⦄ s.token ch ⦃unreported⦄ := by mvcgen [token]

@[spec]
theorem step_spec (s : Lexer) : ⦃⌜True⌝⦄ s.step ⦃unreported⦄ := by mvcgen [step]

@[spec]
theorem fill_spec (fuel : Nat) (s : Lexer) : ⦃⌜True⌝⦄ fill fuel s ⦃unreported⦄ := by
  induction fuel generalizing s with
  | zero => mvcgen [fill]
  | succ fuel ih =>
    unfold fill
    mvcgen [ih]

@[spec]
theorem peek_spec (s : Lexer) : ⦃⌜True⌝⦄ s.peek ⦃unreported⦄ := by mvcgen [peek]

end Lexer

/-! ### Nodes -/

/-- The triple of a computation, from those of its runs. -/
theorem spec_of_run {α τ : Type} {x : StateT τ (Except Issue) α}
    (h : ∀ s, ⦃⌜True⌝⦄ x s ⦃unreported⦄) :
    ⦃⌜True⌝⦄ x ⦃unreportedWith⦄ := fun s => h s

namespace Assemble

@[spec]
theorem malformed_spec {α : Type} : ⦃⌜True⌝⦄ (malformed : Assemble α) ⦃unreportedWith⦄ := by
    mvcgen [malformed]

@[spec]
theorem peek_spec : ⦃⌜True⌝⦄ peek ⦃unreportedWith⦄ := by
  refine spec_of_run fun s => ?_
  mvcgen [peek]

@[spec]
theorem advance_spec : ⦃⌜True⌝⦄ advance ⦃unreportedWith⦄ := by mvcgen [advance]

@[spec]
theorem add_spec (n : Node) : ⦃⌜True⌝⦄ add n ⦃unreportedWith⦄ := by mvcgen [add]

@[spec]
theorem setForm_spec (number : Nat) (f : Form) : ⦃⌜True⌝⦄ setForm number f ⦃unreportedWith⦄ := by
    mvcgen [setForm]

@[spec]
theorem fullName_spec (t : TagName) : ⦃⌜True⌝⦄ fullName t ⦃unreportedWith⦄ := by mvcgen [fullName]

@[spec]
theorem properties_spec : ⦃⌜True⌝⦄ properties ⦃unreportedWith⦄ := by mvcgen [properties]

@[spec]
theorem start_spec (p : Properties) (n : Node) : ⦃⌜True⌝⦄ start p n ⦃unreportedWith⦄ := by
    mvcgen [start]

@[spec]
theorem inside_spec {α : Type} {read : Assemble α} (h : ⦃⌜True⌝⦄ read ⦃unreportedWith⦄) :
    ⦃⌜True⌝⦄ inside read ⦃unreportedWith⦄ := by
  mvcgen [inside, h]

@[spec]
theorem sequence_spec (p : Properties) {items : Assemble (List Nat)}
    (h : ⦃⌜True⌝⦄ items ⦃unreportedWith⦄) :
    ⦃⌜True⌝⦄ sequence p items ⦃unreportedWith⦄ := by
  mvcgen [sequence, h]

@[spec]
theorem mapping_spec (p : Properties) {entries : Assemble (List (Nat × Nat))}
    (h : ⦃⌜True⌝⦄ entries ⦃unreportedWith⦄) : ⦃⌜True⌝⦄ mapping p entries ⦃unreportedWith⦄ := by
  mvcgen [mapping, h]

@[spec]
theorem separator_spec (first : Bool) : ⦃⌜True⌝⦄ separator first ⦃unreportedWith⦄ := by
    mvcgen [separator]

/-- What the readers that call each other do within so many calls. -/
structure Readers (fuel : Nat) : Prop where
  node : ∀ place, ⦃⌜True⌝⦄ node fuel place ⦃unreportedWith⦄
  content : ∀ place p, ⦃⌜True⌝⦄ content fuel place p ⦃unreportedWith⦄
  optional : ∀ place ends, ⦃⌜True⌝⦄ optional fuel place ends ⦃unreportedWith⦄
  blockItems : ⦃⌜True⌝⦄ blockItems fuel ⦃unreportedWith⦄
  looseItems : ⦃⌜True⌝⦄ looseItems fuel ⦃unreportedWith⦄
  blockEntries : ⦃⌜True⌝⦄ blockEntries fuel ⦃unreportedWith⦄
  valueOf : ∀ place ends, ⦃⌜True⌝⦄ valueOf fuel place ends ⦃unreportedWith⦄
  flowItems : ∀ first, ⦃⌜True⌝⦄ flowItems fuel first ⦃unreportedWith⦄
  flowEntries : ∀ first, ⦃⌜True⌝⦄ flowEntries fuel first ⦃unreportedWith⦄

theorem readers (fuel : Nat) : Readers fuel := by
  -- A reader calls the others with one call less, so that all of them are taken together.
  induction fuel with
  | zero =>
    constructor <;> intros <;>
      mvcgen [node, content, optional, blockItems, looseItems, blockEntries,
        valueOf, flowItems, flowEntries]
  | succ fuel ih =>
    obtain ⟨hnode, hcontent, hoptional, hblockItems, hlooseItems, hblockEntries, hvalueOf,
      hflowItems, hflowEntries⟩ := ih
    constructor
    · intro place
      unfold node
      mvcgen [hcontent]
    · intro place p
      unfold content
      mvcgen [hflowItems, hflowEntries, hlooseItems, hblockItems, hblockEntries]
    · intro place ends
      unfold optional
      mvcgen [hnode]
    · unfold blockItems
      mvcgen [hoptional, hblockItems]
    · unfold looseItems
      mvcgen [hoptional, hlooseItems]
    · unfold blockEntries
      mvcgen [hoptional, hvalueOf, hblockEntries]
    · intro place ends
      unfold valueOf
      mvcgen [hoptional]
    · intro first
      unfold flowItems
      mvcgen [hoptional, hvalueOf, hnode, hflowItems]
    · intro first
      unfold flowEntries
      mvcgen [hoptional, hvalueOf, hnode, hflowEntries]

@[spec]
theorem node_spec (fuel : Nat) (place : Place) : ⦃⌜True⌝⦄ node fuel place ⦃unreportedWith⦄ :=
  (readers fuel).node place

@[spec]
theorem callBound_spec : ⦃⌜True⌝⦄ callBound ⦃unreportedWith⦄ := by mvcgen [callBound]

@[spec]
theorem root_spec : ⦃⌜True⌝⦄ root ⦃unreportedWith⦄ := by mvcgen [root]

@[spec]
theorem directives_spec (fuel : Nat) (handles : List (List Char × List Char)) (hasVersion : Bool) :
    ⦃⌜True⌝⦄ directives fuel handles hasVersion ⦃unreportedWith⦄ := by
  induction fuel generalizing handles hasVersion with
  | zero => mvcgen [directives]
  | succ fuel ih =>
    unfold directives
    mvcgen [ih]

@[spec]
theorem documentHead_spec : ⦃⌜True⌝⦄ documentHead ⦃unreportedWith⦄ := by mvcgen [documentHead]

@[spec]
theorem skipEnds_spec (fuel : Nat) : ⦃⌜True⌝⦄ skipEnds fuel ⦃unreportedWith⦄ := by
  induction fuel with
  | zero => mvcgen [skipEnds]
  | succ fuel ih =>
    unfold skipEnds
    mvcgen [ih]

@[spec]
theorem finish_spec : ⦃⌜True⌝⦄ finish ⦃unreportedWith⦄ := by mvcgen [finish]

@[spec]
theorem explicitRoot_spec : ⦃⌜True⌝⦄ explicitRoot ⦃unreportedWith⦄ := by mvcgen [explicitRoot]

@[spec]
theorem document_spec : ⦃⌜True⌝⦄ document ⦃unreportedWith⦄ := by mvcgen [document]

end Assemble

/-! ### Merge keys -/

namespace Merging

@[spec]
theorem entries_spec (number : Nat) : ⦃⌜True⌝⦄ entries number ⦃unreportedWith⦄ := by
    mvcgen [entries]

@[spec]
theorem setEntries_spec (number : Nat) (es : List (Nat × Nat)) :
    ⦃⌜True⌝⦄ setEntries number es ⦃unreportedWith⦄ := by
  mvcgen [setEntries]

@[spec]
theorem settleKey_spec (key : Nat) : ⦃⌜True⌝⦄ settleKey key ⦃unreportedWith⦄ := by
    mvcgen [settleKey]

@[spec]
theorem mergeFrom_spec (fuel number start : Nat) (merged : List (Nat × Nat)) :
    ⦃⌜True⌝⦄ mergeFrom fuel number start merged ⦃unreportedWith⦄ := by
  induction fuel generalizing number start merged with
  | zero => mvcgen [mergeFrom]
  | succ fuel ih =>
    unfold mergeFrom
    mvcgen [ih]

end Merging

@[spec]
theorem flatten_spec (bound number : Nat) : ⦃⌜True⌝⦄ flatten bound number ⦃unreportedWith⦄ := by
    mvcgen [flatten]

/-! ### Values of scalars -/

theorem mapError_spec {α : Type} {x : Except Fault α} (h : ⦃⌜True⌝⦄ x ⦃unreportedFault⦄) :
    ⦃⌜True⌝⦄ (x.mapError Issue.fault) ⦃unreported⦄ := by
  cases x with
  | ok a => exact h
  | error fault => exact h

@[spec]
theorem signed_spec (cs : List Char) : ⦃⌜True⌝⦄ signed cs ⦃unreportedFault⦄ := by mvcgen [signed]

@[spec]
theorem inBase_spec (base : Nat) (letter : Char) (cs : List Char) :
    ⦃⌜True⌝⦄ inBase base letter cs ⦃unreportedFault⦄ := by
  unfold inBase
  dsimp only
  split
  · split <;> mvcgen
  · mvcgen

@[spec]
theorem inTen_spec (cs : List Char) : ⦃⌜True⌝⦄ inTen cs ⦃unreportedFault⦄ := by mvcgen [inTen]

@[spec]
theorem sexagesimal_spec (cs : List Char) : ⦃⌜True⌝⦄ sexagesimal cs ⦃unreportedFault⦄ := by
  unfold sexagesimal
  have hparts := mapM_spec inTen_spec
  mvcgen [hparts]

@[spec]
theorem readInt_spec (cs : List Char) : ⦃⌜True⌝⦄ readInt cs ⦃unreportedFault⦄ := by mvcgen [readInt]

@[spec]
theorem realPart_spec (cs : List Char) : ⦃⌜True⌝⦄ realPart cs ⦃unreportedFault⦄ := by
    mvcgen [realPart]

@[spec]
theorem sixtieths_spec (factor : Int) (sum : Binary64) (xs : List Binary64) :
    ⦃⌜True⌝⦄ sixtieths factor sum xs ⦃unreportedFault⦄ := by
  induction xs generalizing factor sum with
  | nil => mvcgen [sixtieths]
  | cons x xs ih =>
    unfold sixtieths
    mvcgen [ih]

@[spec]
theorem readFloat_spec (cs : List Char) : ⦃⌜True⌝⦄ readFloat cs ⦃unreportedFault⦄ := by
  unfold readFloat
  have hparts := mapM_spec realPart_spec
  mvcgen [hparts]

@[spec]
theorem readBool_spec (cs : List Char) : ⦃⌜True⌝⦄ readBool cs ⦃unreportedFault⦄ := by
    mvcgen [readBool]

@[spec]
theorem readTimestamp_spec (cs : List Char) : ⦃⌜True⌝⦄ readTimestamp cs ⦃unreportedFault⦄ := by
    mvcgen [readTimestamp]

@[spec]
theorem readScalar_spec (t : Tag) (cs : List Char) : ⦃⌜True⌝⦄ readScalar t cs ⦃unreported⦄ := by
  have hmap {α : Type} {f : α → Value} {x : Except Fault α} (h : ⦃⌜True⌝⦄ x ⦃unreportedFault⦄) :
      ⦃⌜True⌝⦄ ((x.map f).mapError Issue.fault) ⦃unreported⦄ := by
    apply mapError_spec
    cases x <;> exact h
  unfold readScalar
  split
  · mvcgen
  · exact hmap (readBool_spec cs)
  · exact hmap (readInt_spec cs)
  · exact hmap (readFloat_spec cs)
  · exact mapError_spec (readTimestamp_spec cs)
  · mvcgen
  · mvcgen
  · mvcgen

/-! ### Contents -/

namespace Fill

@[spec]
theorem malformed_spec {α : Type} : ⦃⌜True⌝⦄ (malformed : Fill α) ⦃unreportedWith⦄ := by
    mvcgen [malformed]

@[spec]
theorem merging_spec {m : Merging Unit} (h : ⦃⌜True⌝⦄ m ⦃unreportedWith⦄) :
    ⦃⌜True⌝⦄ merging m ⦃unreportedWith⦄ := by
  refine spec_of_run fun s => ?_
  have hrun : ⦃⌜True⌝⦄ m s.graph ⦃unreported⦄ := h s.graph
  unfold merging
  mvcgen [hrun]

@[spec]
theorem content?_spec (number : Nat) : ⦃⌜True⌝⦄ content? number ⦃unreportedWith⦄ := by
    mvcgen [content?]

@[spec]
theorem setContent_spec (number : Nat) (c : Content) :
    ⦃⌜True⌝⦄ setContent number c ⦃unreportedWith⦄ := by
  mvcgen [setContent]

@[spec]
theorem ask_spec (number : Nat) : ⦃⌜True⌝⦄ ask number ⦃unreportedWith⦄ := by mvcgen [ask]

@[spec]
theorem keyValue_spec (number : Nat) : ⦃⌜True⌝⦄ keyValue number ⦃unreportedWith⦄ := by
    mvcgen [keyValue]

@[spec]
theorem isSameNaN_spec (k l : Nat) : ⦃⌜True⌝⦄ isSameNaN k l ⦃unreportedWith⦄ := by
    mvcgen [isSameNaN]

@[spec]
theorem isSameKey_spec (k l : Nat) : ⦃⌜True⌝⦄ isSameKey k l ⦃unreportedWith⦄ := by
    mvcgen [isSameKey]

@[spec]
theorem insert_spec (key value : Nat) (entries : List (Nat × Nat)) :
    ⦃⌜True⌝⦄ insert key value entries ⦃unreportedWith⦄ := by
  induction entries with
  | nil => mvcgen [insert]
  | cons entry rest ih =>
    unfold insert
    mvcgen [ih]

@[spec]
theorem fillEntries_spec (number : Nat) : ⦃⌜True⌝⦄ fillEntries number ⦃unreportedWith⦄ := by
    mvcgen [fillEntries]

@[spec]
theorem fillPair_spec (number : Nat) : ⦃⌜True⌝⦄ fillPair number ⦃unreportedWith⦄ := by
    mvcgen [fillPair]

@[spec]
theorem fill_spec (number : Nat) : ⦃⌜True⌝⦄ fill number ⦃unreportedWith⦄ := by mvcgen [fill]

@[spec]
theorem fillFrom_spec (fuel position : Nat) : ⦃⌜True⌝⦄ fillFrom fuel position ⦃unreportedWith⦄ := by
  induction fuel generalizing position with
  | zero => mvcgen [fillFrom]
  | succ fuel ih =>
    unfold fillFrom
    mvcgen [ih]

end Fill

@[spec]
theorem contents_spec (g : Graph) (root : Nat) : ⦃⌜True⌝⦄ g.contents root ⦃unreported⦄ := by
  have hfill : ⦃⌜True⌝⦄ (do Fill.ask root; Fill.fillFrom (g.size + 1) 0 : Fill Unit)
      ⦃unreportedWith⦄ := by
    mvcgen
  have hrun (s : Filling) : ⦃⌜True⌝⦄ (do Fill.ask root; Fill.fillFrom (g.size + 1) 0 : Fill Unit) s
      ⦃unreported⦄ :=
    hfill s
  unfold Graph.contents
  mvcgen [hrun]

theorem read_spec (cs : List Char) : ⦃⌜True⌝⦄ read cs ⦃unreported⦄ := by
  have hdocument (s : Assembly) : ⦃⌜True⌝⦄ Assemble.document s ⦃unreported⦄ :=
    Assemble.document_spec s
  unfold read
  mvcgen [hdocument]

theorem kind?_of_read {cs : List Char} {fault : Fault} (h : read cs = .error (.fault fault)) :
    fault.kind? = none := by
  have hread := read_spec cs
  rw [h] at hread
  exact hread trivial

end StepFlow.Yaml
