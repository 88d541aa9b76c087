import Mathlib.Data.List.Forall2
import StepFlow.Proofs.Fault.Sequence
import StepFlow.Proofs.Json.Number
import StepFlow.Proofs.Json.Quoted
import StepFlow.Proofs.Prompt.Input

/-!
# Texts that spell values

A text spells a value if the reader finds the value in it, unless the value is nested too deeply for
the reader. The texts of the items of a list, or of the fields of a mapping, make up the text of the
whole in any layout.
-/
namespace StepFlow

mutual
def Value.nesting : Value → Nat
  | .list xs => nestingOfItems xs + 1
  | .mapping es => nestingOfEntries es + 1
  | _ => 0

def Value.nestingOfItems : List Value → Nat
  | [] => 0
  | x :: xs => max (nesting x) (nestingOfItems xs)

def Value.nestingOfEntries : List (Value × Value) → Nat
  | [] => 0
  | (_, v) :: es => max (nesting v) (nestingOfEntries es)
end

namespace Json

/-- Reading comes to this value if it is not nested too deeply, and is refused for the nesting
otherwise. -/
structure Reads {α : Type} (out : Except ReadIssue (α × List Char)) (fits : Prop) (a : α)
    (rest : List Char) : Prop where
  ok : fits → out = .ok (a, rest)
  tooDeep : ¬fits → ∃ isArray, out = .error (.tooDeep isArray)

namespace Reads
variable {α β : Type} {out : Except ReadIssue (α × List Char)} {fits fits' : Prop} {a : α} {b : β}
  {rest rest' : List Char}

theorem of_ok (h : out = .ok (a, rest)) (hfits : fits) : Reads out fits a rest :=
  ⟨fun _ => h, fun hno => absurd hfits hno⟩

theorem of_iff (h : Reads out fits a rest) (hiff : fits ↔ fits') : Reads out fits' a rest :=
  ⟨fun hfits => h.ok (hiff.2 hfits), fun hno => h.tooDeep fun hfits => hno (hiff.1 hfits)⟩

theorem bind {next : α × List Char → Except ReadIssue (β × List Char)} (h : Reads out fits a rest)
    (fits' : Prop) (hnext : Reads (next (a, rest)) fits' b rest') :
    Reads (out >>= next) (fits ∧ fits') b rest' := by
  by_cases hfits : fits
  · have hout : out >>= next = next (a, rest) := by
      rw [h.ok hfits]
      rfl
    rw [hout]
    exact hnext.of_iff (by simp [hfits])
  · obtain ⟨isArray, hdeep⟩ := h.tooDeep hfits
    refine ⟨fun hboth => absurd hboth.1 hfits, fun _ => ⟨isArray, ?_⟩⟩
    rw [hdeep]
    rfl

end Reads

def Blank (cs : List Char) : Prop := ∀ c ∈ cs, isSpace c = true

theorem skipSpace_of_blank {blank : List Char} (h : Blank blank) (cs : List Char) :
    skipSpace (blank ++ cs) = skipSpace cs := List.dropWhile_append_of_pos h

theorem skipSpace_cons {c : Char} (h : isSpace c = false) (cs : List Char) :
    skipSpace (c :: cs) = c :: cs :=
  List.dropWhile_cons_of_neg (by simp [h])

/-- Something begins: with no space, and not with the end of a list or of a mapping. -/
def Begins (cs : List Char) : Prop :=
  ∃ c tail, cs = c :: tail ∧ isSpace c = false ∧ c ≠ ']' ∧ c ≠ '\x7d'

theorem Begins.append {cs : List Char} (h : Begins cs) (more : List Char) :
    Begins (cs ++ more) := by
  obtain ⟨c, tail, rfl, hc⟩ := h
  exact ⟨c, tail ++ more, rfl, hc⟩

theorem Begins.skipSpace {cs : List Char} (h : Begins cs) : skipSpace cs = cs := by
  obtain ⟨c, tail, rfl, hspace, -⟩ := h
  exact skipSpace_cons hspace tail

theorem begins_cons {c : Char} (h : isSpace c = false ∧ c ≠ ']' ∧ c ≠ '\x7d') (cs : List Char) :
    Begins (c :: cs) := ⟨c, cs, rfl, h⟩

/-- The text spells the value: wherever it stands, the value is read from it, in at most two steps
for each character. -/
structure Spells (v : Value) (cs : List Char) : Prop where
  begins : Begins cs
  reads : ∀ (limit : Nat) {fuel depth : Nat} {rest : List Char}, 2 * cs.length ≤ fuel →
    depth ≤ limit → Ends rest →
    Reads (value limit fuel depth (cs ++ rest)) (depth + v.nesting ≤ limit) v rest

theorem spells_scalar {v : Value} {c : Char} {cs : List Char}
    (hbegins : isSpace c = false ∧ c ≠ ']' ∧ c ≠ '\x7d') (hc : c ≠ '"' ∧ c ≠ '[' ∧ c ≠ '\x7b')
    (hv : v.nesting = 0)
    (h : ∀ rest, Ends rest → scalar (c :: cs ++ rest) = .ok (v, rest)) : Spells v (c :: cs) where
  begins := begins_cons hbegins cs
  reads := by
    intro limit fuel depth rest hfuel hdepth hrest
    cases fuel with
    | zero => simp at hfuel
    | succ fuel =>
      have hvalue : value limit (fuel + 1) depth (c :: cs ++ rest) = scalar (c :: cs ++ rest) := by
        obtain ⟨hquote, hlist, hrecord⟩ := hc
        rw [List.cons_append, value]
        all_goals simp_all
      exact .of_ok (hvalue.trans (h rest hrest)) (by omega)

theorem spells_null : Spells .null "null".toList := by
  have htext : "null".toList = ['n', 'u', 'l', 'l'] := by simp
  rw [htext]
  refine spells_scalar (by decide) (by decide) rfl ?_
  intro rest _
  simp [scalar, constants, word?]

theorem spells_bool (b : Bool) : Spells (.bool b) (boolText b).toList := by
  cases b with
  | true =>
    have htext : (boolText true).toList = ['t', 'r', 'u', 'e'] := by simp [boolText]
    rw [htext]
    refine spells_scalar (by decide) (by decide) rfl ?_
    intro rest _
    simp [scalar, constants, word?]
  | false =>
    have htext : (boolText false).toList = ['f', 'a', 'l', 's', 'e'] := by simp [boolText]
    rw [htext]
    refine spells_scalar (by decide) (by decide) rfl ?_
    intro rest _
    simp [scalar, constants, word?]

theorem begins_digit {d : Char} (hd : d.isDigit = true) :
    (isSpace d = false ∧ d ≠ ']' ∧ d ≠ '\x7d') ∧ d ≠ '"' ∧ d ≠ '[' ∧ d ≠ '\x7b' := by
  have hother : ∀ {c : Char}, c.isDigit = false → d ≠ c := by
    rintro c hc rfl
    exact Bool.noConfusion (hd.symm.trans hc)
  refine ⟨⟨?_, hother rfl, hother rfl⟩, hother rfl, hother rfl, hother rfl⟩
  simp [isSpace, hother (c := ' ') rfl, hother (c := '\t') rfl, hother (c := '\n') rfl,
    hother (c := '\r') rfl]

theorem spells_int {n : Int} (hn : n.natAbs < tenTo Reading.maxDigits) :
    Spells (.int n) (toString n).toList := by
  cases n with
  | ofNat n =>
    obtain ⟨d, ds, hdigits, hd⟩ := Decimal.toDigits_eq_cons n
    obtain ⟨hbegins, hc⟩ := begins_digit hd
    rw [Text.toList_toString_ofNat, hdigits]
    refine spells_scalar hbegins hc rfl fun rest hrest => ?_
    rw [← hdigits]
    exact scalar_digits hn hrest
  | negSucc n =>
    rw [Text.toList_toString_negSucc]
    exact spells_scalar (by decide) (by decide) rfl fun rest hrest => scalar_minus hn hrest

theorem spells_text (s : String) : Spells (.text s) (quoted s) where
  begins := begins_cons (by decide) _
  reads := by
    intro limit fuel depth rest hfuel hdepth hrest
    cases fuel with
    | zero => simp [quoted] at hfuel
    | succ fuel =>
      have hvalue : value limit (fuel + 1) depth (quoted s ++ rest) = .ok (.text s, rest) := by
        unfold quoted
        rw [List.cons_append, List.cons_append, List.append_assoc, value,
          List.singleton_append, string_quoted]
        rfl
      exact .of_ok hvalue hdepth

theorem blank_lineBreak (l : Layout) (depth : Nat) : Blank (l.lineBreak depth) := by
  unfold Layout.lineBreak
  split
  · nofun
  · intro c hc
    rcases List.mem_cons.1 hc with rfl | hspace
    · rfl
    · rw [List.eq_of_mem_replicate hspace]
      rfl

theorem separator_eq (l : Layout) (depth : Nat) :
    ∃ blank, l.separator depth = ',' :: blank ∧ Blank blank := by
  unfold Layout.separator
  split
  · refine ⟨[' '], rfl, ?_⟩
    intro c hc
    rw [List.mem_singleton.1 hc]
    rfl
  · exact ⟨_, rfl, blank_lineBreak l depth⟩

theorem ends_of_blank {blank : List Char} (h : Blank blank) {c : Char} (hc : c = ']' ∨ c = '\x7d')
    (cs : List Char) :
    Ends (blank ++ c :: cs) := by
  cases blank with
  | nil =>
    apply ends_cons
    rcases hc with rfl | rfl <;> decide
  | cons b blank =>
    have hb := h b List.mem_cons_self
    apply ends_cons
    simp only [isSpace, Bool.or_eq_true, beq_iff_eq] at hb
    rcases hb with ((rfl | rfl) | rfl) | rfl <;> decide

theorem begins_intercalate (separator : List Char) {cs : List Char} (h : Begins cs)
    (items : List (List Char)) :
    Begins (separator.intercalate (cs :: items)) := by
  cases items with
  | nil => simpa [List.intercalate] using h
  | cons item items =>
    have hfirst := h.append (separator ++ separator.intercalate (item :: items))
    simpa [List.intercalate] using hfirst

/-- Pieces with the same between any two of them, read one by one up to the end that closes them. -/
theorem reads_joined {α : Type} (loop : Nat → List Char → Except ReadIssue (List α × List Char))
    (Piece : α → List Char → Prop) {fits : α → Prop} {blank gap : List Char} (rest : List Char)
    {close : Char} (hblank : Blank blank) (hbegins : ∀ {a cs}, Piece a cs → Begins cs)
    (hlast : ∀ {a cs fuel}, Piece a cs → 2 * cs.length ≤ fuel →
      Reads (loop (fuel + 1) (cs ++ (gap ++ close :: rest))) (fits a) [a] rest)
    (hmore : ∀ {a cs fuel more fitting as}, Piece a cs → 2 * cs.length ≤ fuel →
      Reads (loop fuel (skipSpace more)) fitting as rest →
        Reads (loop (fuel + 1) (cs ++ ',' :: more)) (fits a ∧ fitting) (a :: as) rest)
    {a : α} {as : List α} {cs : List Char} {texts : List (List Char)} (h : Piece a cs)
    (hs : List.Forall₂ Piece as texts)
    {fuel : Nat} (hfuel : 2 * ((',' :: blank).intercalate (cs :: texts)).length + 1 ≤ fuel) :
    Reads (loop fuel ((',' :: blank).intercalate (cs :: texts) ++ (gap ++ close :: rest)))
      (∀ b ∈ a :: as, fits b) (a :: as) rest := by
  obtain ⟨fuel, rfl⟩ : ∃ m, fuel = m + 1 := ⟨fuel - 1, by omega⟩
  induction hs generalizing a cs fuel with
  | nil =>
    rw [List.intercalate_singleton] at hfuel ⊢
    exact (hlast h (by omega)).of_iff (by simp)
  | @cons b next bs texts hb _ ih =>
    have hstart := (begins_intercalate (',' :: blank) (hbegins hb) texts).append (gap ++
      close :: rest)
    have hlater := ih hb
    rw [List.intercalate_cons_cons] at hfuel ⊢
    generalize (',' :: blank).intercalate (next :: texts) = later at hfuel hstart hlater ⊢
    simp only [List.length_append, List.length_cons] at hfuel
    -- The comma pays for the step that reads the piece in front of it.
    obtain ⟨fuel, rfl⟩ : ∃ m, fuel = m + 1 := ⟨fuel - 1, by omega⟩
    have hread := hlater fuel (by omega)
    have hcomma : skipSpace (blank ++ (later ++ (gap ++ close :: rest))) = later ++
        (gap ++ close :: rest) := by
      rw [skipSpace_of_blank hblank, hstart.skipSpace]
    have hwhole : cs ++ (',' :: blank) ++ later ++ (gap ++ close :: rest) =
        cs ++ ',' :: (blank ++ (later ++ (gap ++ close :: rest))) := by simp
    rw [← hcomma] at hread
    rw [hwhole]
    exact (hmore h (by omega) hread).of_iff (by simp)

section Loops
variable {limit fuel depth : Nat} {v : Value} {cs gap more rest : List Char}

theorem items_last (h : Spells v cs) (hgap : Blank gap) (hdepth : depth ≤ limit)
    (hfuel : 2 * cs.length ≤ fuel) :
    Reads (items limit (fuel + 1) depth (cs ++ (gap ++ ']' :: rest)))
      (depth + v.nesting ≤ limit) [v] rest := by
  have hvalue := h.reads limit hfuel hdepth (ends_of_blank hgap (.inl rfl) rest)
  have hclose : skipSpace (gap ++ ']' :: rest) = ']' :: rest :=
    (skipSpace_of_blank hgap _).trans rfl
  unfold items
  refine (hvalue.bind True (.of_ok ?_ trivial)).of_iff (and_iff_left trivial)
  dsimp only
  rw [hclose]
  rfl

theorem items_more (h : Spells v cs) (hdepth : depth ≤ limit) (hfuel : 2 * cs.length ≤ fuel)
    {fits : Prop} {xs : List Value}
    (hmore : Reads (items limit fuel depth (skipSpace more)) fits xs rest) :
    Reads (items limit (fuel + 1) depth (cs ++ ',' :: more)) (depth + v.nesting ≤ limit ∧
      fits) (v :: xs) rest := by
  have hvalue := h.reads limit hfuel hdepth (ends_cons (c := ',') (by decide) more)
  unfold items
  refine hvalue.bind fits ?_
  dsimp only
  rw [skipSpace_cons (by decide)]
  refine Reads.of_iff (hmore.bind True ?_) (and_iff_left trivial)
  exact .of_ok rfl trivial

theorem fields_quoted (limit fuel depth : Nat) (key : String) (hbegins : Begins cs) :
    fields limit (fuel + 1) depth (quoted key ++ ':' :: ' ' :: cs) = (do
      let (v, rest) ← value limit fuel depth cs
      match skipSpace rest with
      | '\x7d' :: rest => return ([(.text key, v)], rest)
      | ',' :: rest =>
        let (entries, rest) ← fields limit fuel depth (skipSpace rest)
        return ((.text key, v) :: entries, rest)
      | _ => throw .malformed) := by
  have hcolon : skipSpace (':' :: ' ' :: cs) = ':' :: ' ' :: cs := skipSpace_cons (by decide) _
  have hvalue : skipSpace (' ' :: cs) = cs :=
    (List.dropWhile_cons_of_pos rfl).trans hbegins.skipSpace
  unfold quoted
  rw [List.cons_append, List.cons_append, List.append_assoc, List.singleton_append, fields,
    string_quoted]
  refine Eq.trans ?_ (congrArg (fun cs' => value limit fuel depth cs' >>= _) hvalue)
  dsimp only [bind, Except.bind]
  rw [hcolon]
  rfl

/-- The text spells the entry: its key, and then its value. -/
inductive SpellsEntry : Value × Value → List Char → Prop
  | mk {key : String} {v : Value} {cs : List Char} : Spells v cs →
    SpellsEntry (.text key, v) (quoted key ++ ':' :: ' ' :: cs)

theorem SpellsEntry.begins {e : Value × Value} (h : SpellsEntry e cs) : Begins cs := by
  cases h
  exact begins_cons (by decide) _

variable {e : Value × Value}

theorem fields_last (h : SpellsEntry e cs) (hgap : Blank gap) (hdepth : depth ≤ limit)
    (hfuel : 2 * cs.length ≤ fuel) :
    Reads (fields limit (fuel + 1) depth (cs ++ (gap ++ '\x7d' :: rest)))
      (depth + e.2.nesting ≤ limit) [e] rest := by
  cases h with
  | @mk key v cs hv =>
    simp only [List.length_append, List.length_cons] at hfuel
    have hvalue := hv.reads limit (show 2 * cs.length ≤ fuel by omega) hdepth
      (ends_of_blank hgap (.inr rfl) rest)
    have hclose : skipSpace (gap ++ '\x7d' :: rest) = '\x7d' :: rest :=
      (skipSpace_of_blank hgap _).trans rfl
    rw [List.append_assoc, List.cons_append, List.cons_append,
      fields_quoted _ _ _ _ (hv.begins.append _)]
    refine (hvalue.bind True (.of_ok ?_ trivial)).of_iff (and_iff_left trivial)
    dsimp only
    rw [hclose]
    rfl

theorem fields_more (h : SpellsEntry e cs) (hdepth : depth ≤ limit) (hfuel : 2 * cs.length ≤ fuel)
    {fits : Prop} {es : List (Value × Value)}
    (hmore : Reads (fields limit fuel depth (skipSpace more)) fits es rest) :
    Reads (fields limit (fuel + 1) depth (cs ++ ',' :: more)) (depth + e.2.nesting ≤ limit ∧
      fits) (e :: es) rest := by
  cases h with
  | @mk key v cs hv =>
    simp only [List.length_append, List.length_cons] at hfuel
    have hvalue := hv.reads limit (show 2 * cs.length ≤ fuel by omega) hdepth
      (ends_cons (c := ',') (by decide) more)
    rw [List.append_assoc, List.cons_append, List.cons_append,
      fields_quoted _ _ _ _ (hv.begins.append _)]
    refine hvalue.bind fits ?_
    dsimp only
    rw [skipSpace_cons (by decide)]
    refine Reads.of_iff (hmore.bind True ?_) (and_iff_left trivial)
    exact .of_ok rfl trivial

theorem nestingOfItems_le (hdepth : depth ≤ limit) {xs : List Value} :
    (∀ x ∈ xs, depth + x.nesting ≤ limit) ↔ depth + Value.nestingOfItems xs ≤ limit := by
  induction xs with
  | nil => simpa [Value.nestingOfItems] using hdepth
  | cons x xs ih =>
    rw [List.forall_mem_cons, ih, Value.nestingOfItems]
    omega

theorem reads_items (h : Spells v cs) {xs : List Value} {texts : List (List Char)}
    (hs : List.Forall₂ Spells xs texts) {blank : List Char} (hblank : Blank blank)
    (hgap : Blank gap) (hdepth : depth ≤ limit) (rest : List Char)
    (hfuel : 2 * ((',' :: blank).intercalate (cs :: texts)).length + 1 ≤ fuel) :
    Reads (items limit fuel depth ((',' :: blank).intercalate (cs :: texts) ++
      (gap ++ ']' :: rest)))
      (depth + Value.nestingOfItems (v :: xs) ≤ limit) (v :: xs) rest := by
  have hread := reads_joined (items limit · depth) Spells rest hblank Spells.begins
    (fun h => items_last h hgap hdepth) (fun h hlong hmore => items_more h hdepth hlong hmore)
    h hs hfuel
  exact hread.of_iff (nestingOfItems_le hdepth)

theorem nestingOfEntries_le (hdepth : depth ≤ limit) {es : List (Value × Value)} :
    (∀ e ∈ es, depth + e.2.nesting ≤ limit) ↔ depth + Value.nestingOfEntries es ≤ limit := by
  induction es with
  | nil => simpa [Value.nestingOfEntries] using hdepth
  | cons e es ih =>
    rw [List.forall_mem_cons, ih, Value.nestingOfEntries]
    omega

theorem reads_fields (h : SpellsEntry e cs) {es : List (Value × Value)} {texts : List (List Char)}
    (hs : List.Forall₂ SpellsEntry es texts) {blank : List Char} (hblank : Blank blank)
    (hgap : Blank gap) (hdepth : depth ≤ limit) (rest : List Char)
    (hfuel : 2 * ((',' :: blank).intercalate (cs :: texts)).length + 1 ≤ fuel) :
    Reads (fields limit fuel depth ((',' :: blank).intercalate (cs :: texts) ++
      (gap ++ '\x7d' :: rest)))
      (depth + Value.nestingOfEntries (e :: es) ≤ limit) (e :: es) rest := by
  have hread := reads_joined (fields limit · depth) SpellsEntry rest hblank SpellsEntry.begins
    (fun h => fields_last h hgap hdepth) (fun h hlong hmore => fields_more h hdepth hlong hmore)
    h hs hfuel
  exact hread.of_iff (nestingOfEntries_le hdepth)

end Loops

def entries (fs : List (String × Value)) : List (Value × Value) := fs.map fun (k, v) => (.text k, v)

theorem insert_entries {fs : List (String × Value)} {key : String} (h : key ∉ fs.map Prod.fst)
    (v : Value) :
    Entries.insert (entries fs) (.text key) v = entries (fs ++ [(key, v)]) := by
  induction fs with
  | nil => rfl
  | cons f fs ih =>
    rw [List.map_cons, List.mem_cons, not_or] at h
    have hother : (Value.text f.1).sameKey (.text key) = false := by
      rw [Value.sameKey_text, beq_eq_false_iff_ne]
      exact Ne.symm h.1
    have hrest := ih h.2
    simp only [entries, List.map_cons, List.cons_append, Entries.insert, hother] at hrest ⊢
    rw [hrest]
    rfl

/-- Of keys that differ nothing is lost. -/
theorem ofList_entries {fs : List (String × Value)} (h : (fs.map Prod.fst).Nodup) :
    Entries.ofList (entries fs) = entries fs := by
  have hfold : ∀ (rest before : List (String × Value)), ((before ++ rest).map Prod.fst).Nodup →
      (entries rest).foldl (fun es e => Entries.insert es e.1 e.2) (entries before) =
      entries (before ++ rest) := by
    intro rest
    induction rest with
    | nil => simp [entries]
    | cons f rest ih =>
      intro before hnodup
      have hnew : f.1 ∉ before.map Prod.fst := by
        intro hmem
        rw [List.map_append] at hnodup
        exact (List.nodup_append.1 hnodup).2.2 _ hmem _ (by simp) rfl
      have hsplit : before ++ f :: rest = (before ++ [f]) ++ rest := by simp
      rw [hsplit] at hnodup ⊢
      rw [← ih (before ++ [f]) hnodup, ← insert_entries hnew f.2]
      rfl
  exact hfold fs [] h

theorem Reads.guarded {out : Except ReadIssue (Value × List Char)} {limit depth n : Nat} {v : Value}
    {rest : List Char} (isArray : Bool)
    (h : depth < limit → Reads out (depth + 1 + n ≤ limit) v rest) :
    Reads (if limit ≤ depth then .error (.tooDeep isArray) else out)
      (depth + (n + 1) ≤ limit) v rest := by
  by_cases hfull : limit ≤ depth
  · rw [if_pos hfull]
    exact ⟨fun hfits => by omega, fun _ => ⟨isArray, rfl⟩⟩
  · rw [if_neg hfull]
    exact (h (by omega)).of_iff (by omega)

/-- Behind an opening bracket and some space stand the pieces, up to the closing one. -/
theorem bracket_opens (l : Layout) (level : Nat) (left right : Char) {cs : List Char}
    (h : Begins cs) (texts : List (List Char)) (rest : List Char) :
    ∃ blank gap opened, Blank blank ∧ Blank gap ∧ l.bracket level left (cs :: texts) right ++
      rest = left :: opened ∧
      skipSpace opened = (',' :: blank).intercalate (cs :: texts) ++ (gap ++ right :: rest) ∧
      ((',' :: blank).intercalate (cs :: texts)).length + 2 ≤
      (l.bracket level left (cs :: texts) right).length := by
  obtain ⟨blank, hseparator, hblank⟩ := separator_eq l (level + 1)
  have hbegins := (begins_intercalate (',' :: blank) h texts).append
    (l.lineBreak level ++ right :: rest)
  refine ⟨blank, l.lineBreak level, l.lineBreak (level + 1) ++
    ((',' :: blank).intercalate (cs :: texts) ++
    (l.lineBreak level ++ right :: rest)), hblank, blank_lineBreak l level, ?_, ?_, ?_⟩
  · simp [Layout.bracket, hseparator]
  · rw [skipSpace_of_blank (blank_lineBreak l _), hbegins.skipSpace]
  · simp only [Layout.bracket, hseparator, List.isEmpty_cons, Bool.false_eq_true,
      if_false, List.length_append, List.length_cons, List.length_nil]
    omega

theorem begins_bracket (l : Layout) (level : Nat) {left : Char}
    (h : isSpace left = false ∧ left ≠ ']' ∧ left ≠ '\x7d') (texts : List (List Char))
    (right : Char) : Begins (l.bracket level left texts right) := by
  unfold Layout.bracket
  split <;> exact begins_cons h _

theorem spells_list {xs : List Value} {texts : List (List Char)} (h : List.Forall₂ Spells xs texts)
    (l : Layout) (level : Nat) : Spells (.list xs) (l.bracket level '[' texts ']') where
  begins := begins_bracket l level (by decide) texts ']'
  reads := by
    intro limit fuel depth rest hfuel hdepth hrest
    cases h with
    | nil =>
      obtain ⟨fuel, rfl⟩ : ∃ m, fuel = m + 1 := ⟨fuel - 1, by simp [Layout.bracket] at hfuel; omega⟩
      have htext : l.bracket level '[' [] ']' ++ rest = '[' :: ']' :: rest := rfl
      rw [htext, value]
      refine Reads.guarded (n := 0) true fun hroom => .of_ok ?_ hroom
      rw [skipSpace_cons (by decide)]
      rfl
    | @cons x cs xs texts hx hxs =>
      obtain ⟨blank, gap, opened, hblank, hgap, htext, hopen, hlength⟩ :=
        bracket_opens l level '[' ']' hx.begins texts rest
      obtain ⟨fuel, rfl⟩ : ∃ m, fuel = m + 1 := ⟨fuel - 1, by omega⟩
      rw [htext, value]
      refine Reads.guarded (n := Value.nestingOfItems (x :: xs)) true fun hroom => ?_
      have henough : 2 * ((',' :: blank).intercalate (cs :: texts)).length + 1 ≤ fuel := by omega
      have hitems := reads_items hx hxs hblank hgap hroom rest henough
      obtain ⟨c, tail, hstart, -, hclose, -⟩ :=
        (begins_intercalate (',' :: blank) hx.begins texts).append (gap ++ ']' :: rest)
      rw [hstart] at hitems
      rw [hopen, hstart]
      split
      · next heq => exact absurd (List.cons.inj heq).1 hclose
      · refine Reads.of_iff (hitems.bind True ?_) (and_iff_left trivial)
        exact .of_ok rfl trivial

theorem spells_record {fs : List (String × Value)} {texts : List (List Char)}
    (hkeys : (fs.map Prod.fst).Nodup) (h : List.Forall₂ SpellsEntry (entries fs) texts) (l : Layout)
    (level : Nat) :
    Spells (.record fs) (l.bracket level '\x7b' texts '\x7d') where
  begins := begins_bracket l level (by decide) texts '\x7d'
  reads := by
    intro limit fuel depth rest hfuel hdepth hrest
    have hentries := ofList_entries hkeys
    have hrecord : Value.record fs = .mapping (entries fs) := rfl
    rw [hrecord]
    generalize entries fs = es at h hentries ⊢
    cases h with
    | nil =>
      obtain ⟨fuel, rfl⟩ : ∃ m, fuel = m + 1 := ⟨fuel - 1, by simp [Layout.bracket] at hfuel; omega⟩
      have htext : l.bracket level '\x7b' [] '\x7d' ++ rest = '\x7b' :: '\x7d' :: rest := rfl
      rw [htext, value]
      refine Reads.guarded (n := 0) false fun hroom => .of_ok ?_ hroom
      rw [skipSpace_cons (by decide)]
      rfl
    | @cons e cs es texts he hes =>
      obtain ⟨blank, gap, opened, hblank, hgap, htext, hopen, hlength⟩ :=
        bracket_opens l level '\x7b' '\x7d' he.begins texts rest
      obtain ⟨fuel, rfl⟩ : ∃ m, fuel = m + 1 := ⟨fuel - 1, by omega⟩
      rw [htext, value]
      refine Reads.guarded (n := Value.nestingOfEntries (e :: es)) false fun hroom => ?_
      have henough : 2 * ((',' :: blank).intercalate (cs :: texts)).length + 1 ≤ fuel := by omega
      have hfields := reads_fields he hes hblank hgap hroom rest henough
      obtain ⟨c, tail, hstart, -, -, hclose⟩ :=
        (begins_intercalate (',' :: blank) he.begins texts).append (gap ++ '\x7d' :: rest)
      rw [hstart] at hfields
      rw [hopen, hstart]
      split
      · next heq => exact absurd (List.cons.inj heq).1 hclose
      · refine (hfields.bind True ?_).of_iff (and_iff_left trivial)
        dsimp only
        rw [hentries]
        exact .of_ok rfl trivial

end Json
end StepFlow
