import StepFlow.Json.Writer
import StepFlow.Proofs.Fault.Sequence
import StepFlow.Proofs.Text.Ascii

/-!
# JSON on one line

A value that is written compactly takes one line of ASCII, whatever characters stand in its texts,
in its keys and in the texts of the objects inside it.
-/
namespace StepFlow

open Text

theorem Binary64.asciiLine_layout (l : Binary64.Layout) {ds : List Char} (hds : AsciiLine ds)
    (place : Int) :
    AsciiLine (l.write ds place) := by
  have hzeros : ∀ n, AsciiLine (List.replicate n '0') := asciiLine_replicate (by decide)
  have htake : ∀ n, AsciiLine (ds.take n) := fun n => hds.of_subset fun _ => List.mem_of_mem_take
  have hdrop : ∀ n, AsciiLine (ds.drop n) := fun n => hds.of_subset fun _ => List.mem_of_mem_drop
  unfold Layout.write
  split
  · split
    · simp [hzeros, hds]
    · have hfraction : AsciiLine (if (ds.drop place.toNat).isEmpty then ['0']
        else ds.drop place.toNat) := by
        split
        · simp [asciiLine_nil]
        · exact hdrop _
      simp only [asciiLine_append, asciiLine_cons]
      exact ⟨⟨htake _, hzeros _⟩, by decide, hfraction⟩
  · have hpoint : AsciiLine (if ds.length ≤ 1 then [] else '.' :: ds.drop 1) := by
      split
      · exact asciiLine_nil
      · rw [asciiLine_cons]
        exact ⟨by decide, hdrop 1⟩
    have hsign : 0x20 ≤ (if place - 1 < 0 then '-' else '+').toNat ∧
        (if place - 1 < 0 then '-' else '+').toNat ≤ 0x7E := by
      split <;> decide
    have hexponent := asciiLine_decimal (place - 1).natAbs
    simp only [asciiLine_append, asciiLine_cons]
    exact ⟨⟨htake 1, hpoint⟩, by decide, hsign, hzeros _, hexponent⟩

theorem Binary64.asciiLine_shortest (m : Nat) (q : Int) : AsciiLine (shortest m q).1 := by
  unfold shortest
  dsimp only
  generalize (Interval.search _ _ _).1 = n
  refine (asciiLine_decimal n).of_subset ?_
  intro c hc
  rw [List.mem_reverse] at hc
  exact List.mem_reverse.1 ((List.dropWhile_sublist _).subset hc)

theorem Binary64.asciiLine_write {infinity noNumber : String}
    (hinfinity : AsciiLine infinity.toList) (hnoNumber : AsciiLine noNumber.toList) (x : Binary64) :
    AsciiLine (x.write infinity noNumber).toList := by
  have hminus : AsciiLine "-".toList := by simp [asciiLine_nil]
  unfold write
  split
  · next negative m q =>
    have hbody : AsciiLine (if m = 0 then "0.0" else
        String.ofList (Layout.write {} (shortest m q).1 (shortest m q).2)).toList := by
      split
      · simp [asciiLine_nil]
      · rw [String.toList_ofList]
        exact asciiLine_layout _ (asciiLine_shortest m q) _
    dsimp only
    split
    · rw [String.toList_append, asciiLine_append]
      exact ⟨hminus, hbody⟩
    · exact hbody
  · split
    · rw [String.toList_append, asciiLine_append]
      exact ⟨hminus, hinfinity⟩
    · exact hinfinity
  · exact hnoNumber

theorem Value.asciiLine_intText {n : Int} {s : String} (h : intText n = .ok s) :
    AsciiLine s.toList := by
  unfold intText at h
  split at h
  · cases h
  · cases h
    cases n with
    | ofNat n =>
      rw [toList_toString_ofNat]
      exact asciiLine_decimal n
    | negSucc n =>
      rw [toList_toString_negSucc, asciiLine_cons]
      exact ⟨by decide, asciiLine_decimal (n + 1)⟩

namespace Json

theorem asciiLine_escapeChar (c : Char) : AsciiLine (escapeChar c) := by
  unfold escapeChar
  split
  · simp [asciiLine_nil]
  split
  · simp [asciiLine_nil]
  split
  · simp [asciiLine_nil]
  split
  · simp [asciiLine_nil]
  split
  · simp [asciiLine_nil]
  split
  · simp [asciiLine_nil]
  split
  · simp [asciiLine_nil]
  split
  · next hplain =>
    rw [asciiLine_cons]
    exact ⟨⟨hplain.1, Nat.le_of_lt_succ hplain.2⟩, asciiLine_nil⟩
  · rw [List.flatMap_def]
    apply asciiLine_flatten
    intro piece hpiece
    obtain ⟨n, -, rfl⟩ := List.mem_map.1 hpiece
    simp only [asciiLine_cons]
    exact ⟨by decide, by decide, asciiLine_hex 4 n⟩

theorem asciiLine_quoted (s : String) : AsciiLine (quoted s) := by
  have hbody : AsciiLine (s.toList.flatMap escapeChar) := by
    rw [List.flatMap_def]
    apply asciiLine_flatten
    intro piece hpiece
    obtain ⟨c, -, rfl⟩ := List.mem_map.1 hpiece
    exact asciiLine_escapeChar c
  unfold quoted
  simp [asciiLine_nil, hbody]

theorem asciiLine_bracket {depth : Nat} {left right : Char} {items : List (List Char)}
    (hleft : 0x20 ≤ left.toNat ∧ left.toNat ≤ 0x7E)
    (hright : 0x20 ≤ right.toNat ∧ right.toNat ≤ 0x7E) (hitems : ∀ item ∈ items, AsciiLine item) :
    AsciiLine (compact.bracket depth left items right) := by
  have hseparator : AsciiLine [',', ' '] := by simp [asciiLine_nil]
  have hinside := asciiLine_intercalate hseparator hitems
  unfold Layout.bracket
  split
  · simp [asciiLine_nil, hleft, hright]
  · simp only [asciiLine_append, asciiLine_cons]
    exact ⟨⟨⟨⟨hleft, asciiLine_nil⟩, hinside⟩, asciiLine_nil⟩, hright, asciiLine_nil⟩

theorem asciiLine_boolText (b : Bool) : AsciiLine (boolText b).toList := by
  cases b <;> simp [boolText, asciiLine_nil]

theorem asciiLine_realText (x : Binary64) : AsciiLine (realText x).toList :=
  x.asciiLine_write (by simp [asciiLine_nil]) (by simp [asciiLine_nil])

mutual
theorem asciiLine_write (v : Value) {depth : Nat} {cs : List Char}
    (h : write compact depth v = .ok cs) :
    AsciiLine cs := by
  unfold write at h
  cases v with
  | null =>
    cases h
    simp [asciiLine_nil]
  | bool b =>
    cases h
    exact asciiLine_boolText b
  | int n =>
    obtain ⟨s, htext, hpure⟩ := bind_eq_ok.1 h
    cases hpure
    exact Value.asciiLine_intText (mapError_eq_ok.1 htext)
  | float x =>
    cases h
    exact asciiLine_realText x
  | text s =>
    cases h
    exact asciiLine_quoted s
  | list xs | tuple xs =>
    obtain ⟨items, hitems, hpure⟩ := bind_eq_ok.1 h
    cases hpure
    exact asciiLine_bracket (by decide) (by decide) (asciiLine_writeItems xs hitems)
  | mapping es =>
    obtain ⟨items, hitems, hpure⟩ := bind_eq_ok.1 h
    cases hpure
    exact asciiLine_bracket (by decide) (by decide) (asciiLine_writeEntries es hitems)
  | bytes | set | date | moment | object | envelope | «sealed» | unprintable | uncounted =>
    -- Whatever the text of the object holds is quoted like any other text.
    obtain ⟨s, -, hpure⟩ := bind_eq_ok.1 h
    cases hpure
    exact asciiLine_quoted s

theorem asciiLine_writeItems (xs : List Value) {depth : Nat} {items : List (List Char)}
    (h : writeItems compact depth xs = .ok items) : ∀ item ∈ items, AsciiLine item := by
  unfold writeItems at h
  cases xs with
  | nil =>
    cases h
    nofun
  | cons x xs =>
    obtain ⟨item, hitem, hrest⟩ := bind_eq_ok.1 h
    obtain ⟨items, hitems, hpure⟩ := bind_eq_ok.1 hrest
    cases hpure
    exact List.forall_mem_cons.2 ⟨asciiLine_write x hitem, asciiLine_writeItems xs hitems⟩

theorem asciiLine_writeEntries (es : List (Value × Value)) {depth : Nat} {items : List (List Char)}
    (h : writeEntries compact depth es = .ok items) : ∀ item ∈ items, AsciiLine item := by
  unfold writeEntries at h
  match es with
  | [] =>
    cases h
    nofun
  | (k, v) :: es =>
    obtain ⟨key, -, hrest⟩ := bind_eq_ok.1 h
    obtain ⟨value, hvalue, hrest⟩ := bind_eq_ok.1 hrest
    obtain ⟨items, hitems, hpure⟩ := bind_eq_ok.1 hrest
    cases hpure
    have hentry : AsciiLine (quoted key ++ ':' :: ' ' :: value) := by
      simp [asciiLine_quoted, asciiLine_write v hvalue]
    exact List.forall_mem_cons.2 ⟨hentry, asciiLine_writeEntries es hitems⟩
end

end Json
end StepFlow
