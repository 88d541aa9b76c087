import Mathlib.Data.List.Basic
import StepFlow.Proofs.Prompt.Template

/-!
# The pass over a template

A token has an opening brace only as its first character and a closing one only as its last. So
tokens do not overlap, and the split of a template finds each of them, whatever stands around it.
What is put in the place of a token is not looked at again.
-/
namespace StepFlow.Template

def IsName (name : List Char) : Prop := name ≠ [] ∧ ∀ c ∈ name, Text.isWord c = true

instance (name : List Char) : Decidable (IsName name) :=
  decidable_of_iff (name ≠ [] ∧ name.all Text.isWord = true) <| by rw [IsName, List.all_eq_true]

def braced (body : List Char) : List Char := '\x7b' :: body ++ ['\x7d']

/-- A token of this name stands in a text, between these parts of it. -/
structure Occurs (cs before name after : List Char) : Prop where
  isName : IsName name
  text : cs = before ++ braced name ++ after

def Plain (cs : List Char) : Prop := ∀ before name after, ¬Occurs cs before name after

/-- The cut of a text at its leftmost tokens, that do not overlap: the tokens, each with the text
before it, and the text after the last. -/
inductive Cut : List Char → List (List Char × List Char) → List Char → Prop
  | last {cs : List Char} : Plain cs → Cut cs [] cs
  | token {cs text name rest last : List Char} {pieces : List (List Char × List Char)} :
    Occurs cs text name rest →
    (∀ before name' after, Occurs cs before name' after → text.length ≤ before.length) →
      Cut rest pieces last → Cut cs ((text, name) :: pieces) last

/-- A token begins in the one text and ends in the other when they are put together. -/
def Straddles (a b : List Char) : Prop :=
  ∃ before head tail after name, IsName name ∧ braced name = head ++ tail ∧ head ≠ [] ∧ tail ≠ [] ∧
    a = before ++ head ∧ b = tail ++ after

section Tokens
variable {cs name rest before after : List Char} {c : Char}

theorem isWord_open : Text.isWord '\x7b' = false := by decide

theorem isWord_close : Text.isWord '\x7d' = false := by decide

theorem IsName.not_mem_open (h : IsName name) : '\x7b' ∉ name :=
  fun hmem => by cases isWord_open.symm.trans (h.2 _ hmem)

theorem IsName.not_mem_close (h : IsName name) : '\x7d' ∉ name :=
  fun hmem => by cases isWord_close.symm.trans (h.2 _ hmem)

theorem token?_eq_some_iff : token? cs = some (name, rest) ↔ IsName name ∧
    cs = name ++ '\x7d' :: rest := by
  constructor
  · intro h
    unfold token? at h
    dsimp only at h
    split at h
    · next rest' hrest =>
      split at h
      · cases h
      · next hname =>
        cases h
        have hword := List.all_eq_true.1 (List.all_takeWhile (p := Text.isWord) (l := cs))
        refine ⟨⟨by simpa using hname, hword⟩, ?_⟩
        rw [← hrest, List.takeWhile_append_dropWhile]
    · cases h
  · rintro ⟨⟨hne, hword⟩, rfl⟩
    have htake : (name ++ '\x7d' :: rest).takeWhile Text.isWord = name := by
      rw [List.takeWhile_append_of_pos hword, List.takeWhile_cons_of_neg (by simp [isWord_close]),
        List.append_nil]
    have hdrop : (name ++ '\x7d' :: rest).dropWhile Text.isWord = '\x7d' :: rest := by
      rw [List.dropWhile_append_of_pos hword, List.dropWhile_cons_of_neg (by simp [isWord_close])]
    unfold token?
    simp [htake, hdrop, hne]

theorem tokenAt?_eq_some_iff : tokenAt? c cs = some (name, rest) ↔ IsName name ∧
    c :: cs = braced name ++ rest := by
  unfold tokenAt? braced
  by_cases hc : c = '\x7b'
  · rw [if_pos hc, token?_eq_some_iff, hc]
    simp
  · rw [if_neg hc]
    simp [hc]

theorem occurs_cons : Occurs (c :: cs) before name after ↔
    before = [] ∧ tokenAt? c cs = some (name, after) ∨ ∃ before', before = c :: before' ∧
      Occurs cs before' name after := by
  constructor
  · rintro ⟨hname, htext⟩
    cases before with
    | nil => exact .inl ⟨rfl, tokenAt?_eq_some_iff.2 ⟨hname, htext⟩⟩
    | cons d before' =>
      rw [List.cons_append, List.cons_append] at htext
      obtain ⟨rfl, hrest⟩ := List.cons.inj htext
      exact .inr ⟨before', rfl, hname, hrest⟩
  · rintro (⟨rfl, htoken⟩ | ⟨before', rfl, hname, rfl⟩)
    · obtain ⟨hname, htext⟩ := tokenAt?_eq_some_iff.1 htoken
      exact ⟨hname, htext⟩
    · exact ⟨hname, rfl⟩

theorem Plain.tail (h : Plain (c :: cs)) : Plain cs :=
  fun before name after hoccurs =>
    h (c :: before) name after (occurs_cons.2 (.inr ⟨before, rfl, hoccurs⟩))

theorem Plain.tokenAt?_eq_none (h : Plain (c :: cs)) : tokenAt? c cs = none := by
  cases htoken : tokenAt? c cs with
  | none => rfl
  | some found => exact (h [] found.1 found.2 (occurs_cons.2 (.inl ⟨rfl, htoken⟩))).elim

theorem plain_cons (htoken : tokenAt? c cs = none) (h : Plain cs) : Plain (c :: cs) := by
  intro before name after hoccurs
  rcases occurs_cons.1 hoccurs with ⟨-, hfound⟩ | ⟨before', -, hlater⟩
  · cases htoken.symm.trans hfound
  · exact h before' name after hlater

theorem plain_nil : Plain [] := by
  intro before name after hoccurs
  have htext := hoccurs.text
  simp [braced] at htext

end Tokens

/-! ## The segments of a text -/

section Segments
variable {cs rest name a b : List Char} {c : Char}

@[simp]
theorem segments_nil : segments [] = [] := by
  rw [segments]

theorem segments_of_token (h : tokenAt? c cs = some (name, rest)) :
    segments (c :: cs) = .token name :: segments rest := by
  rw [segments]
  split
  · next hfound =>
    cases h.symm.trans hfound
    rfl
  · next hnone => cases h.symm.trans hnone

theorem segments_of_char (h : tokenAt? c cs = none) :
    segments (c :: cs) = .char c :: segments cs := by
  rw [segments]
  split
  · next hfound => cases h.symm.trans hfound
  · rfl

theorem segments_braced (hname : IsName name) :
    segments (braced name ++ rest) = .token name :: segments rest :=
  segments_of_token (tokenAt?_eq_some_iff.2 ⟨hname, rfl⟩)

theorem segments_of_plain (h : Plain cs) : segments cs = cs.map .char := by
  induction cs with
  | nil => exact segments_nil
  | cons c cs ih => rw [segments_of_char h.tokenAt?_eq_none, ih h.tail, List.map_cons]

theorem plain_braced (hname : ¬IsName name) (hopen : '\x7b' ∉ name) (hclose : '\x7d' ∉ name) :
    Plain (braced name) := by
  intro before name' after hoccurs
  rcases occurs_cons.1 hoccurs with ⟨-, htoken⟩ | ⟨before', -, hinner⟩
  · obtain ⟨hname', htext⟩ := tokenAt?_eq_some_iff.1 htoken
    have hsame : name ++ '\x7d' :: [] = name' ++ '\x7d' :: after := by simpa [braced] using htext
    obtain ⟨rfl, -⟩ := (List.append_cons_inj_of_notMem hclose List.not_mem_nil).1 hsame
    exact hname hname'
  · have htext : name ++ ['\x7d'] = before' ++ braced name' ++ after := hinner.text
    have hmem : '\x7b' ∈ name ++ ['\x7d'] := by
      rw [htext]
      simp [braced]
    exact hopen (by simpa using hmem)

theorem Straddles.append (h : Straddles a b) (before : List Char) : Straddles (before ++ a) b := by
  obtain ⟨earlier, head, tail, after, name, hname, htoken, hhead, htail, rfl, rfl⟩ := h
  exact ⟨before ++ earlier, head, tail, after, name, hname, htoken, hhead,
    htail, by rw [List.append_assoc], rfl⟩

theorem tokenAt?_append (h : ¬Straddles (c :: cs) b) (htoken : tokenAt? c cs = none) :
    tokenAt? c (cs ++ b) = none := by
  cases hfound : tokenAt? c (cs ++ b) with
  | none => rfl
  | some found =>
    obtain ⟨hname, htext⟩ := tokenAt?_eq_some_iff.1 hfound
    rw [← List.cons_append] at htext
    rcases List.append_eq_append_iff.1 htext with ⟨tail, hbraced, hb⟩ | ⟨rest, hcs, -⟩
    · cases tail with
      | nil =>
        rw [List.append_nil] at hbraced
        cases htoken.symm.trans (tokenAt?_eq_some_iff.2 ⟨hname,
          hbraced.symm.trans (List.append_nil _).symm⟩)
      | cons d tail => exact (h ⟨[], _, _, _, _, hname, hbraced, by simp, by simp, rfl, hb⟩).elim
    · cases htoken.symm.trans (tokenAt?_eq_some_iff.2 ⟨hname, hcs⟩)

/-- Where no token begins in the one text and ends in the other, the segments are those of both. -/
theorem segments_append (h : ¬Straddles a b) : segments (a ++ b) = segments a ++ segments b := by
  -- By the segments of the first text. What is left of it after one of them straddles only where
  -- the whole does.
  induction a using segments.induct with
  | case1 => rw [segments_nil]; rfl
  | case2 c cs name rest htoken hlength ih =>
    obtain ⟨hname, htext⟩ := tokenAt?_eq_some_iff.1 htoken
    have hrest : ¬Straddles rest b := fun hstraddles => h (htext ▸ hstraddles.append (braced name))
    rw [segments_of_token htoken, htext, List.append_assoc, segments_braced hname,
      ih hrest, List.cons_append]
  | case3 c cs htoken ih =>
    have hcs : ¬Straddles cs b := fun hstraddles => h (hstraddles.append [c])
    have hnone : tokenAt? c (cs ++ b) = none := tokenAt?_append h htoken
    rw [List.cons_append, segments_of_char hnone, segments_of_char htoken, ih hcs, List.cons_append]

theorem not_straddles_open : ¬Straddles a ('\x7b' :: b) := by
  rintro ⟨before, head, tail, after, name, hname, hbraced, hhead, htail, -, hb⟩
  cases head with
  | nil => exact hhead rfl
  | cons d head =>
    cases tail with
    | nil => exact htail rfl
    | cons e tail =>
      -- Behind its first character a token has no opening brace.
      obtain ⟨rfl, -⟩ := List.cons.inj hb
      have hinner : name ++ ['\x7d'] = head ++ '\x7b' :: tail := (List.cons.inj hbraced).2
      have hmem : '\x7b' ∈ name ++ ['\x7d'] := hinner ▸ List.mem_append_right _ List.mem_cons_self
      exact hname.not_mem_open (by simpa using hmem)

theorem not_straddles_close : ¬Straddles (a ++ ['\x7d']) b := by
  rintro ⟨before, head, tail, after, name, hname, hbraced, hhead, htail, ha, -⟩
  -- Before its last character a token has no closing brace.
  have hinner : '\x7b' :: name = head ++ tail.dropLast := by
    have hdropped := congrArg List.dropLast hbraced
    rwa [List.dropLast_append_of_ne_nil htail, braced, List.dropLast_concat] at hdropped
  have hends : '\x7d' ∈ head := by
    obtain ⟨inner, d, rfl⟩ := (List.eq_nil_or_concat head).resolve_left hhead
    rw [List.concat_eq_append, ← List.append_assoc] at ha
    obtain ⟨-, hd⟩ := List.append_inj' ha rfl
    cases hd
    simp
  have hmem : '\x7d' ∈ '\x7b' :: name := hinner ▸ List.mem_append_left _ hends
  exact hname.not_mem_close (by simpa using hmem)

theorem segments_of_occurs {before after : List Char} (h : Occurs cs before name after) :
    segments cs = segments before ++ .token name :: segments after := by
  obtain ⟨hname, rfl⟩ := h
  have hsplit : segments (before ++ (braced name ++ after)) = segments before ++
      segments (braced name ++ after) :=
    segments_append not_straddles_open
  rw [List.append_assoc, hsplit, segments_braced hname]

theorem occurs_of_mem (h : .token name ∈ segments cs) :
    ∃ before after, Occurs cs before name after := by
  induction cs using segments.induct with
  | case1 => simp at h
  | case2 c cs name' rest htoken hlength ih =>
    rw [segments_of_token htoken] at h
    obtain ⟨hname, htext⟩ := tokenAt?_eq_some_iff.1 htoken
    rcases List.mem_cons.1 h with hfirst | hrest
    · cases hfirst
      exact ⟨[], rest, hname, htext⟩
    · obtain ⟨before, after, hoccurs⟩ := ih hrest
      refine ⟨braced name' ++ before, after, hoccurs.isName, ?_⟩
      rw [htext, hoccurs.text]
      simp
  | case3 c cs htoken ih =>
    rw [segments_of_char htoken] at h
    rcases List.mem_cons.1 h with hfirst | hrest
    · cases hfirst
    · obtain ⟨before, after, hoccurs⟩ := ih hrest
      exact ⟨c :: before, after, occurs_cons.2 (.inr ⟨before, rfl, hoccurs⟩)⟩

/-- The segments of a text make it up. -/
theorem flatMap_source (cs : List Char) : (segments cs).flatMap Segment.source = cs := by
  induction cs using segments.induct with
  | case1 => simp
  | case2 c cs name rest htoken hlength ih =>
    rw [segments_of_token htoken, List.flatMap_cons, ih]
    exact (tokenAt?_eq_some_iff.1 htoken).2.symm
  | case3 c cs htoken ih =>
    rw [segments_of_char htoken, List.flatMap_cons, ih]
    rfl

theorem plain_of_leftmost {text : List Char} (h : Occurs cs text name rest)
    (hleftmost : ∀ before name' after, Occurs cs before name' after → text.length ≤ before.length) :
    Plain text := by
  intro before name' after hoccurs
  have hearlier : Occurs cs before name' (after ++ braced name ++ rest) :=
    ⟨hoccurs.isName, by rw [h.text, hoccurs.text]; simp⟩
  have hle := hleftmost before name' _ hearlier
  have hlength := congrArg List.length hoccurs.text
  simp only [braced, List.length_append, List.length_cons] at hlength
  omega

theorem segments_of_cut {pieces : List (List Char × List Char)} {last : List Char}
    (h : Cut cs pieces last) :
    segments cs = (pieces.flatMap fun p => p.1.map .char ++ [.token p.2]) ++ last.map .char := by
  induction h with
  | last hplain => rw [segments_of_plain hplain]; rfl
  | @token cs text name rest last pieces hoccurs hleftmost _ ih =>
    have htext : segments text = text.map .char :=
      segments_of_plain (plain_of_leftmost hoccurs hleftmost)
    rw [segments_of_occurs hoccurs, htext, ih, List.flatMap_cons]
    simp

theorem exists_cut (cs : List Char) : ∃ pieces last, Cut cs pieces last := by
  induction cs using segments.induct with
  | case1 => exact ⟨[], [], .last plain_nil⟩
  | case2 c cs name rest htoken hlength ih =>
    obtain ⟨pieces, last, hcut⟩ := ih
    have hoccurs : Occurs (c :: cs) [] name rest := occurs_cons.2 (.inl ⟨rfl, htoken⟩)
    exact ⟨([], name) :: pieces, last, .token hoccurs (fun _ _ _ _ => Nat.zero_le _) hcut⟩
  | case3 c cs htoken ih =>
    obtain ⟨pieces, last, hcut⟩ := ih
    -- A character that opens no token joins the text before the next one.
    cases hcut with
    | last hplain => exact ⟨[], c :: cs, .last (plain_cons htoken hplain)⟩
    | @token _ text name rest _ pieces hoccurs hleftmost hrest =>
      refine ⟨(c :: text, name) :: pieces, last,
        .token (occurs_cons.2 (.inr ⟨text, rfl, hoccurs⟩)) ?_ hrest⟩
      intro before name' after hother
      rcases occurs_cons.1 hother with ⟨-, hfound⟩ | ⟨before', rfl, hlater⟩
      · cases htoken.symm.trans hfound
      · exact Nat.succ_le_succ (hleftmost before' name' after hlater)

end Segments

/-! ## The pass -/

/-- What stands in a prompt for a segment of its template, where the values have texts. -/
def Segment.filled (values : Entries) (s : Segment) : List Char :=
  match s.fill values with
  | .ok text => text
  | .error _ => []

/-- The text that a pass over a template makes of it. -/
def pass (values : Entries) (cs : List Char) : List Char :=
  (segments cs).flatMap (Segment.filled values)

def Unresolved (values : Entries) (name : List Char) : Prop :=
  values.getText? (String.ofList name) = none ∨ values.getText? (String.ofList name) = some .null

section Pass
variable {values : Entries} {cs before after name : List Char}

theorem filled_of_unresolved (h : Unresolved values name) :
    (Segment.token name).filled values = braced name := by
  rcases h with h | h <;> (simp only [Segment.filled, Segment.fill, h]; rfl)

theorem filled_of_value {v : Value} {text : String}
    (hv : values.getText? (String.ofList name) = some v) (hnull : v ≠ .null)
    (htext : v.toText = .ok text) : (Segment.token name).filled values = text.toList := by
  cases v with
  | null => exact absurd rfl hnull
  | _ =>
    simp only [Segment.filled, Segment.fill, hv, htext]
    rfl

theorem fillAll_eq (hvalues : ∀ e ∈ values, ∃ text, e.2.toText = .ok text)
    (ss : List Segment) : fillAll values ss = .ok (ss.flatMap (Segment.filled values)) := by
  have hfill (s : Segment) : s.fill values = .ok (s.filled values) := by
    cases hs : s.fill values with
    | ok text => rw [Segment.filled, hs]
    | error fault =>
      obtain ⟨name, rfl, v, hv, herror⟩ := fill_eq_error hs
      obtain ⟨e, he, rfl⟩ := Option.map_eq_some_iff.1 hv
      obtain ⟨text, htext⟩ := hvalues e (List.mem_of_find?_eq_some he)
      cases herror.symm.trans htext
  induction ss with
  | nil => rfl
  | cons s ss ih =>
    rw [fillAll, hfill, ih]
    rfl

theorem interpolate_eq (hvalues : ∀ e ∈ values, ∃ text, e.2.toText = .ok text) (template : String) :
    interpolate template values = .ok (String.ofList (pass values template.toList)) := by
  rw [interpolate, fillAll_eq hvalues]
  rfl

theorem pass_append {a b : List Char} (h : ¬Straddles a b) :
    pass values (a ++ b) = pass values a ++ pass values b := by
  rw [pass, segments_append h, List.flatMap_append]
  rfl

theorem flatMap_filled_char (cs : List Char) :
    (cs.map Segment.char).flatMap (Segment.filled values) = cs := by
  induction cs with
  | nil => rfl
  | cons c cs ih => rw [List.map_cons, List.flatMap_cons, ih]; rfl

theorem pass_of_plain (h : Plain cs) : pass values cs = cs := by
  rw [pass, segments_of_plain h, flatMap_filled_char]

theorem pass_of_occurs (h : Occurs cs before name after) :
    pass values cs = pass values before ++ (Segment.token name).filled values ++
    pass values after := by
  rw [pass, segments_of_occurs h, List.flatMap_append, List.flatMap_cons, List.append_assoc]
  rfl

theorem pass_of_cut {pieces : List (List Char × List Char)} {last : List Char}
    (h : Cut cs pieces last) :
    pass values cs = (pieces.flatMap fun p => p.1 ++ (Segment.token p.2).filled values) ++
    last := by
  rw [pass, segments_of_cut h, List.flatMap_append, flatMap_filled_char, List.flatMap_assoc]
  congr 2
  funext p
  rw [List.flatMap_append, flatMap_filled_char, List.flatMap_singleton]

theorem pass_of_unresolved (h : ∀ before name after, Occurs cs before name after →
    Unresolved values name) :
    pass values cs = cs := by
  have hfilled : ∀ s ∈ segments cs, s.filled values = s.source := by
    intro s hs
    cases s with
    | char c => rfl
    | token name =>
      obtain ⟨before, after, hoccurs⟩ := occurs_of_mem hs
      exact filled_of_unresolved (h before name after hoccurs)
  rw [pass, List.flatMap_congr hfilled, flatMap_source]

theorem pass_of_malformed {body : List Char} (hbody : ¬IsName body) (hopen : '\x7b' ∉ body)
    (hclose : '\x7d' ∉ body) :
    pass values (before ++ braced body ++ after) = pass values before ++
    braced body ++ pass values after := by
  have hbefore : ¬Straddles before (braced body ++ after) := not_straddles_open
  have hafter : ¬Straddles (braced body) after := not_straddles_close
  rw [List.append_assoc, pass_append hbefore, pass_append hafter,
    pass_of_plain (plain_braced hbody hopen hclose), List.append_assoc]

theorem pass_of_nested (hname : IsName name) :
    pass values (before ++ braced (braced name) ++ after) =
      pass values before ++ braced ((Segment.token name).filled values) ++ pass values after := by
  -- The outer braces belong to no token: they are the end of the text before the inner one and the
  -- start of that after.
  have hoccurs : Occurs (before ++ braced (braced name) ++ after) (before ++
    ['\x7b']) name ('\x7d' :: after) :=
    ⟨hname, by simp [braced]⟩
  have hplain : Plain ['\x7b'] := plain_cons rfl plain_nil
  have hopen : pass values (before ++ ['\x7b']) = pass values before ++ ['\x7b'] := by
    rw [pass_append not_straddles_open, pass_of_plain hplain]
  have hclose : pass values ('\x7d' :: after) = '\x7d' :: pass values after := by
    rw [pass, segments_of_char rfl]
    rfl
  rw [pass_of_occurs hoccurs, hopen, hclose, braced]
  simp

end Pass

/-- A single pass from left to right over texts, with what it puts in the place of the token of a
name. -/
structure SinglePass (values : Entries) (pass put : List Char → List Char) : Prop where
  value : ∀ name v text, values.getText? (String.ofList name) = some v → v ≠ .null →
    v.toText = .ok text → put name = text.toList
  itself : ∀ name, Unresolved values name → put name = braced name
  cut : ∀ cs, ∃ pieces last, Cut cs pieces last
  /-- Between its leftmost tokens a text is copied. -/
  copies : ∀ cs pieces last, Cut cs pieces last →
    pass cs = (pieces.flatMap fun p => p.1 ++ put p.2) ++ last
  /-- Every token is replaced, and what is put in its place is not looked at again. -/
  replaces : ∀ cs before name after, Occurs cs before name after →
    pass cs = pass before ++ put name ++ pass after
  nested : ∀ before name after, IsName name →
    pass (before ++ braced (braced name) ++ after) = pass before ++ braced (put name) ++ pass after
  malformed : ∀ before body after, ¬IsName body → '\x7b' ∉ body → '\x7d' ∉ body →
    pass (before ++ braced body ++ after) = pass before ++ braced body ++ pass after
  unchanged : ∀ cs, (∀ before name after, Occurs cs before name after → Unresolved values name) →
    pass cs = cs
  append : ∀ a b, ¬Straddles a b → pass (a ++ b) = pass a ++ pass b

/-- Where every value has a text, a template is interpolated in a single pass. -/
theorem interpolate_in_single_pass {values : Entries}
    (hvalues : ∀ e ∈ values, ∃ text, e.2.toText = .ok text) :
    ∃ pass put, SinglePass values pass put ∧
      ∀ template, interpolate template values = .ok (String.ofList (pass template.toList)) := by
  refine ⟨pass values, fun name => (Segment.token name).filled values, ?_, interpolate_eq hvalues⟩
  exact {
    value := fun _ _ _ => filled_of_value
    itself := fun _ => filled_of_unresolved
    cut := exists_cut
    copies := fun _ _ _ => pass_of_cut
    replaces := fun _ _ _ _ => pass_of_occurs
    nested := fun _ _ _ => pass_of_nested
    malformed := fun _ _ _ => pass_of_malformed
    unchanged := fun _ => pass_of_unresolved
    append := fun _ _ => pass_append }

/-- The text of a value that looks like a token stays as it is, also where that token has a
value. -/
theorem query_stays_literal :
    interpolate "\x7bquery\x7d\x7bregion\x7d" [(.text "query", .text "\x7bregion\x7d"),
      (.text "region", .text "EU")] =
      .ok "\x7bregion\x7dEU" := by
  have hvalues : ∀ e ∈ [(Value.text "query", Value.text "\x7bregion\x7d"),
    (.text "region", .text "EU")],
      ∃ text, e.2.toText = .ok text := by
    simp only [List.forall_mem_cons]
    exact ⟨⟨_, rfl⟩, ⟨_, rfl⟩, by simp⟩
  obtain ⟨pass, put, hpass, hinterpolate⟩ := interpolate_in_single_pass hvalues
  have hnil : pass [] = [] := hpass.unchanged [] fun before name after h =>
    (plain_nil before name after h).elim
  have hquery : put "query".toList = "\x7bregion\x7d".toList := hpass.value _ _ _ rfl (by simp) rfl
  have hregion : put "region".toList = "EU".toList := hpass.value _ _ _ rfl (by simp) rfl
  have hafter : Occurs (braced "region".toList) [] "region".toList [] := ⟨by decide, rfl⟩
  have hbefore : Occurs (braced "query".toList ++ braced "region".toList) [] "query".toList
      (braced "region".toList) :=
    ⟨by decide, rfl⟩
  have hpassed : pass (braced "query".toList ++ braced "region".toList) =
      "\x7bregion\x7dEU".toList := by
    rw [hpass.replaces _ _ _ _ hbefore, hpass.replaces _ _ _ _ hafter, hnil, hquery, hregion]
    rfl
  rw [hinterpolate]
  exact congrArg (fun cs => Except.ok (String.ofList cs)) hpassed

end StepFlow.Template
