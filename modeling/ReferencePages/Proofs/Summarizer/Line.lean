import ReferencePages.Proofs.Excerpt.Cut
import ReferencePages.Proofs.Summarizer.Sequence
import ReferencePages.Proofs.Text.Trim
/-!
Summaries that stand in a cell of a table. An answer is folded into one line, and neither the steps of folding nor a
cut bring back what an earlier step took out.
-/

namespace ReferencePages

namespace Excerpt

open Text (isBlank)

/-! ### Rows of spaces -/

theorem infix_spaces_cons {c d : Char} {s : Text} :
    ("  ".toList : Text) <:+: c :: d :: s ↔ (c = ' ' ∧ d = ' ') ∨ ("  ".toList : Text) <:+: d :: s := by
  rw [List.infix_cons_iff]
  refine or_congr_left ?_
  change ([' ', ' '] : Text) <+: c :: d :: s ↔ _
  simp [eq_comm]

theorem head?_collapseSpaces (s : Text) : (collapseSpaces s).head? = s.head? := by
  fun_induction collapseSpaces s with
  | case1 => rfl
  | case2 c => rfl
  | case3 c d s spaces ih =>
    rw [Bool.and_eq_true, decide_eq_true_eq, decide_eq_true_eq] at spaces
    rw [ih, spaces.1, spaces.2]
    rfl
  | case4 c d s apart ih => rfl

theorem getLast?_collapseSpaces (s : Text) : (collapseSpaces s).getLast? = s.getLast? := by
  fun_induction collapseSpaces s with
  | case1 => rfl
  | case2 c => rfl
  | case3 c d s spaces ih => rw [ih, List.getLast?_cons_cons]
  | case4 c d s apart ih => rw [List.getLast?_cons, ih, List.getLast?_cons_cons, List.getLast?_cons, Option.getD_some]

theorem collapseSpaces_subset (s : Text) : collapseSpaces s ⊆ s := by
  fun_induction collapseSpaces s with
  | case1 => exact List.Subset.refl _
  | case2 c => exact List.Subset.refl _
  | case3 c d s spaces ih => exact List.subset_cons_of_subset c ih
  | case4 c d s apart ih => exact List.cons_subset_cons c ih

theorem not_infix_collapseSpaces (s : Text) : ¬ ("  ".toList : Text) <:+: collapseSpaces s := by
  fun_induction collapseSpaces s with
  | case1 => decide
  | case2 c =>
    intro row
    have size := row.length_le
    simp at size
  | case3 c d s spaces ih => exact ih
  | case4 c d s apart ih =>
    -- What is left behind `c` begins with `d` as before, so no row comes about where the two meet.
    obtain ⟨rest, left⟩ := List.head?_eq_some_iff.mp (head?_collapseSpaces (d :: s))
    rw [left] at ih ⊢
    rw [infix_spaces_cons, not_or]
    exact ⟨by simpa using apart, ih⟩

theorem collapseSpaces_eq_self {s : Text} (single : ¬ ("  ".toList : Text) <:+: s) : collapseSpaces s = s := by
  fun_induction collapseSpaces s with
  | case1 => rfl
  | case2 c => rfl
  | case3 c d s spaces ih =>
    exact absurd (infix_spaces_cons.mpr (.inl (by simpa using spaces))) single
  | case4 c d s apart ih => rw [ih fun row => single (infix_spaces_cons.mpr (.inr row))]

/-! ### One line -/

/-- What stands in one line for a character of an answer. -/
def inLine (c : Char) : Char := if c = '\n' then ' ' else if c = '|' then '—' else c

theorem isBlank_inLine (c : Char) : isBlank (inLine c) = isBlank c := by
  unfold inLine
  split
  · subst c
    rfl
  · split
    · subst c
      decide +kernel
    · rfl

theorem inLine_ne (c : Char) : inLine c ≠ '\n' ∧ inLine c ≠ '|' := by
  unfold inLine
  split
  · decide
  · rename_i feed
    split
    · decide
    · rename_i bar
      exact ⟨feed, bar⟩

theorem flattenLine_eq (text : Text) : flattenLine text = collapseSpaces ((Text.trim text).map inLine) := rfl

/-- A text that can stand in a cell of a table: on one line, with no bar, no two spaces in a row and no blank in
front. -/
structure FitsCell (s : Text) : Prop where
  first : ∀ c ∈ s.head?, isBlank c = false
  feed : '\n' ∉ s
  bar : '|' ∉ s
  spaces : ¬ ("  ".toList : Text) <:+: s

theorem fitsCell_flattenLine (text : Text) : FitsCell (flattenLine text) := by
  obtain ⟨_, _, _, _, _, filled, _⟩ := Text.trim_split text
  have exchanged : ∀ c ∈ flattenLine text, c ≠ '\n' ∧ c ≠ '|' := by
    intro c member
    obtain ⟨d, _, rfl⟩ := List.mem_map.mp (collapseSpaces_subset _ member)
    exact inLine_ne d
  refine ⟨fun c head => ?_, fun feed => (exchanged _ feed).1 rfl, fun bar => (exchanged _ bar).2 rfl,
    not_infix_collapseSpaces _⟩
  rw [flattenLine_eq, head?_collapseSpaces, List.head?_map] at head
  obtain ⟨d, front, rfl⟩ := Option.map_eq_some_iff.mp head
  rw [isBlank_inLine]
  exact filled d front

theorem getLast?_flattenLine (text : Text) : ∀ c ∈ (flattenLine text).getLast?, isBlank c = false := by
  obtain ⟨_, _, _, _, _, _, filled⟩ := Text.trim_split text
  intro c last
  rw [flattenLine_eq, getLast?_collapseSpaces, List.getLast?_map] at last
  obtain ⟨d, end', rfl⟩ := Option.map_eq_some_iff.mp last
  rw [isBlank_inLine]
  exact filled d end'

/-- What fits a cell and does not end in a blank is a line as it is. -/
theorem FitsCell.flattenLine_eq_self {s : Text} (fits : FitsCell s) (last : ∀ c ∈ s.getLast?, isBlank c = false) :
    flattenLine s = s := by
  have kept : s.map inLine = s := by
    refine (List.map_congr_left fun c member => ?_).trans (List.map_id s)
    have feed : c ≠ '\n' := fun same => fits.feed (same ▸ member)
    have bar : c ≠ '|' := fun same => fits.bar (same ▸ member)
    exact (if_neg feed).trans (if_neg bar)
  rw [flattenLine_eq, Text.trim_eq_self fits.first last, kept, collapseSpaces_eq_self fits.spaces]

theorem flattenLine_flattenLine (text : Text) : flattenLine (flattenLine text) = flattenLine text :=
  (fitsCell_flattenLine text).flattenLine_eq_self (getLast?_flattenLine text)

theorem flattenLine_eq_nil_iff {text : Text} : flattenLine text = [] ↔ Text.isAllBlank text = true := by
  rw [← Text.trim_eq_nil_iff, ← List.head?_eq_none_iff, flattenLine_eq, head?_collapseSpaces, List.head?_map,
    Option.map_eq_none_iff, List.head?_eq_none_iff]

/-- A cut keeps a text in its cell. -/
theorem FitsCell.cut {limit : Int} {text shown : Text} (fits : FitsCell text) (cut : IsCut limit text shown) :
    FitsCell shown := by
  have kept {c : Char} (other : c ≠ '.') (absent : c ∉ text) : c ∉ shown := by
    rw [← List.singleton_infix_iff] at absent ⊢
    exact cut.not_infix (w := []) other absent
  refine ⟨fun c head => ?_, kept (by decide) fits.feed, kept (by decide) fits.bar,
    cut.not_infix (w := [' ']) (z := ' ') (by decide) fits.spaces⟩
  rcases cut.head?_cases c head with here | rfl
  · exact fits.first c here
  · decide

end Excerpt

namespace SummaryRequest

open Excerpt (FitsCell IsCut flattenLine)

variable {request : SummaryRequest}

theorem fold_of_flatten (flat : request.flatten = true) (answer : Text) :
    request.fold answer = flattenLine answer := by
  have folded : request.fold answer = flattenLine (Text.trim answer) := if_pos flat
  rw [folded, Excerpt.flattenLine_eq, Excerpt.flattenLine_eq, Text.trim_trim]

theorem ofAnswer_eq_ok {answer : Text} {summary : Summary} :
    request.ofAnswer answer = .ok summary ↔ request.fold answer ≠ [] ∧
      summary = { text := Excerpt.truncate (request.fold answer) request.aiLimit, source := .ai } := by
  unfold ofAnswer
  split
  · rename_i none
    exact ⟨nofun, fun given => absurd none given.1⟩
  · rename_i some
    exact ⟨fun given => ⟨some, (Except.ok.inj given).symm⟩, fun given => congrArg Except.ok given.2.symm⟩

/-- The text of a summary is what an answer is folded to, cut where there is a limit. -/
theorem ofAnswer_cases (room : ∀ limit ∈ request.aiLimit, 3 ≤ limit) {answer : Text} {summary : Summary}
    (given : request.ofAnswer answer = .ok summary) :
    request.fold answer ≠ [] ∧ (request.aiLimit = none ∧ summary.text = request.fold answer ∨
      ∃ limit, request.aiLimit = some limit ∧ IsCut limit (request.fold answer) summary.text) := by
  obtain ⟨filled, rfl⟩ := ofAnswer_eq_ok.mp given
  refine ⟨filled, ?_⟩
  cases limited : request.aiLimit with
  | none => exact .inl ⟨rfl, rfl⟩
  | some limit => exact .inr ⟨limit, rfl, Excerpt.isCut_truncate _ (room limit limited)⟩

theorem ofAnswer_fitsCell (flat : request.flatten = true) (room : ∀ limit ∈ request.aiLimit, 3 ≤ limit)
    {answer : Text} {summary : Summary} (given : request.ofAnswer answer = .ok summary) :
    summary.text ≠ [] ∧ FitsCell summary.text ∧ ∀ limit ∈ request.aiLimit, summary.text.length ≤ limit := by
  have fits : FitsCell (request.fold answer) := by
    rw [fold_of_flatten flat]
    exact Excerpt.fitsCell_flattenLine _
  obtain ⟨filled, ⟨unlimited, same⟩ | ⟨limit, limited, cut⟩⟩ := ofAnswer_cases room given
  · rw [same]
    refine ⟨filled, fits, fun limit limited => ?_⟩
    rw [unlimited] at limited
    cases limited
  · refine ⟨cut.ne_nil filled, fits.cut cut, fun other limited' => ?_⟩
    rw [limited] at limited'
    cases limited'
    exact cut.length_le

theorem exists_ofAnswer (flat : request.flatten = true) {answer : Text} (filled : Text.isAllBlank answer = false) :
    ∃ summary, request.ofAnswer answer = .ok summary := by
  refine ⟨_, ofAnswer_eq_ok.mpr ⟨fun empty => ?_, rfl⟩⟩
  rw [fold_of_flatten flat, Excerpt.flattenLine_eq_nil_iff, filled] at empty
  cases empty

end SummaryRequest

namespace ModelSummarizer

open Excerpt (FitsCell IsCut flattenLine)

theorem exists_answer {m : ModelSummarizer} {request : SummaryRequest} {s t : Session} {summary : Summary}
    (run : (m.summarize request).outcome s = (.ok (.ok summary), t)) :
    ∃ answer, request.ofAnswer answer = .ok summary := by
  obtain ⟨_, _, _, asking⟩ := Program.outcome_bind_eq_ok run
  obtain ⟨reply, _, _, answered⟩ := Program.outcome_bind_eq_ok asking
  obtain ⟨_, _, _, last⟩ := Program.outcome_bind_eq_ok answered
  have given := Except.ok.inj (Prod.mk.inj last).1
  cases reply with
  | error fault => cases given
  | ok answer =>
    refine ⟨answer, ?_⟩
    change (request.ofAnswer answer).mapError reasonOf = .ok summary at given
    cases made : request.ofAnswer answer with
    | error fault =>
      rw [made] at given
      cases given
    | ok other =>
      rw [made] at given
      cases given
      rfl

/-- A summary in one line, where a limit leaves room for three dots: whatever the model answers, the summary is not
empty, fits a cell of a table and keeps within the limit. An answer that is not blank gives one: the answer as one line,
cut where there is a limit. A line is folded to itself. -/
theorem summarize_fitsCell (m : ModelSummarizer) {request : SummaryRequest} (flat : request.flatten = true)
    (room : ∀ limit ∈ request.aiLimit, 3 ≤ limit) :
    (∀ s t summary, (m.summarize request).outcome s = (.ok (.ok summary), t) →
      summary.text ≠ [] ∧ FitsCell summary.text ∧ ∀ limit ∈ request.aiLimit, summary.text.length ≤ limit) ∧
    (∀ s answer, m.writesTranscript request s = true → m.reply s 0 request = .ok answer →
      Text.isAllBlank answer = false → ∃ summary t, (m.summarize request).outcome s = (.ok (.ok summary), t) ∧
        (request.aiLimit = none ∧ summary.text = flattenLine answer ∨
          ∃ limit, request.aiLimit = some limit ∧ IsCut limit (flattenLine answer) summary.text)) ∧
    ∀ text, flattenLine (flattenLine text) = flattenLine text := by
  refine ⟨?_, ?_, Excerpt.flattenLine_flattenLine⟩
  · intro s t summary run
    obtain ⟨answer, given⟩ := exists_answer run
    exact SummaryRequest.ofAnswer_fitsCell flat room given
  · intro s answer transcript replied filled
    obtain ⟨t, run, _⟩ := summarize_outcome transcript
    obtain ⟨summary, given⟩ := SummaryRequest.exists_ofAnswer flat filled
    have shown := (SummaryRequest.ofAnswer_cases room given).2
    rw [SummaryRequest.fold_of_flatten flat] at shown
    refine ⟨summary, t, run.trans ?_, shown⟩
    rw [replied]
    change (Except.ok ((request.ofAnswer answer).mapError reasonOf), t) = _
    rw [given]
    rfl

def narrowRequest : SummaryRequest := { Summarizer.lineRequest "orders" with aiLimit := some 8 }

theorem summarize_fitsCell_narrow :
    ∃ summary t, (Summarizer.rehearsedModel.summarize narrowRequest).outcome Summarizer.rehearsedSession =
        (.ok (.ok summary), t) ∧
      summary.text ≠ [] ∧ FitsCell summary.text ∧ ∀ limit ∈ narrowRequest.aiLimit, summary.text.length ≤ limit := by
  have room : ∀ limit ∈ narrowRequest.aiLimit, 3 ≤ limit := by
    rintro limit ⟨⟩
    decide
  have transcript : Summarizer.rehearsedModel.writesTranscript narrowRequest Summarizer.rehearsedSession = true := by
    decide +kernel
  obtain ⟨fits, given, _⟩ := @summarize_fitsCell Summarizer.rehearsedModel narrowRequest rfl room
  obtain ⟨summary, t, run, _⟩ := given _ " Rows of\n|orders " transcript rfl (by decide +kernel)
  exact ⟨summary, t, run, fits _ _ _ run⟩

end ModelSummarizer
end ReferencePages
