import ReferencePages.Text
/-!
The order of texts. The first character in which two texts differ decides, so that a text comes before another
one where it is less as a list, and of all lists of the same texts one is sorted.
-/

namespace ReferencePages.Text

variable {a b : Text}

theorem precedes_iff_lt : precedes a b = true ↔ a < b := by
  induction a generalizing b with
  | nil => cases b <;> simp [precedes]
  | cons x a ih =>
    cases b with
    | nil => simp [precedes]
    | cons y b =>
      rw [precedes, List.cons_lt_cons_iff]
      by_cases same : x = y
      · simp [same, ih]
      · rw [if_neg same, decide_eq_true_iff]
        simp only [same, false_and, or_false]
        rfl

theorem precedes_eq_false_iff : precedes a b = false ↔ ¬ a < b := by
  rw [Bool.eq_false_iff, Ne, precedes_iff_lt]

theorem eq_of_not_precedes (first : precedes a b = false) (second : precedes b a = false) : a = b :=
  List.le_antisymm (precedes_eq_false_iff.mp second) (precedes_eq_false_iff.mp first)

/-- Sorted texts stand in their order. -/
theorem pairwise_sort (texts : List Text) : (sort texts).Pairwise fun a b => precedes b a = false := by
  have sorted : (texts.mergeSort fun a b => !precedes b a).Pairwise fun a b => (!precedes b a) = true :=
    List.pairwise_mergeSort
      (fun a b c first second => by
        rw [Bool.not_eq_true', precedes_eq_false_iff] at first second ⊢
        exact List.le_trans first second)
      (fun a b => by
        simp only [Bool.or_eq_true, Bool.not_eq_true', precedes_eq_false_iff]
        exact List.le_total a b)
      texts
  exact sorted.imp fun ordered => by simpa using ordered

theorem sort_pair (ordered : precedes b a = false) : sort [a, b] = [a, b] := by
  have sorted : ([a, b] : List Text).Pairwise fun a b => (!precedes b a) = true :=
    List.pairwise_pair.mpr (by rw [ordered]; rfl)
  exact List.mergeSort_of_pairwise sorted

end ReferencePages.Text
