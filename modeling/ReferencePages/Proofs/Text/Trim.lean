import ReferencePages.Text.Blank
import ReferencePages.Proofs.Text.Infix
import Mathlib.Data.List.TakeWhile
/-!
Blanks at the ends of texts. What is cut is the longest stretch of blanks at an end, so that a text which
begins and ends with other characters is found again between any blanks.
-/

namespace ReferencePages.Text

variable {drop : Char → Bool}

theorem trimStart_append {a : Text} (blank : ∀ c ∈ a, isBlank c = true) (b : Text) :
    trimStart (a ++ b) = trimStart b := List.dropWhile_append_of_pos blank

theorem trimStart_cons {c : Char} (s : Text) (filled : isBlank c = false) : trimStart (c :: s) = c :: s :=
  List.dropWhile_cons_of_neg (by simp [filled])

theorem trimStart_margin {margin : Text} (blank : ∀ c ∈ margin, isBlank c = true) {c : Char} (s : Text)
    (filled : isBlank c = false) : trimStart (margin ++ c :: s) = c :: s := by
  rw [trimStart_append blank, trimStart_cons s filled]

theorem trimStart_of_all {s : Text} (blank : ∀ c ∈ s, isBlank c = true) : trimStart s = [] :=
  List.dropWhile_eq_nil_iff.mpr blank

theorem trimStart_append_of_filled {s : Text} (filled : trimStart s ≠ []) (t : Text) :
    trimStart (s ++ t) = trimStart s ++ t := by
  have kept : (List.dropWhile isBlank s).isEmpty = false := List.isEmpty_eq_false_iff.mpr filled
  rw [trimStart, List.dropWhile_append, kept]
  rfl

/-- A text is blank up to the part that trimming leaves, which begins with something else. -/
theorem trimStart_split (s : Text) :
    ∃ margin, s = margin ++ trimStart s ∧ (∀ c ∈ margin, isBlank c = true) ∧
      ∀ c ∈ (trimStart s).head?, isBlank c = false := by
  refine ⟨s.takeWhile isBlank, List.takeWhile_append_dropWhile.symm,
    fun c member => List.mem_takeWhile_imp member, fun c first => ?_⟩
  have stops := List.head?_dropWhile_not isBlank s
  rw [trimStart] at first
  rw [Option.mem_def.mp first] at stops
  simpa using stops

theorem trimEndWhile_of_all {s : Text} (all : ∀ c ∈ s, drop c = true) : trimEndWhile drop s = [] := by
  induction s with
  | nil => rfl
  | cons c s ih =>
    rw [trimEndWhile, ih fun d member => all d (List.mem_cons_of_mem _ member)]
    exact if_pos (all c (List.mem_cons_self ..))

theorem trimEndWhile_eq_nil_iff {s : Text} : trimEndWhile drop s = [] ↔ ∀ c ∈ s, drop c = true := by
  refine ⟨fun none => ?_, trimEndWhile_of_all⟩
  induction s with
  | nil => nofun
  | cons c s ih =>
    rw [trimEndWhile] at none
    split at none
    · rename_i rest
      simp only [ite_eq_left_iff, List.cons_ne_nil, imp_false, Decidable.not_not] at none
      exact List.forall_mem_cons.mpr ⟨none, ih rest⟩
    · cases none

theorem trimEndWhile_append {a b : Text} (kept : trimEndWhile drop b ≠ []) :
    trimEndWhile drop (a ++ b) = a ++ trimEndWhile drop b := by
  induction a with
  | nil => rfl
  | cons c a ih =>
    rw [List.cons_append, trimEndWhile, ih]
    split
    · rename_i none
      exact absurd (List.append_eq_nil_iff.mp none).2 kept
    · rfl

theorem trimEndWhile_concat {c : Char} (s : Text) (kept : drop c = false) :
    trimEndWhile drop (s ++ [c]) = s ++ [c] := by
  have single : trimEndWhile drop [c] = [c] := if_neg (by simp [kept])
  rw [trimEndWhile_append (by rw [single]; exact List.cons_ne_nil _ _), single]

/-- A text has only what can be dropped after the part that trimming leaves, which ends with something else. -/
theorem trimEndWhile_split (s : Text) :
    ∃ gap, s = trimEndWhile drop s ++ gap ∧ (∀ c ∈ gap, drop c = true) ∧
      (trimEndWhile drop s = [] ∨ ∃ body z, trimEndWhile drop s = body ++ [z] ∧ drop z = false) := by
  induction s with
  | nil => exact ⟨[], rfl, nofun, .inl rfl⟩
  | cons c s ih =>
    obtain ⟨gap, split, dropped, rest⟩ := ih
    rcases rest with none | ⟨body, z, some, kept⟩
    · rw [none, List.nil_append] at split
      rw [trimEndWhile, none]
      dsimp only
      split
      · rename_i drops
        refine ⟨c :: gap, by rw [split, List.nil_append], ?_, .inl rfl⟩
        intro d member
        rcases List.mem_cons.mp member with rfl | later
        · exact drops
        · exact dropped d later
      · rename_i keeps
        exact ⟨gap, by rw [split, List.singleton_append], dropped,
          .inr ⟨[], c, rfl, Bool.eq_false_iff.mpr keeps⟩⟩
    · have whole : trimEndWhile drop (c :: s) = c :: trimEndWhile drop s := by
        rw [trimEndWhile]
        split
        · rename_i none
          rw [none] at some
          exact absurd some.symm (List.append_ne_nil_of_right_ne_nil _ (List.cons_ne_nil _ _))
        · rfl
      refine ⟨gap, ?_, dropped, .inr ⟨c :: body, z, ?_, kept⟩⟩
      · rw [whole, List.cons_append, ← split]
      · rw [whole, some, List.cons_append]

/-- What is cut at the end is cut whatever else is cut before it. -/
theorem trimEndWhile_append_of_all {b : Text} (all : ∀ c ∈ b, drop c = true) (a : Text) :
    trimEndWhile drop (a ++ b) = trimEndWhile drop a := by
  induction a with
  | nil => exact trimEndWhile_of_all all
  | cons c a ih => rw [List.cons_append, trimEndWhile, trimEndWhile, ih]

/-- What is kept stands between what is dropped on either side. -/
theorem trimWhile_between {a s b : Text} (left : ∀ c ∈ a, drop c = true)
    (kept : ∀ c ∈ s, drop c = false) (right : ∀ c ∈ b, drop c = true) : trimWhile drop (a ++ (s ++ b)) = s := by
  rw [trimWhile, List.dropWhile_append_of_pos left]
  cases s with
  | nil =>
    rw [List.nil_append, List.dropWhile_eq_nil_iff.mpr right]
    rfl
  | cons c s =>
    rw [List.cons_append, List.dropWhile_cons_of_neg (by simp [kept c (List.mem_cons_self ..)]), ← List.cons_append,
      trimEndWhile_append_of_all right]
    obtain ⟨body, z, last⟩ := (List.eq_nil_or_concat (c :: s)).resolve_left (List.cons_ne_nil c s)
    rw [last, List.concat_eq_append] at kept ⊢
    exact trimEndWhile_concat body (kept z (by simp))

/-- Nothing is left of a text that has nothing but blanks, and of no other. -/
theorem trim_eq_nil_iff {s : Text} : trim s = [] ↔ isAllBlank s = true := by
  have cut : trim s = trimEndWhile isBlank (trimStart s) := rfl
  rw [cut, trimEndWhile_eq_nil_iff, isAllBlank, List.all_eq_true]
  obtain ⟨margin, split, blank, first⟩ := trimStart_split s
  constructor
  · intro all c member
    rw [split] at member
    exact (List.mem_append.mp member).elim (blank c) (all c)
  · intro all c member
    exact all c (split ▸ List.mem_append_right margin member)

/-- What begins and ends with other characters is left after a margin is cut. -/
theorem trim_append {margin : Text} (blank : ∀ c ∈ margin, isBlank c = true) {body : Text} {z : Char}
    (first : ∀ c ∈ (body ++ [z]).head?, isBlank c = false) (last : isBlank z = false) :
    trim (margin ++ (body ++ [z])) = body ++ [z] := by
  have start : trimStart (body ++ [z]) = body ++ [z] := by
    cases body with
    | nil => exact trimStart_cons [] last
    | cons c body => exact trimStart_cons _ (first c rfl)
  have cut : trim (margin ++ (body ++ [z])) = trimEndWhile isBlank (trimStart (margin ++ (body ++ [z]))) := rfl
  rw [cut, trimStart_append blank, start, trimEndWhile_concat body last]

/-- Nothing is cut from a text that neither begins nor ends with a blank. -/
theorem trim_eq_self {s : Text} (first : ∀ c ∈ s.head?, isBlank c = false)
    (last : ∀ c ∈ s.getLast?, isBlank c = false) : trim s = s := by
  rcases List.eq_nil_or_concat s with rfl | ⟨body, z, rfl⟩
  · rfl
  · rw [List.concat_eq_append] at first last ⊢
    exact @trim_append [] nofun body z first (last z List.getLast?_concat)

/-- Trimming cuts blanks on both sides, and what it leaves begins and ends with something else. -/
theorem trim_split (s : Text) :
    ∃ margin gap, s = margin ++ (trim s ++ gap) ∧ (∀ c ∈ margin, isBlank c = true) ∧ (∀ c ∈ gap, isBlank c = true) ∧
      (∀ c ∈ (trim s).head?, isBlank c = false) ∧ ∀ c ∈ (trim s).getLast?, isBlank c = false := by
  obtain ⟨margin, split, blank, first⟩ := trimStart_split s
  obtain ⟨gap, split', blank', last⟩ := @trimEndWhile_split isBlank (trimStart s)
  have cut : trim s = trimEndWhile isBlank (trimStart s) := rfl
  rw [← cut] at split' last
  refine ⟨margin, gap, by rw [← split', ← split], blank, blank', fun c head => first c ?_, fun c end' => ?_⟩
  · rw [split', List.head?_append, Option.mem_def.mp head]
    rfl
  · rcases last with none | ⟨body, z, some, kept⟩
    · rw [none] at end'
      cases end'
    · rw [some, List.getLast?_concat] at end'
      cases end'
      exact kept

theorem trim_trim (s : Text) : trim (trim s) = trim s := by
  obtain ⟨_, _, _, _, _, first, last⟩ := trim_split s
  exact trim_eq_self first last

theorem trim_infix (s : Text) : trim s <:+: s := by
  obtain ⟨margin, gap, split, _⟩ := trim_split s
  exact ⟨margin, gap, by rw [List.append_assoc, ← split]⟩

/-- What begins and ends with something other than a blank is not cut. -/
theorem infix_trim {word s : Text} (first : ∀ c ∈ word.head?, isBlank c = false)
    (last : ∀ c ∈ word.getLast?, isBlank c = false) (within : word <:+: s) : word <:+: trim s := by
  obtain ⟨margin, gap, split, blank, blank', _⟩ := trim_split s
  have before : ∀ c ∈ word.head?, c ∉ margin := fun c head inside => by
    have filled := first c head
    rw [blank c inside] at filled
    cases filled
  have behind : ∀ c ∈ word.getLast?, c ∉ gap := fun c end' inside => by
    have filled := last c end'
    rw [blank' c inside] at filled
    cases filled
  rwa [split, infix_append_of_head before, infix_append_of_last behind] at within

end ReferencePages.Text
