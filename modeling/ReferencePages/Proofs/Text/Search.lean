import ReferencePages.Text
import Mathlib.Data.List.TakeDrop
import Mathlib.Data.List.TakeWhile
/-!
Words in texts. What the readers find is said in terms of the pieces of the text: a word at the start is a
prefix, a word anywhere is an infix, and the first place from which something can be read is the shortest
text in front of it.
-/

namespace ReferencePages.Text

variable {α : Type}

/-- What is said of all characters of a text is decided on the text, not on all characters. -/
instance decidableForallMem (s : Text) (p : Char → Prop) [DecidablePred p] : Decidable (∀ c ∈ s, p c) :=
  List.decidableBAll p s

theorem after?_append (word rest : Text) : after? word (word ++ rest) = some rest := by
  induction word with
  | nil => rfl
  | cons a word ih => rw [List.cons_append, after?, if_pos rfl, ih]

theorem after?_eq_some {word s rest : Text} : after? word s = some rest ↔ s = word ++ rest := by
  constructor
  · intro read
    induction word generalizing s with
    | nil => exact Option.some.inj read
    | cons a word ih =>
      cases s with
      | nil => cases read
      | cons c s =>
        rw [after?] at read
        split at read
        · rename_i same
          rw [← same, ih read, List.cons_append]
        · cases read
  · rintro rfl
    exact after?_append word rest

theorem startsWith_iff {word s : Text} : startsWith word s = true ↔ word <+: s := by
  rw [startsWith, Option.isSome_iff_exists]
  constructor
  · rintro ⟨rest, read⟩
    exact ⟨rest, (after?_eq_some.mp read).symm⟩
  · rintro ⟨rest, split⟩
    exact ⟨rest, after?_eq_some.mpr split.symm⟩

theorem endsWith_iff {word s : Text} : endsWith word s = true ↔ word <:+ s := by
  rw [endsWith, startsWith_iff, List.reverse_prefix]

/-- A word that does not start a text is not read from it. -/
theorem after?_eq_none {word s : Text} (absent : ¬ word <+: s) : after? word s = none := by
  cases read : after? word s with
  | none => rfl
  | some rest => exact absurd ⟨rest, (after?_eq_some.mp read).symm⟩ absent

theorem after?_of_head {word s : Text} {d : Char} (first : word.head? = some d) (other : ∀ c ∈ s.head?, c ≠ d) :
    after? word s = none := by
  refine after?_eq_none ?_
  rintro ⟨rest, rfl⟩
  cases word with
  | nil => cases first
  | cons w word =>
    cases first
    exact other d rfl rfl

theorem splitAtFirst?_isSome {word s : Text} : (splitAtFirst? word s).isSome = true ↔ word <:+: s := by
  induction s with
  | nil =>
    rw [splitAtFirst?, Option.isSome_map]
    cases word with
    | nil => exact ⟨fun _ => List.infix_rfl, fun _ => rfl⟩
    | cons a word => exact ⟨nofun, fun within => absurd (List.eq_nil_of_infix_nil within) nofun⟩
  | cons c s ih =>
    rw [List.infix_cons_iff, ← startsWith_iff, ← ih, splitAtFirst?, startsWith]
    cases after? word (c :: s) with
    | some rest => simp
    | none => simp

theorem contains_iff {word s : Text} : contains word s = true ↔ word <:+: s := splitAtFirst?_isSome

theorem contains_eq_false {word s : Text} : contains word s = false ↔ ¬ word <:+: s := by
  rw [← contains_iff, Bool.not_eq_true]

/-- Something can be read from a text where it can be read from one of its ends. -/
theorem findRead?_isSome {read : Text → Option α} {s : Text} :
    (findRead? read s).isSome = true ↔ ∃ a b, s = a ++ b ∧ (read b).isSome = true := by
  induction s with
  | nil =>
    constructor
    · intro found
      exact ⟨[], [], rfl, found⟩
    · rintro ⟨a, b, split, found⟩
      obtain ⟨rfl, rfl⟩ := List.append_eq_nil_iff.mp split.symm
      exact found
  | cons c s ih =>
    rw [findRead?]
    split
    · rename_i found read
      exact ⟨fun _ => ⟨[], c :: s, rfl, by rw [read]; rfl⟩, fun _ => rfl⟩
    · rename_i unread
      rw [ih]
      constructor
      · rintro ⟨a, b, rfl, found⟩
        exact ⟨c :: a, b, rfl, found⟩
      · rintro ⟨a, b, split, found⟩
        cases a with
        | nil =>
          rw [List.nil_append] at split
          rw [← split, unread] at found
          cases found
        | cons d a => exact ⟨a, b, (List.cons.inj split).2, found⟩

/-- What is read is read from the first place from which anything can be read. -/
theorem findRead?_append {read : Text → Option α} {a b : Text} {found : α} (here : read b = some found)
    (before : ∀ x y, a = x ++ y → y ≠ [] → read (y ++ b) = none) : findRead? read (a ++ b) = some found := by
  induction a with
  | nil =>
    cases b with
    | nil => exact here
    | cons c b => rw [List.nil_append, findRead?, here]
  | cons c a ih =>
    have unread := before [] (c :: a) rfl nofun
    rw [List.cons_append] at unread ⊢
    rw [findRead?, unread]
    refine ih fun x y split kept => before (c :: x) y ?_ kept
    rw [split, List.cons_append]

/-- What is read with a certain character at its start is read behind a part without it. -/
theorem findRead?_behind {read : Text → Option α} {d : Char}
    (starts : ∀ s, (∀ c ∈ s.head?, c ≠ d) → read s = none) {a b : Text} (absent : d ∉ a) {found : α}
    (here : read b = some found) : findRead? read (a ++ b) = some found := by
  refine findRead?_append here fun x y split kept => starts _ fun c first => ?_
  cases y with
  | nil => exact absurd rfl kept
  | cons e y =>
    cases first
    rintro rfl
    exact absent (split ▸ List.mem_append_right x (List.mem_cons_self ..))

theorem findRead?_eq_none {read : Text → Option α} {s : Text}
    (unread : ∀ a b, s = a ++ b → read b = none) : findRead? read s = none := by
  cases found : findRead? read s with
  | none => rfl
  | some x =>
    have there : (findRead? read s).isSome = true := by rw [found]; rfl
    obtain ⟨a, b, split, readable⟩ := findRead?_isSome.mp there
    rw [unread a b split] at readable
    cases readable

theorem span_append {p : Char → Bool} {a : Text} {c : Char} (b : Text) (kept : ∀ d ∈ a, p d = true)
    (stop : p c = false) : (a ++ c :: b).span p = (a, c :: b) := by
  rw [List.span_eq_takeWhile_dropWhile, List.takeWhile_append_of_pos kept,
    List.dropWhile_append_of_pos kept, List.takeWhile_cons_of_neg (by simp [stop]),
    List.dropWhile_cons_of_neg (by simp [stop]), List.append_nil]

/-- A text is cut at the first occurrence of a character. -/
theorem cutAt_append {sep : Char} {a : Text} (b : Text) (absent : sep ∉ a) :
    cutAt sep (a ++ sep :: b) = (a, some b) := by
  have kept : ∀ d ∈ a, (d != sep) = true := fun d member =>
    bne_iff_ne.mpr fun same => absent (same ▸ member)
  rw [cutAt, span_append b kept (bne_self_eq_false sep)]

theorem cutAt_of_not_mem {sep : Char} {a : Text} (absent : sep ∉ a) : cutAt sep a = (a, none) := by
  have kept : ∀ d ∈ a, (d != sep) = true := fun d member =>
    bne_iff_ne.mpr fun same => absent (same ▸ member)
  rw [cutAt, List.span_eq_takeWhile_dropWhile, List.takeWhile_eq_self_iff.mpr kept,
    List.dropWhile_eq_nil_iff.mpr kept]

theorem splitOnChar_of_not_mem {sep : Char} {a : Text} (absent : sep ∉ a) : splitOnChar sep a = [a] := by
  induction a with
  | nil => rfl
  | cons c a ih =>
    rw [List.mem_cons, not_or] at absent
    rw [splitOnChar, if_neg (Ne.symm absent.1), ih absent.2]

theorem splitOnChar_append {sep : Char} {a : Text} (b : Text) (absent : sep ∉ a) :
    splitOnChar sep (a ++ sep :: b) = a :: splitOnChar sep b := by
  induction a with
  | nil => exact if_pos rfl
  | cons c a ih =>
    rw [List.mem_cons, not_or] at absent
    rw [List.cons_append, splitOnChar, if_neg (Ne.symm absent.1), ih absent.2]

end ReferencePages.Text
