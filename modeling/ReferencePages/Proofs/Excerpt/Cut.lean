import ReferencePages.Excerpt
import ReferencePages.Proofs.Text.Infix
/-!
What is shown of a text that may be too long. Either it is shown whole or its beginning is shown with three dots
behind it, so that what is shown begins and ends as the text does or with a dot, and holds no word that the text does
not hold.
-/

namespace ReferencePages.Excerpt

/-- What is shown of a text where at most `limit` characters have room: the text, or the beginning of it that leaves
room for three dots. -/
inductive IsCut (limit : Int) (text : Text) : Text → Prop
  | whole (fits : text.length ≤ limit) : IsCut limit text text
  | dotted {kept : Text} (long : limit < text.length) (begins : kept <+: text) (size : kept.length = limit - 3) :
    IsCut limit text (kept ++ "...")

namespace IsCut

variable {limit : Int} {text shown : Text}

theorem length_le (cut : IsCut limit text shown) : shown.length ≤ limit := by
  cases cut with
  | whole fits => exact fits
  | dotted _ _ size =>
    rw [List.length_append]
    -- The dots take up the three characters that the beginning leaves.
    change ((_ + 3 : Nat) : Int) ≤ limit
    omega

/-- A text that is cut begins as it did, or with a dot. -/
theorem head?_cases (cut : IsCut limit text shown) : ∀ c ∈ shown.head?, c ∈ text.head? ∨ c = '.' := by
  intro c head
  cases cut with
  | whole => exact .inl head
  | @dotted kept _ begins =>
    -- With three characters of room, nothing but the dots is shown.
    cases kept with
    | nil =>
      cases head
      exact .inr rfl
    | cons d kept => exact .inl (Text.head?_of_prefix begins c head)

/-- A text that is cut ends as it did, or with a dot. -/
theorem getLast?_cases (cut : IsCut limit text shown) : ∀ c ∈ shown.getLast?, c ∈ text.getLast? ∨ c = '.' := by
  intro c last
  cases cut with
  | whole => exact .inl last
  | dotted =>
    rw [List.getLast?_append] at last
    cases last
    exact .inr rfl

/-- No word comes about by a cut but one that ends with a dot. -/
theorem not_infix (cut : IsCut limit text shown) {w : Text} {z : Char} (other : z ≠ '.')
    (absent : ¬ w ++ [z] <:+: text) : ¬ w ++ [z] <:+: shown := by
  cases cut with
  | whole => exact absent
  | dotted _ begins =>
    have apart : ∀ c ∈ (w ++ [z]).getLast?, c ∉ ("...".toList : Text) := by
      intro c last member
      rw [List.getLast?_concat] at last
      cases last
      exact other (by simpa using member)
    rw [Text.infix_append_of_last apart]
    exact fun within => absent (within.trans begins.isInfix)

theorem ne_nil (cut : IsCut limit text shown) (filled : text ≠ []) : shown ≠ [] := by
  cases cut with
  | whole => exact filled
  | dotted => exact List.append_ne_nil_of_right_ne_nil _ (by decide)

end IsCut

theorem isCut_take {text : Text} {limit : Int} (room : 3 ≤ limit) (long : limit < text.length) :
    IsCut limit text (text.take (limit - 3).toNat ++ "...") := by
  refine .dotted long (List.take_prefix _ _) ?_
  rw [List.length_take]
  omega

theorem isCut_truncate (text : Text) {limit : Int} (room : 3 ≤ limit) :
    IsCut limit text (truncate text (some limit)) := by
  unfold truncate
  dsimp only
  split
  · exact .whole ‹_›
  · exact isCut_take room (by omega)

end ReferencePages.Excerpt
