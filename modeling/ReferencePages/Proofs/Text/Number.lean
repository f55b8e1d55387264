import ReferencePages.Text
/-!
Numbers in texts. The digits of a number are those of no other number, and a text that ends with the digits of a
number behind some other character tells where they begin.
-/

namespace ReferencePages.Text

theorem not_mem_ofNat {c : Char} (other : c.isDigit = false) (n : Nat) : c ∉ ofNat n := by
  intro digit
  rw [Nat.isDigit_of_mem_toDigits (by decide) (by decide) digit] at other
  cases other

theorem ofNat_injective : Function.Injective ofNat := by
  intro m n same
  rw [← @Nat.ofDigitChars_ten_toDigits m, ← @Nat.ofDigitChars_ten_toDigits n]
  exact congrArg (Nat.ofDigitChars 10 · 0) same

/-- A text is cut in one way only at the last of the characters of a kind. -/
theorem append_cons_inj {c : Char} {a b rest rest' : Text} (absent : c ∉ rest) (absent' : c ∉ rest')
    (same : a ++ c :: rest = b ++ c :: rest') : a = b ∧ rest = rest' := by
  rcases List.append_eq_append_iff.mp same with ⟨between, rfl, later⟩ | ⟨between, rfl, later⟩
  all_goals
    cases between with
    | nil =>
      cases later
      exact ⟨by rw [List.append_nil], rfl⟩
    | cons d between =>
      cases later
      simp at absent absent'

end ReferencePages.Text
