import ReferencePages.ConfigStruct
import ReferencePages.Proofs.Excerpt.Cut
import ReferencePages.Proofs.Text.Trim
/-!
The first sentence of a documentation and how it is cut. A sentence ends at the first period with a space behind it,
and a cut brings about no such period, so that what is cut is a sentence again.
-/

namespace ReferencePages.ConfigStruct

open Excerpt (IsCut)

/-- The first sentence of a text: all of it if no period in it has a space behind it, else the part up to the first
one that has. -/
inductive IsSentence : (text sentence : Text) → Prop
  | unended {text : Text} (single : ¬ (". ".toList : Text) <:+: text) : IsSentence text text
  | ended {before after : Text} (first : ¬ (". ".toList : Text) <:+: before ++ ".") :
    IsSentence (before ++ (". " ++ after)) (before ++ ".")

namespace IsSentence

variable {text sentence : Text}

theorem isPrefix (first : IsSentence text sentence) : sentence <+: text := by
  cases first with
  | unended => exact List.prefix_rfl
  | @ended before after => exact ⟨' ' :: after, List.append_assoc ..⟩

theorem single (first : IsSentence text sentence) : ¬ (". ".toList : Text) <:+: sentence := by
  cases first with
  | unended single => exact single
  | ended first => exact first

theorem getLast?_cases (first : IsSentence text sentence) :
    ∀ c ∈ sentence.getLast?, c ∈ text.getLast? ∨ c = '.' := by
  intro c last
  cases first with
  | unended => exact .inl last
  | ended =>
    rw [List.getLast?_append] at last
    cases last
    exact .inr rfl

end IsSentence

theorem isSentence_untilPeriod (text : Text) : IsSentence text (untilPeriod text) := by
  unfold untilPeriod
  split
  · rename_i before after cut
    have first := Text.not_infix_of_splitAtFirst? (w := ".") cut
    obtain ⟨rfl, _⟩ := Text.splitAtFirst?_eq_some cut
    exact .ended first
  · rename_i uncut
    exact .unended fun within => by
      rw [← Text.splitAtFirst?_isSome, uncut] at within
      cases within

theorem isCut_firstSentence (doc : Text) {limit : Int} (room : 3 ≤ limit) :
    IsCut limit (untilPeriod (Text.trim doc)) (firstSentence doc limit) := by
  unfold firstSentence
  dsimp only
  split
  · rename_i long
    rw [Text.takeSigned, if_pos (by omega)]
    exact Excerpt.isCut_take room long
  · exact .whole (by omega)

theorem firstSentence_eq_self {s : Text} {limit : Int} (trimmed : Text.trim s = s)
    (single : ¬ (". ".toList : Text) <:+: s) (fits : s.length ≤ limit) : firstSentence s limit = s := by
  have unended : untilPeriod s = s := by rw [untilPeriod, Text.splitAtFirst?_eq_none single]
  rw [firstSentence, trimmed, unended]
  exact if_neg (by omega)

/-- What is shown of a documentation keeps within the limit and holds no period with a space behind it. It is cut from
the first sentence, which begins the documentation without the blanks around it, and it is its own first sentence. -/
theorem firstSentence_cut (doc : Text) {limit : Int} (room : 3 ≤ limit) :
    (firstSentence doc limit).length ≤ limit ∧ ¬ (". ".toList : Text) <:+: firstSentence doc limit ∧
      (∃ sentence, IsSentence (Text.trim doc) sentence ∧ sentence <+: Text.trim doc ∧
        IsCut limit sentence (firstSentence doc limit)) ∧
      firstSentence (firstSentence doc limit) limit = firstSentence doc limit := by
  have first := isSentence_untilPeriod (Text.trim doc)
  have cut := isCut_firstSentence doc room
  have single : ¬ (". ".toList : Text) <:+: firstSentence doc limit :=
    cut.not_infix (w := ['.']) (z := ' ') (by decide) first.single
  obtain ⟨_, _, _, _, _, filled, filled'⟩ := Text.trim_split doc
  have trimmed : Text.trim (firstSentence doc limit) = firstSentence doc limit := by
    refine Text.trim_eq_self (fun c head => ?_) (fun c last => ?_)
    · rcases cut.head?_cases c head with here | rfl
      · exact filled c (Text.head?_of_prefix first.isPrefix c here)
      · decide
    · -- The last character is that of the documentation, the period of the sentence, or a dot of the cut.
      rcases cut.getLast?_cases c last with here | rfl
      · rcases first.getLast?_cases c here with there | rfl
        · exact filled' c there
        · decide
      · decide
  exact ⟨cut.length_le, single, ⟨_, first, first.isPrefix, cut⟩, firstSentence_eq_self trimmed single cut.length_le⟩

theorem firstSentence_cut_ten :
    (3 : Int) ≤ 10 ∧ firstSentence " Sizes of the pool. Read once." 10 = "Sizes o...".toList ∧
      ∃ sentence, IsSentence "Sizes of the pool. Read once." sentence ∧ IsCut 10 sentence "Sizes o...".toList := by
  have shown : firstSentence " Sizes of the pool. Read once." 10 = "Sizes o...".toList := by decide +kernel
  have trimmed : Text.trim " Sizes of the pool. Read once." = "Sizes of the pool. Read once.".toList := by
    decide +kernel
  obtain ⟨_, _, ⟨sentence, first, _, cut⟩, _⟩ := @firstSentence_cut " Sizes of the pool. Read once." 10 (by decide)
  rw [trimmed] at first
  rw [shown] at cut
  exact ⟨by decide, shown, sentence, first, cut⟩

end ReferencePages.ConfigStruct
