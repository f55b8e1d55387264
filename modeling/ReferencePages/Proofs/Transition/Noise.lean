import ReferencePages.Proofs.Transition.Arm
import ReferencePages.Proofs.Transition.Qualifier
/-!
Which lines of a match block are left out. A line is left out for a word in it, the name of the matched value or
the return of an error, and such a word stands in an arm only where a name, an argument or a guard has it.
-/

namespace ReferencePages.Transition

/-! ### The words that make a line noise -/

/-- The words of a statement that returns an error, with certain blanks between them. -/
def errorReturn (gap : Text) : Text := ['r', 'e', 't', 'u', 'r', 'n'] ++ (gap ++ ['E', 'r', 'r'])

theorem afterReturn?_isSome {s : Text} :
    ((Text.afterKeywords? ["return"] s).bind (Text.after? "Err")).isSome = true ↔
      ∃ gap, gap ≠ [] ∧ (∀ c ∈ gap, Text.isBlank c = true) ∧ errorReturn gap <+: s := by
  constructor
  · intro read
    obtain ⟨found, read⟩ := Option.isSome_iff_exists.mp read
    obtain ⟨rest, keyword, read⟩ := Option.bind_eq_some_iff.mp read
    obtain ⟨more, blanks, last⟩ := Option.bind_eq_some_iff.mp keyword
    obtain ⟨gap, word, blanks⟩ := Option.bind_eq_some_iff.mp blanks
    have start : s = ['r', 'e', 't', 'u', 'r', 'n'] ++ gap := Text.after?_eq_some.mp word
    have same : more = rest := Option.some.inj last
    have error : rest = ['E', 'r', 'r'] ++ found := Text.after?_eq_some.mp read
    cases gap with
    | nil => cases blanks
    | cons c gap =>
      rw [Text.afterBlanks?] at blanks
      split at blanks
      · rename_i first
        have trimmed : Text.trimStart gap = more := Option.some.inj blanks
        obtain ⟨margin, split, blank, _⟩ := Text.trimStart_split gap
        refine ⟨c :: margin, List.cons_ne_nil _ _, List.forall_mem_cons.mpr ⟨first, blank⟩, found, ?_⟩
        rw [start, split, trimmed, same, error]
        simp [errorReturn]
      · cases blanks
  · rintro ⟨gap, some, blank, rest, rfl⟩
    cases gap with
    | nil => exact absurd rfl some
    | cons c margin =>
      obtain ⟨first, later⟩ := List.forall_mem_cons.mp blank
      have trimmed : Text.trimStart (margin ++ (['E', 'r', 'r'] ++ rest)) = ['E', 'r', 'r'] ++ rest :=
        Text.trimStart_margin later _ rfl
      have word : Text.after? "return" (errorReturn (c :: margin) ++ rest) =
          Option.some (c :: (margin ++ (['E', 'r', 'r'] ++ rest))) := by
        have split : errorReturn (c :: margin) ++ rest =
            "return".toList ++ (c :: (margin ++ (['E', 'r', 'r'] ++ rest))) := by simp [errorReturn]
        rw [split, Text.after?_append]
      have error : Text.after? "Err" (['E', 'r', 'r'] ++ rest) = Option.some rest := Text.after?_append _ _
      have read : Text.afterKeywords? ["return"] (errorReturn (c :: margin) ++ rest) =
          Option.some (['E', 'r', 'r'] ++ rest) := by
        rw [Text.afterKeywords?, word, Option.bind_some, Text.afterBlanks?, if_pos first, trimmed]
        rfl
      rw [read, Option.bind_some, error]
      rfl

theorem isErrorReturn_iff {s : Text} :
    isErrorReturn s = true ↔
      ∃ gap, gap ≠ [] ∧ (∀ c ∈ gap, Text.isBlank c = true) ∧ errorReturn gap <:+: s := by
  rw [isErrorReturn, Text.findRead?_isSome]
  constructor
  · rintro ⟨a, b, rfl, read⟩
    obtain ⟨gap, some, blank, start⟩ := afterReturn?_isSome.mp read
    exact ⟨gap, some, blank, start.isInfix.trans (List.suffix_append a b).isInfix⟩
  · rintro ⟨gap, some, blank, a, b, rfl⟩
    refine ⟨a, errorReturn gap ++ b, List.append_assoc .., afterReturn?_isSome.mpr ?_⟩
    exact ⟨gap, some, blank, List.prefix_append _ _⟩

/-- A line without the name of the matched value is no arm for the remaining states. -/
theorem isCatchAll_eq_false {s : Text} (absent : ¬ ("from_state".toList : Text) <:+: s) :
    isCatchAll s = false := by
  have unread : Text.findRead? (fun s => (Text.after? "from_state" s).bind fun rest =>
      if Text.contains "=>" (Text.firstLine rest) then some () else none) s = none := by
    refine Text.findRead?_eq_none ?_
    rintro a b rfl
    have unfound : ¬ ("from_state".toList : Text) <+: b := fun start =>
      absent (start.isInfix.trans (List.suffix_append a b).isInfix)
    rw [Text.after?_eq_none unfound]
    rfl
  rw [isCatchAll, unread]
  rfl

/-! ### Where such a word can stand -/

/-- A word of several letters that has no sign of an arm in it and does not begin within the word before a
guard. -/
structure IsLoudWord (w : Text) : Prop where
  signs : ∀ d ∈ ['(', ')', '|', ',', '=', '>', '{', '}'], d ∉ w
  first : ∃ x y v, w = x :: y :: v ∧ Text.isBlank x = false ∧ x ≠ 'i' ∧ (x = 'f' → y ≠ ' ')
  last : ∃ v z, w = v ++ [z] ∧ Text.isBlank z = false

theorem isLoudWord_fromState : IsLoudWord "from_state" where
  signs := by decide
  first := ⟨'f', 'r', "om_state", rfl, rfl, by decide, by decide⟩
  last := ⟨"from_stat", 'e', by decide, rfl⟩

theorem isLoudWord_errorReturn {gap : Text} (blank : ∀ c ∈ gap, Text.isBlank c = true) :
    IsLoudWord (errorReturn gap) where
  signs := by
    have other : ∀ d ∈ ['(', ')', '|', ',', '=', '>', '{', '}'],
        Text.isBlank d = false ∧ d ∉ ['r', 'e', 't', 'u', 'r', 'n'] ∧ d ∉ ['E', 'r', 'r'] := by decide
    intro d sign member
    obtain ⟨filled, notReturn, notError⟩ := other d sign
    rcases List.mem_append.mp member with word | rest
    · exact notReturn word
    · rcases List.mem_append.mp rest with inside | word
      · rw [blank d inside] at filled
        cases filled
      · exact notError word
  first := ⟨'r', 'e', _, rfl, rfl, by decide, by decide⟩
  last := ⟨['r', 'e', 't', 'u', 'r', 'n'] ++ (gap ++ ['E', 'r']), 'r', by simp [errorReturn], rfl⟩

namespace IsLoudWord

variable {w : Text} (loud : IsLoudWord w)

include loud

theorem ne_nil : w ≠ [] := by
  obtain ⟨x, y, v, rfl, _⟩ := loud.first
  exact List.cons_ne_nil _ _

theorem infix_nil : ¬ w <:+: [] := fun found => loud.ne_nil (List.infix_nil.mp found)

/-- A word stands after a margin. -/
theorem infix_margin {margin : Text} (blank : ∀ c ∈ margin, Text.isBlank c = true) (s : Text) :
    w <:+: margin ++ s ↔ w <:+: s := by
  obtain ⟨x, y, v, rfl, filled, _⟩ := loud.first
  induction margin with
  | nil => rfl
  | cons c margin ih =>
    have other : x ≠ c := by
      rintro rfl
      rw [blank x (List.mem_cons_self ..)] at filled
      cases filled
    rw [List.cons_append, Text.infix_cons_of_head other, ih fun d member => blank d (List.mem_cons_of_mem _ member)]

theorem infix_space (s : Text) : w <:+: ' ' :: s ↔ w <:+: s := @infix_margin w loud [' '] (by decide) s

theorem infix_alternatives {names : List Text} (found : w <:+: alternatives names) : ∃ n ∈ names, w <:+: n := by
  induction names with
  | nil => exact absurd found loud.infix_nil
  | cons name rest ih =>
    cases rest with
    | nil =>
      rw [alternatives_single] at found
      exact ⟨name, List.mem_cons_self .., found⟩
    | cons next rest =>
      obtain ⟨v, z, ends, filled⟩ := loud.last
      have other : z ≠ ' ' := by
        rintro rfl
        cases filled
      have split : alternatives (name :: next :: rest) =
          (name ++ [' ']) ++ '|' :: (' ' :: alternatives (next :: rest)) := by
        rw [alternatives_cons]
        simp
      rw [split, Text.infix_append_cons (loud.signs '|' (by decide)), loud.infix_space] at found
      rcases found with first | later
      · rw [ends, Text.infix_concat_of_last other, ← ends] at first
        exact ⟨name, List.mem_cons_self .., first⟩
      · obtain ⟨n, member, within⟩ := ih later
        exact ⟨n, List.mem_cons_of_mem _ member, within⟩

theorem infix_condition {guard : Option Text} (found : w <:+: condition guard) : ∃ g ∈ guard, w <:+: g := by
  cases guard with
  | none => exact absurd found loud.infix_nil
  | some g =>
    obtain ⟨x, y, v, rfl, filled, notI, notF⟩ := loud.first
    rw [condition_some, loud.infix_space, Text.infix_cons_of_head notI] at found
    rcases List.infix_cons_iff.mp found with start | later
    · obtain ⟨same, rest⟩ := List.cons_prefix_cons.mp start
      exact absurd (List.cons_prefix_cons.mp rest).1 (notF same)
    · exact ⟨g, rfl, (loud.infix_space g).mp later⟩

/-- A word stands in an arm where one of its parts has it. -/
theorem infix_armHead {sources : List Text} {event : Text} {payload guard : Option Text} {tail : Text}
    (found : w <:+: armHead sources event payload guard ++ tail) :
    (∃ n ∈ sources, w <:+: n) ∨ w <:+: event ∨ (∃ p ∈ payload, w <:+: p) ∨ (∃ g ∈ guard, w <:+: g) ∨
      w <:+: tail := by
  obtain ⟨v, z, ends, filled⟩ := loud.last
  have other : z ≠ ' ' := by
    rintro rfl
    cases filled
  have split : armHead sources event payload guard ++ tail =
      ([] ++ '(' :: (alternatives sources ++ ',' :: (' ' :: (event ++ argument payload)))) ++
        ')' :: ((condition guard ++ [' ']) ++ '=' :: ([] ++ '>' :: tail)) := by
    simp [armHead, armPattern]
  have absent : ∀ d ∈ ['(', ')', '|', ',', '=', '>', '{', '}'], d ∉ w := loud.signs
  rw [split, Text.infix_append_cons (absent ')' (by decide)), Text.infix_append_cons (absent '(' (by decide)),
    Text.infix_append_cons (absent ',' (by decide)), Text.infix_append_cons (absent '=' (by decide)),
    Text.infix_append_cons (absent '>' (by decide)), loud.infix_space] at found
  rcases found with (none | names | second) | (guarded | none | last)
  · exact absurd none loud.infix_nil
  · exact .inl (loud.infix_alternatives names)
  · cases payload with
    | none =>
      rw [argument, List.append_nil] at second
      exact .inr (.inl second)
    | some p =>
      rw [argument_some, Text.infix_append_cons (absent '(' (by decide)),
        Text.infix_append_cons (absent ')' (by decide))] at second
      rcases second with here | carried | none
      · exact .inr (.inl here)
      · exact .inr (.inr (.inl ⟨p, rfl, carried⟩))
      · exact absurd none loud.infix_nil
  · rw [ends, Text.infix_concat_of_last other, ← ends] at guarded
    exact .inr (.inr (.inr (.inl (loud.infix_condition guarded))))
  · exact absurd none loud.infix_nil
  · exact .inr (.inr (.inr (.inr last)))

end IsLoudWord

/-- A text that keeps no line from being read. -/
structure IsQuiet (s : Text) : Prop where
  state : ¬ ("from_state".toList : Text) <:+: s
  error : isErrorReturn s = false

/-- A word for which a line is left out. -/
def IsNoiseWord (w : Text) : Prop :=
  w = "from_state".toList ∨ ∃ gap, gap ≠ [] ∧ (∀ c ∈ gap, Text.isBlank c = true) ∧ w = errorReturn gap

theorem IsNoiseWord.isLoudWord {w : Text} (noise : IsNoiseWord w) : IsLoudWord w := by
  rcases noise with rfl | ⟨gap, _, blank, rfl⟩
  · exact isLoudWord_fromState
  · exact isLoudWord_errorReturn blank

/-- A text is quiet if no such word stands in it. -/
theorem isQuiet_iff {s : Text} : IsQuiet s ↔ ∀ w, IsNoiseWord w → ¬ w <:+: s := by
  constructor
  · rintro ⟨state, error⟩ w (rfl | ⟨gap, some, blank, rfl⟩) found
    · exact state found
    · rw [isErrorReturn_iff.mpr ⟨gap, some, blank, found⟩] at error
      cases error
  · intro absent
    refine ⟨absent _ (.inl rfl), ?_⟩
    rw [Bool.eq_false_iff, Ne, isErrorReturn_iff]
    rintro ⟨gap, some, blank, found⟩
    exact absent _ (.inr ⟨gap, some, blank, rfl⟩) found

/-- A blank line or a comment line. -/
def isFiller (line : Text) : Bool := Text.isAllBlank line || isComment line

/-- Of quiet lines only blank ones and comments are left out. -/
theorem IsQuiet.isNoise {line : Text} (quiet : IsQuiet line) : isNoise line = isFiller line := by
  rw [Transition.isNoise, isCatchAll_eq_false quiet.state, quiet.error, Bool.or_false, Bool.or_false]
  rfl

theorem IsQuiet.armHead {margin : Text} (blank : ∀ c ∈ margin, Text.isBlank c = true) {sources : List Text}
    {event tail : Text} {payload guard : Option Text} (names : ∀ n ∈ sources, IsQuiet n) (isEvent : IsQuiet event)
    (carried : ∀ p ∈ payload, IsQuiet p) (guarded : ∀ g ∈ guard, IsQuiet g) (last : IsQuiet tail) :
    IsQuiet (margin ++ (armHead sources event payload guard ++ tail)) := by
  refine isQuiet_iff.mpr fun w noise found => ?_
  rw [noise.isLoudWord.infix_margin blank] at found
  rcases noise.isLoudWord.infix_armHead found with
    ⟨n, member, inside⟩ | inside | ⟨p, member, inside⟩ | ⟨g, member, inside⟩ | inside
  · exact isQuiet_iff.mp (names n member) w noise inside
  · exact isQuiet_iff.mp isEvent w noise inside
  · exact isQuiet_iff.mp (carried p member) w noise inside
  · exact isQuiet_iff.mp (guarded g member) w noise inside
  · exact isQuiet_iff.mp last w noise inside

theorem IsQuiet.margin {margin s : Text} (blank : ∀ c ∈ margin, Text.isBlank c = true) (quiet : IsQuiet s) :
    IsQuiet (margin ++ s) :=
  isQuiet_iff.mpr fun w noise found =>
    isQuiet_iff.mp quiet w noise ((noise.isLoudWord.infix_margin blank s).mp found)

theorem IsQuiet.append_sign {d : Char} (sign : d ∈ ['(', ')', '|', ',', '=', '>', '{', '}']) {s t : Text}
    (first : IsQuiet s) (second : IsQuiet t) : IsQuiet (s ++ d :: t) := by
  refine isQuiet_iff.mpr fun w noise found => ?_
  rcases (Text.infix_append_cons (noise.isLoudWord.signs d sign) s t).mp found with inside | inside
  · exact isQuiet_iff.mp first w noise inside
  · exact isQuiet_iff.mp second w noise inside

theorem isQuiet_nil : IsQuiet [] := isQuiet_iff.mpr fun _ noise => noise.isLoudWord.infix_nil

end ReferencePages.Transition
