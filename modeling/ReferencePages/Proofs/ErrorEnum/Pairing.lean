import ReferencePages.Proofs.ErrorEnum.Layout
import Mathlib.Data.List.Forall2
/-!
Which message belongs to which variant. The scan keeps one message at a time. Told from the places of the lines, a
message goes to the next line that declares a variant, unless another message stands in between, and to no other. What
is taken for the message ends at the first quotation mark behind its start, an escaped one included.
-/

namespace ReferencePages.Variant

open Text (FirstAt IsGap IsWord)

/-- A message stands at the start of a text, between the mark that opens it and the next one. -/
def Quotes (s message : Text) : Prop :=
  IsMessage message ∧ ∃ rest, s = "#[error(\"" ++ (message ++ '"' :: rest)

/-- There is an attribute of an error on a line. -/
def HasAttribute (line : Text) : Prop := ("#[error(" : Text) <:+: line

/-- A line has an attribute, and the message is the first that is quoted in one, or tells that there is none. -/
def Announces (line message : Text) : Prop :=
  HasAttribute line ∧
    ((∃ part, FirstAt (fun s => ∃ m, Quotes s m) line part ∧ Quotes part message) ∨
      (¬ ∃ part m, part <:+ line ∧ Quotes part m) ∧ message = complexFormat)

/-- A line without an attribute has an indented name with a capital letter in front, which is no excluded word. -/
def Declares (line name : Text) : Prop :=
  ¬ HasAttribute line ∧ ∃ gap rest, IsGap gap ∧ IsWord name ∧ line = gap ++ (name ++ rest) ∧
    (∀ c ∈ rest.head?, Text.isWordChar c = false) ∧ (∀ c ∈ name.head?, c.isUpper = true) ∧ name ∉ excludedWords

/-- The attribute in one place is the last line in front of another place that has an attribute or declares a
variant. -/
structure Waits (ls : List Text) (i n : Nat) : Prop where
  before : i < n
  marked : ∃ line, ls[i]? = some line ∧ HasAttribute line
  between : ∀ k, i < k → k < n → ∀ line, ls[k]? = some line → ¬ HasAttribute line ∧ ¬ ∃ name, Declares line name

/-- A line with an attribute and one behind it that declares a variant, with no such line in between. -/
def IsPair (ls : List Text) (i j : Nat) : Prop := Waits ls i j ∧ ∃ line name, ls[j]? = some line ∧ Declares line name

/-- The variant has its message from the first and its name from the second of two lines. -/
def Gives (ls : List Text) (pair : Nat × Nat) (v : Variant) : Prop :=
  (∃ line, ls[pair.1]? = some line ∧ Announces line v.message) ∧ ∃ line, ls[pair.2]? = some line ∧ Declares line v.name

/-! ### One line -/

theorem readMessage_eq_some (s message : Text) : readMessage s = some message ↔ Quotes s message := by
  constructor
  · intro read
    obtain ⟨behind, opened, closed⟩ := Option.bind_eq_some_iff.mp read
    obtain rfl := Text.after?_eq_some.mp opened
    split at closed
    · rename_i c kept d rest spanned
      cases closed
      obtain ⟨absent, rfl, rfl⟩ := Text.span_ne_eq_cons.mp spanned
      exact ⟨⟨List.cons_ne_nil _ _, absent⟩, rest, rfl⟩
    · cases closed
  · rintro ⟨isMessage, rest, rfl⟩
    exact readMessage_append isMessage rest

theorem announced?_eq_none {line : Text} : announced? line = none ↔ ¬ HasAttribute line := by
  rw [HasAttribute, ← Text.contains_iff, announced?]
  split <;> simp_all

theorem announced?_eq_some {line message : Text} : announced? line = some message ↔ Announces line message := by
  have read := fun m => @Text.findRead?_eq_some _ readMessage Quotes readMessage_eq_some line m
  have unread : Text.findRead? readMessage line = none ↔ ¬ ∃ part m, part <:+ line ∧ Quotes part m := by
    rw [← Option.not_isSome_iff_eq_none, Text.findRead?_isSome, not_iff_not]
    constructor
    · rintro ⟨front, part, rfl, readable⟩
      obtain ⟨m, readable⟩ := Option.isSome_iff_exists.mp readable
      exact ⟨part, m, List.suffix_append _ _, (readMessage_eq_some part m).mp readable⟩
    · rintro ⟨part, m, ⟨front, rfl⟩, quotes⟩
      exact ⟨front, part, rfl, Option.isSome_iff_exists.mpr ⟨m, (readMessage_eq_some part m).mpr quotes⟩⟩
  rw [announced?, Announces, HasAttribute, ← Text.contains_iff, ← read, ← unread]
  split
  · rename_i marked
    rw [and_iff_right marked]
    cases Text.findRead? readMessage line <;> simp [eq_comm]
  · rename_i unmarked
    exact iff_of_false (Option.some_ne_none message).symm fun announces => unmarked announces.1

theorem declared?_eq_some {line name : Text} (silent : ¬ HasAttribute line) :
    declared? line = some name ↔ Declares line name := by
  simp only [declared?, Declares, bind, Option.bind_eq_some_iff, Text.afterBlanks?_eq_some, Prod.exists,
    Text.name?_eq_some]
  constructor
  · rintro ⟨next, ⟨gap, blank, rfl, _⟩, word, rest, ⟨isWord, rfl, stop⟩, kept⟩
    cases word with
    | nil => cases kept
    | cons c s =>
      dsimp only at kept
      split at kept
      · rename_i capital
        cases kept
        rw [Bool.and_eq_true, Bool.not_eq_true', Bool.eq_false_iff, ne_eq, List.contains_iff_mem] at capital
        refine ⟨silent, gap, rest, blank, isWord, rfl, stop, fun d first => ?_, capital.2⟩
        cases first
        exact capital.1
      · cases kept
  · rintro ⟨_, gap, rest, blank, isWord, rfl, stop, capital, allowed⟩
    refine ⟨name ++ rest, ⟨gap, blank, rfl, isWord.isFilled rest⟩, name, rest, ⟨isWord, rfl, stop⟩, ?_⟩
    cases name with
    | nil => exact isWord.elim
    | cons c s =>
      have free : excludedWords.contains (c :: s) = false := by
        rw [Bool.eq_false_iff, ne_eq, List.contains_iff_mem]
        exact allowed
      dsimp only
      rw [capital c rfl, free]
      rfl

/-! ### Literals -/

/-- Whether a text can stand between the marks of a literal, in which a backslash takes the character behind it
along. -/
def isLiteral : Text → Bool
  | [] => true
  | ['\\'] => false
  | '\\' :: _ :: s => isLiteral s
  | c :: s => c != '"' && isLiteral s

/-- A literal that is not empty stands directly behind the start of the first attribute of a line. -/
def FirstLiteral (line literal : Text) : Prop :=
  literal ≠ [] ∧ isLiteral literal = true ∧ ∃ front rest, ¬ HasAttribute front ∧
    line = front ++ ("#[error(\"" ++ (literal ++ '"' :: rest))

/-- A literal is quoted up to the first mark in it. -/
theorem quotes_literal {literal : Text} (filled : literal ≠ []) (isLiteral : isLiteral literal = true) (rest : Text) :
    Quotes ("#[error(\"" ++ (literal ++ '"' :: rest)) (literal.takeWhile (· != '"')) := by
  have absent : '"' ∉ literal.takeWhile (· != '"') := fun member => by
    have kept := List.mem_takeWhile_imp member
    simp at kept
  have some : literal.takeWhile (· != '"') ≠ [] := by
    cases literal with
    | nil => exact absurd rfl filled
    | cons c s =>
      have other : (c != '"') = true := by
        rw [bne_iff_ne]
        rintro rfl
        cases isLiteral
      rw [List.takeWhile_cons, if_pos other]
      exact List.cons_ne_nil _ _
  have split : literal.takeWhile (· != '"') ++ literal.dropWhile (· != '"') = literal :=
    List.takeWhile_append_dropWhile
  refine ⟨⟨some, absent⟩, ?_⟩
  cases behind : literal.dropWhile (· != '"') with
  | nil =>
    rw [behind, List.append_nil] at split
    exact ⟨rest, by rw [split]⟩
  | cons d s =>
    have mark := List.head?_dropWhile_not (· != '"') literal
    rw [behind] at mark split
    obtain rfl : d = '"' := by simpa using mark
    refine ⟨s ++ '"' :: rest, ?_⟩
    rw [← List.cons_append, ← List.append_assoc (List.takeWhile _ _), split]

/-- Where the first attribute of a line has a literal, the message is the literal up to the first mark in it. -/
theorem announces_literal {line literal : Text} (first : FirstLiteral line literal) :
    Announces line (literal.takeWhile (· != '"')) := by
  obtain ⟨filled, isLiteral, front, rest, bare, rfl⟩ := first
  have quotes := quotes_literal filled isLiteral rest
  have sign : ("#[error(" : Text) <+: ("#[error(\"" : Text) := by simp
  refine ⟨(sign.trans (List.prefix_append _ _)).isInfix.trans (List.suffix_append _ _).isInfix, .inl
    ⟨_, ⟨List.suffix_append _ _, ⟨_, quotes⟩, fun other within readable => ?_⟩, quotes⟩⟩
  obtain ⟨m, _, behind, rfl⟩ := readable
  rcases List.suffix_or_suffix_of_suffix within (List.suffix_append front _) with inner | ⟨x, outer⟩
  · exact inner
  · -- A place further to the left would have the sign in front of the attribute.
    cases x with
    | nil => exact ⟨[], outer.symm⟩
    | cons c x =>
      exfalso
      obtain ⟨y, whole⟩ := within
      rw [← outer, ← List.append_assoc, List.append_cancel_right_eq] at whole
      have start : ("#[error(" : Text) <+: (c :: x) ++ ("#[error(\"" ++ (literal ++ '"' :: rest)) := by
        rw [outer]
        exact sign.trans (List.prefix_append _ _)
      have signs : ("#[error(" : Text) = '#' :: ("[error(" : Text) := by simp
      have again : ("#[error(\"" : Text) ++ (literal ++ '"' :: rest) =
          '#' :: (("[error(\"" : Text) ++ (literal ++ '"' :: rest)) := by simp
      rw [signs, again, List.cons_append, List.cons_prefix_cons, Text.prefix_append_cons (by simp)] at start
      refine bare (whole ▸ ?_)
      rw [HasAttribute, signs, start.1]
      exact (List.cons_prefix_cons.mpr ⟨rfl, start.2⟩).isInfix.trans (List.suffix_append y _).isInfix

/-! ### Attributes that wait -/

section Waiting

variable {ls : List Text} {i j n : Nat} {line : Text}

theorem Waits.succ (here : ls[n]? = some line) (silent : ¬ HasAttribute line ∧ ¬ ∃ name, Declares line name) :
    Waits ls i (n + 1) ↔ Waits ls i n := by
  constructor
  · rintro ⟨before, marked, between⟩
    refine ⟨?_, marked, fun k above below => between k above (by omega)⟩
    rcases Nat.lt_succ_iff_lt_or_eq.mp before with earlier | rfl
    · exact earlier
    · obtain ⟨other, there, has⟩ := marked
      cases here.symm.trans there
      exact absurd has silent.1
  · rintro ⟨before, marked, between⟩
    refine ⟨by omega, marked, fun k above below other there => ?_⟩
    rcases Nat.lt_succ_iff_lt_or_eq.mp below with earlier | rfl
    · exact between k above earlier other there
    · cases here.symm.trans there
      exact silent

/-- Behind an attribute it is the one that waits. -/
theorem waits_of_attribute (here : ls[n]? = some line) (has : HasAttribute line) : Waits ls n (n + 1) :=
  ⟨Nat.lt_succ_self n, ⟨line, here, has⟩, fun k above below => absurd below (by omega)⟩

/-- In front of a place no two attributes wait. -/
theorem Waits.unique (waits : Waits ls i n) (waits' : Waits ls j n) : i = j := by
  rcases Nat.lt_trichotomy i j with before | same | behind
  · obtain ⟨line, there, has⟩ := waits'.marked
    exact absurd has (waits.between j before waits'.before line there).1
  · exact same
  · obtain ⟨line, there, has⟩ := waits.marked
    exact absurd has (waits'.between i behind waits.before line there).1

/-- An attribute that waits behind a declaration stands behind it. -/
theorem Waits.behind (waits : Waits ls i j) (here : ls[n]? = some line) {name : Text} (declares : Declares line name)
    (before : n < j) : n < i := by
  rcases Nat.lt_trichotomy i n with earlier | rfl | later
  · exact absurd ⟨name, declares⟩ (waits.between n earlier before line here).2
  · obtain ⟨other, there, has⟩ := waits.marked
    cases here.symm.trans there
    exact absurd has declares.1
  · exact later

/-- A line that completes a pair declares a variant. -/
theorem IsPair.declares (isPair : IsPair ls i n) (here : ls[n]? = some line) : ∃ name, Declares line name := by
  obtain ⟨_, other, name, there, declares⟩ := isPair
  cases here.symm.trans there
  exact ⟨name, declares⟩

/-! ### All lines -/

/-- The message that a scan keeps is that of the attribute that waits. -/
def Tracks (ls : List Text) (n : Nat) : Option Text → Prop
  | none => ∀ i, ¬ Waits ls i n
  | some message => ∃ i line, Waits ls i n ∧ ls[i]? = some line ∧ Announces line message

theorem Tracks.silent {pending : Option Text} (tracks : Tracks ls n pending) (here : ls[n]? = some line)
    (silent : ¬ HasAttribute line ∧ ¬ ∃ name, Declares line name) : Tracks ls (n + 1) pending := by
  cases pending with
  | none => exact fun i waits => tracks i ((Waits.succ here silent).mp waits)
  | some message =>
    obtain ⟨i, other, waits, there, announces⟩ := tracks
    exact ⟨i, other, (Waits.succ here silent).mpr waits, there, announces⟩

theorem tracks_announced {message : Text} (here : ls[n]? = some line) (announces : Announces line message) :
    Tracks ls (n + 1) (some message) := ⟨n, line, waits_of_attribute here announces.1, here, announces⟩

/-- Behind a declaration no attribute waits. -/
theorem tracks_declared {name : Text} (here : ls[n]? = some line) (declares : Declares line name) :
    Tracks ls (n + 1) none := by
  intro i waits
  have behind := waits.behind here declares (Nat.lt_succ_self n)
  have before := waits.before
  omega

/-- The variants come from the pairs of which the second line stands in this place or behind it: each from one, and
one from each. -/
def PairedFrom (ls : List Text) (n : Nat) (vs : List Variant) : Prop :=
  ∃ pairs : List (Nat × Nat), pairs.Pairwise (fun p q => p.2 < q.1) ∧
    (∀ i j, (i, j) ∈ pairs ↔ n ≤ j ∧ IsPair ls i j) ∧ List.Forall₂ (Gives ls) pairs vs

variable {vs : List Variant}

/-- Where no pair is completed here, all are completed later. -/
theorem PairedFrom.skip (later : PairedFrom ls (n + 1) vs) (none : ∀ i, ¬ IsPair ls i n) : PairedFrom ls n vs := by
  obtain ⟨pairs, apart, each, given⟩ := later
  refine ⟨pairs, apart, fun i j => ?_, given⟩
  rw [each i j]
  refine and_congr_left fun isPair => ⟨Nat.le_of_succ_le, fun from' => ?_⟩
  rcases Nat.eq_or_lt_of_le from' with rfl | behind
  · exact absurd isPair (none i)
  · exact behind

/-- The pair that is completed here stands before all later ones. -/
theorem PairedFrom.cons {v : Variant} (later : PairedFrom ls (n + 1) vs) (isPair : IsPair ls i n)
    (gives : Gives ls (i, n) v) : PairedFrom ls n (v :: vs) := by
  obtain ⟨pairs, apart, each, given⟩ := later
  obtain ⟨line, name, here, declares⟩ := isPair.2
  refine ⟨(i, n) :: pairs, List.pairwise_cons.mpr ⟨fun pair member => ?_, apart⟩, fun i' j' => ?_, .cons gives given⟩
  · obtain ⟨from', completed⟩ := (each pair.1 pair.2).mp member
    exact completed.1.behind here declares from'
  · rw [List.mem_cons, each i' j', Prod.mk.injEq]
    constructor
    · rintro (⟨rfl, rfl⟩ | ⟨from', completed⟩)
      · exact ⟨Nat.le_refl _, isPair⟩
      · exact ⟨Nat.le_of_succ_le from', completed⟩
    · rintro ⟨from', completed⟩
      rcases Nat.eq_or_lt_of_le from' with rfl | behind
      · exact .inl ⟨completed.1.unique isPair.1, rfl⟩
      · exact .inr ⟨behind, completed⟩

theorem ofLines_paired {pending : Option Text} (tracks : Tracks ls n pending) :
    PairedFrom ls n (ofLines pending (ls.drop n)) := by
  induction rest : ls.drop n generalizing n pending with
  | nil =>
    refine ⟨[], .nil, fun i j => iff_of_false List.not_mem_nil ?_, .nil⟩
    rintro ⟨from', _, line, name, there, _⟩
    have ended := List.drop_eq_nil_iff.mp rest
    have within := (List.getElem?_eq_some_iff.mp there).1
    omega
  | cons line rest' ih =>
    have here : ls[n]? = some line := by
      rw [← List.head?_drop, rest]
      rfl
    have later : ls.drop (n + 1) = rest' := by
      rw [← List.drop_drop, rest]
      rfl
    cases announced : announced? line with
    | some message =>
      have announces := announced?_eq_some.mp announced
      have behind := ih (tracks_announced here announces) later
      simp only [ofLines, announced]
      refine behind.skip fun i isPair => ?_
      obtain ⟨name, declares⟩ := isPair.declares here
      exact declares.1 announces.1
    | none =>
      have silent := announced?_eq_none.mp announced
      cases declared : declared? line with
      | none =>
        have undeclared : ¬ ∃ name, Declares line name := by
          rintro ⟨name, declares⟩
          rw [(declared?_eq_some silent).mpr declares] at declared
          cases declared
        rw [ofLines_of_silent ⟨announced, declared⟩]
        exact (ih (tracks.silent here ⟨silent, undeclared⟩) later).skip fun i isPair => undeclared (isPair.declares here)
      | some name =>
        have declares := (declared?_eq_some silent).mp declared
        have behind := ih (tracks_declared here declares) later
        cases pending with
        | none =>
          simp only [ofLines, announced, declared]
          exact behind.skip fun i isPair => tracks i isPair.1
        | some message =>
          obtain ⟨i, other, waits, there, announces⟩ := tracks
          simp only [ofLines, announced, declared]
          exact behind.cons ⟨waits, line, name, here, declares⟩ ⟨⟨other, there, announces⟩, line, here, declares⟩

end Waiting

/-- The variants of a body are those of its pairs, in the order of the lines: each has its name from the second line of
its pair and its message from the first, no line is in two pairs, and no pair is left out. The message is what is quoted
in the attribute, or tells that there is nothing quoted. Of a literal behind the attribute it has the part in front of
the first quotation mark, so all of it if no mark is escaped in it. -/
theorem extract_paired (body : Text) :
    (∃ pairs : List (Nat × Nat), pairs.Pairwise (fun p q => p.2 < q.1) ∧
      (∀ i j, (i, j) ∈ pairs ↔ IsPair (Text.lines body) i j) ∧
      List.Forall₂ (Gives (Text.lines body)) pairs (extract body)) ∧
    ∀ line literal message : Text, FirstLiteral line literal → Announces line message →
      message = literal.takeWhile (· != '"') := by
  constructor
  · have nothing : Tracks (Text.lines body) 0 none := fun i waits => absurd waits.before (Nat.not_lt_zero i)
    obtain ⟨pairs, apart, each, given⟩ := ofLines_paired nothing
    refine ⟨pairs, apart, fun i j => ?_, given⟩
    rw [each i j, and_iff_right (Nat.zero_le j)]
  · intro line literal message first announces
    have read := announced?_eq_some.mpr (announces_literal first)
    rw [announced?_eq_some.mpr announces] at read
    exact Option.some.inj read

/-- A message in which a word is quoted. -/
def quotedWord : Text := "no key \\\"\x7b0\x7d\\\""

def quotedWordLine : Text := "    " ++ ("#[error(\"" ++ (quotedWord ++ '"' :: (")]" : Text)))

/-- Of a literal with an escaped quotation mark the rest is lost. -/
theorem escaped_mark_cuts :
    FirstLiteral quotedWordLine quotedWord ∧
      extract (Text.unlines [quotedWordLine, "    Missing(String),"]) = [⟨"Missing", "no key \\"⟩] := by
  refine ⟨⟨by decide, by decide, "    ", ")]", ?_, rfl⟩, by decide +kernel⟩
  rw [HasAttribute]
  decide

end ReferencePages.Variant
