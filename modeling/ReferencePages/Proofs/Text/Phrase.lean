import ReferencePages.Proofs.Text.Scan
/-!
Phrases as they are written: keywords with blanks between them, names with or without quotation marks, lists
in parentheses, and parts that may be left out. Each is a relation between a text, what is said at its start
and what follows, and the readers of declarations read what stands in it.
-/

namespace ReferencePages.Text

/-- One blank or more. -/
def IsGap (s : Text) : Prop := s ≠ [] ∧ ∀ c ∈ s, isBlank c = true

instance : DecidablePred IsGap := fun s => inferInstanceAs (Decidable (s ≠ [] ∧ ∀ c ∈ s, isBlank c = true))

/-- A text that does not begin with a blank. -/
def IsFilled (s : Text) : Prop := ∀ c ∈ s.head?, isBlank c = false

theorem afterBlanks?_eq_some {s rest : Text} :
    afterBlanks? s = some rest ↔ ∃ gap, IsGap gap ∧ s = gap ++ rest ∧ IsFilled rest := by
  constructor
  · intro read
    obtain ⟨margin, split, blank, filled⟩ := trimStart_split s
    cases s with
    | nil => cases read
    | cons c s =>
      rw [afterBlanks?] at read
      split at read
      · rename_i first
        cases read
        have skipped : trimStart (c :: s) = trimStart s := List.dropWhile_cons_of_pos first
        rw [skipped] at split filled
        refine ⟨margin, ⟨?_, blank⟩, split, filled⟩
        rintro rfl
        rw [List.nil_append] at split
        rw [← split] at filled
        exact absurd first (by simp [filled c rfl])
      · cases read
  · rintro ⟨gap, ⟨some, blank⟩, rfl, filled⟩
    cases gap with
    | nil => exact absurd rfl some
    | cons c gap =>
      have later : ∀ d ∈ gap, isBlank d = true := fun d member => blank d (List.mem_cons_of_mem _ member)
      rw [List.cons_append, afterBlanks?, if_pos (blank c (List.mem_cons_self ..)), trimStart_append later]
      cases rest with
      | nil => rfl
      | cons d rest => rw [trimStart_cons rest (filled d rfl)]

/-- Keywords stand at the start of a text, each with blanks behind it, and the rest follows them. -/
def Keywords : List Text → Text → Text → Prop
  | [], s, rest => s = rest
  | word :: words, s, rest =>
    ∃ gap next, IsGap gap ∧ IsFilled next ∧ s = word ++ gap ++ next ∧ Keywords words next rest

theorem afterKeywords?_eq_some (words : List Text) (s rest : Text) :
    afterKeywords? words s = some rest ↔ Keywords words s rest := by
  induction words generalizing s with
  | nil => exact Option.some_inj
  | cons word words ih =>
    simp only [afterKeywords?, Option.bind_eq_some_iff, after?_eq_some, afterBlanks?_eq_some, Keywords, ih]
    constructor
    · rintro ⟨next, ⟨_, rfl, gap, blank, rfl, filled⟩, later⟩
      exact ⟨gap, next, blank, filled, (List.append_assoc ..).symm, later⟩
    · rintro ⟨gap, next, blank, filled, rfl, later⟩
      exact ⟨next, ⟨_, List.append_assoc .., gap, blank, rfl, filled⟩, later⟩

/-- Keywords with one blank behind each of them stand at the start of a text. -/
theorem Keywords.append (words : List Text) (plain : ∀ word ∈ words, word.head?.any (!isBlank ·) = true)
    {rest : Text} (filled : IsFilled rest) : Keywords words (words.flatMap (· ++ [' ']) ++ rest) rest :=
  (afterKeywords?_eq_some words _ rest).mp (afterKeywords?_append plain filled)

/-! ### Names -/

/-- A letter of ASCII or an underscore, and word characters behind it. -/
def IsWord : Text → Prop
  | [] => False
  | c :: s => isNameStart c = true ∧ ∀ d ∈ s, isWordChar d = true

instance : DecidablePred IsWord
  | [] => inferInstanceAs (Decidable False)
  | c :: s => inferInstanceAs (Decidable (isNameStart c = true ∧ ∀ d ∈ s, isWordChar d = true))

theorem IsWord.ne_nil {name : Text} (word : IsWord name) : name ≠ [] := by
  rintro rfl
  exact word

theorem IsWord.chars {name : Text} (word : IsWord name) : ∀ c ∈ name, isWordChar c = true := by
  cases name with
  | nil => exact word.elim
  | cons d s =>
    intro c member
    rcases List.mem_cons.mp member with rfl | later
    · exact (isNameChar_of_isNameStart word.1).isWordChar
    · exact word.2 c later

theorem IsWord.not_mem {name : Text} (word : IsWord name) {c : Char} (other : isWordChar c = false) :
    c ∉ name := by
  intro member
  rw [word.chars c member] at other
  cases other

/-- A name begins with no blank. -/
theorem IsWord.isFilled {name : Text} (word : IsWord name) (rest : Text) : IsFilled (name ++ rest) := by
  cases name with
  | nil => exact word.elim
  | cons c s =>
    intro d first
    cases first
    exact (isNameChar_of_isNameStart word.1).isBlank

theorem name?_eq_some {s name rest : Text} :
    name? s = some (name, rest) ↔
      IsWord name ∧ s = name ++ rest ∧ ∀ c ∈ rest.head?, isWordChar c = false := by
  constructor
  · intro read
    cases s with
    | nil => cases read
    | cons c s =>
      rw [name?] at read
      split at read
      · rename_i start
        cases read
        refine ⟨⟨start, fun d member => List.mem_takeWhile_imp member⟩, ?_, fun d first => ?_⟩
        · rw [List.cons_append, List.takeWhile_append_dropWhile]
        · have stops := List.head?_dropWhile_not isWordChar s
          rw [Option.mem_def.mp first] at stops
          simpa using stops
      · cases read
  · rintro ⟨word, rfl, stop⟩
    cases name with
    | nil => exact word.elim
    | cons c name =>
      rw [List.cons_append, name?, if_pos word.1, List.takeWhile_append_of_pos word.2,
        List.dropWhile_append_of_pos word.2]
      cases rest with
      | nil => rw [List.takeWhile_nil, List.dropWhile_nil, List.append_nil]
      | cons d rest =>
        have kept : ¬ isWordChar d = true := by simp [stop d rfl]
        rw [List.takeWhile_cons_of_neg kept, List.dropWhile_cons_of_neg kept, List.append_nil]

/-- No quotation mark, or one. -/
def IsQuote (s : Text) : Prop := s = [] ∨ s = ['"']

/-- A mark that is there is skipped. -/
theorem skip_quote {s rest : Text} :
    skip ['"'] s = rest ↔ ∃ quote, IsQuote quote ∧ s = quote ++ rest ∧
      (quote = [] → ∀ c ∈ rest.head?, c ≠ '"') := by
  cases s with
  | nil =>
    constructor
    · rintro rfl
      exact ⟨[], .inl rfl, rfl, nofun⟩
    · rintro ⟨quote, _, split, _⟩
      exact (List.append_eq_nil_iff.mp split.symm).2.symm
  | cons d s =>
    by_cases mark : d = '"'
    · subst mark
      have skipped : skip ['"'] ('"' :: s) = s := rfl
      rw [skipped]
      constructor
      · rintro rfl
        exact ⟨['"'], .inr rfl, rfl, nofun⟩
      · rintro ⟨quote, rfl | rfl, split, plain⟩
        · rw [List.nil_append] at split
          subst split
          exact absurd rfl (plain rfl _ rfl)
        · exact (List.cons.inj split).2
    · have kept : skip ['"'] (d :: s) = d :: s := by simp [skip, after?, Ne.symm mark]
      rw [kept]
      constructor
      · rintro rfl
        refine ⟨[], .inl rfl, rfl, fun _ c first => ?_⟩
        cases first
        exact mark
      · rintro ⟨quote, rfl | rfl, split, _⟩
        · exact split
        · exact absurd (List.cons.inj split).1 mark

/-- A name stands at the start of a text, with or without a quotation mark on either side of it. It goes on
as far as it can. -/
def Names (s name rest : Text) : Prop :=
  ∃ opening closing, IsQuote opening ∧ IsQuote closing ∧ IsWord name ∧
    s = opening ++ (name ++ (closing ++ rest)) ∧ (∀ c ∈ (closing ++ rest).head?, isWordChar c = false) ∧
    (closing = [] → ∀ c ∈ rest.head?, c ≠ '"')

theorem quotableName?_eq_some {s name rest : Text} :
    quotableName? s = some (name, rest) ↔ Names s name rest := by
  rw [quotableName?, Option.map_eq_some_iff]
  constructor
  · rintro ⟨⟨word, behind⟩, read, same⟩
    obtain ⟨rfl, skipped⟩ := Prod.mk.inj same
    obtain ⟨isWord, split, stop⟩ := name?_eq_some.mp read
    obtain ⟨opening, open', splitFirst, _⟩ := skip_quote.mp rfl
    obtain ⟨closing, close', splitLast, plain⟩ := skip_quote.mp skipped
    refine ⟨opening, closing, open', close', isWord, ?_, splitLast ▸ stop, plain⟩
    rw [← splitLast, ← split]
    exact splitFirst
  · rintro ⟨opening, closing, open', close', word, rfl, stop, plain⟩
    have letter : ∀ c ∈ (name ++ (closing ++ rest)).head?, c ≠ '"' := by
      cases name with
      | nil => exact word.elim
      | cons d name =>
        rintro c first rfl
        cases first
        cases word.1
    have first : skip ['"'] (opening ++ (name ++ (closing ++ rest))) = name ++ (closing ++ rest) :=
      skip_quote.mpr ⟨opening, open', rfl, fun _ => letter⟩
    refine ⟨(name, closing ++ rest), ?_, ?_⟩
    · rw [first]
      exact name?_eq_some.mpr ⟨word, rfl, stop⟩
    · exact congrArg (Prod.mk name) (skip_quote.mpr ⟨closing, close', rfl, plain⟩)

/-- A name and a dot stand at the start of a text. -/
def Qualifies (s rest : Text) : Prop := ∃ name, Names s name ('.' :: rest)

theorem afterQualifier?_eq_some (s rest : Text) : afterQualifier? s = some rest ↔ Qualifies s rest := by
  simp only [afterQualifier?, Option.bind_eq_some_iff, Prod.exists, quotableName?_eq_some, after?_eq_some,
    Qualifies]
  constructor
  · rintro ⟨name, _, named, rfl⟩
    exact ⟨name, named⟩
  · rintro ⟨name, named⟩
    exact ⟨name, _, named, rfl⟩

/-! ### Lists and optional parts -/

/-- A pair of parentheses stands at the start of a text, blanks left out, with something in it. -/
def Encloses (s inner rest : Text) : Prop :=
  ∃ margin, (∀ c ∈ margin, isBlank c = true) ∧ inner ≠ [] ∧ ')' ∉ inner ∧
    s = margin ++ '(' :: (inner ++ ')' :: rest)

/-- A text is cut where a character stands first. -/
theorem span_ne_eq_cons {sep d : Char} {s a rest : Text} :
    s.span (· != sep) = (a, d :: rest) ↔ sep ∉ a ∧ d = sep ∧ s = a ++ sep :: rest := by
  constructor
  · intro spanned
    rw [List.span_eq_takeWhile_dropWhile] at spanned
    obtain ⟨rfl, dropped⟩ := Prod.mk.inj spanned
    have stops := List.head?_dropWhile_not (fun c => c != sep) s
    rw [dropped] at stops
    have mark : d = sep := by simpa using stops
    refine ⟨fun member => ?_, mark, ?_⟩
    · have kept := List.mem_takeWhile_imp member
      simp at kept
    · rw [← mark, ← dropped, mark, List.takeWhile_append_dropWhile]
  · rintro ⟨absent, rfl, rfl⟩
    exact span_append rest (fun c member => bne_iff_ne.mpr fun same => absent (same ▸ member)) (by simp)

theorem cutAt_eq_some {sep : Char} {s a b : Text} : cutAt sep s = (a, some b) ↔ sep ∉ a ∧ s = a ++ sep :: b := by
  constructor
  · intro cut
    rw [cutAt] at cut
    split at cut
    · cases cut
    · rename_i spanned
      cases cut
      obtain ⟨absent, _, split⟩ := span_ne_eq_cons.mp spanned
      exact ⟨absent, split⟩
  · rintro ⟨absent, rfl⟩
    exact cutAt_append b absent

theorem parenthesized?_eq_some {s inner rest : Text} :
    parenthesized? s = some (inner, rest) ↔ inner ≠ [] ∧ ')' ∉ inner ∧ s = '(' :: (inner ++ ')' :: rest) := by
  constructor
  · intro read
    obtain ⟨behind, opened, closed⟩ := Option.bind_eq_some_iff.mp read
    obtain rfl := after?_eq_some.mp opened
    split at closed
    · rename_i c kept d left spanned
      obtain ⟨absent, rfl, rfl⟩ := span_ne_eq_cons.mp spanned
      rw [List.span_eq_takeWhile_dropWhile] at spanned
      rw [(Prod.mk.inj spanned).1] at closed
      cases closed
      exact ⟨List.cons_ne_nil _ _, absent, rfl⟩
    · cases closed
  · rintro ⟨some, absent, rfl⟩
    have spanned : (inner ++ ')' :: rest).span (· != ')') = (inner, ')' :: rest) :=
      span_ne_eq_cons.mpr ⟨absent, rfl, rfl⟩
    have opened : after? ['('] ('(' :: (inner ++ ')' :: rest)) = Option.some (inner ++ ')' :: rest) := rfl
    rw [parenthesized?, opened]
    dsimp only [bind, Option.bind]
    rw [spanned]
    rw [List.span_eq_takeWhile_dropWhile] at spanned
    cases inner with
    | nil => exact absurd rfl some
    | cons c inner =>
      dsimp only
      rw [(Prod.mk.inj spanned).1]

theorem encloses_iff {s inner rest : Text} :
    parenthesized? (trimStart s) = some (inner, rest) ↔ Encloses s inner rest := by
  rw [parenthesized?_eq_some]
  constructor
  · rintro ⟨some, absent, trimmed⟩
    obtain ⟨margin, split, blank, _⟩ := trimStart_split s
    exact ⟨margin, blank, some, absent, trimmed ▸ split⟩
  · rintro ⟨margin, blank, some, absent, rfl⟩
    exact ⟨some, absent, trimStart_margin blank _ (by decide)⟩

variable {α : Type}

/-- A part that may be left out, and what has to come behind it. The part is taken where that can come
behind it, and left out otherwise. -/
def Optionally (part : Text → Text → Prop) (next : Text → α → Prop) (s : Text) (a : α) : Prop :=
  (∃ rest, part s rest ∧ next rest a) ∨ ((¬ ∃ rest b, part s rest ∧ next rest b) ∧ next s a)

/-- Of the two ways to read something optional the first that leads on is taken. -/
theorem head?_withOrWithout {read : Text → Option Text} {part : Text → Text → Prop}
    (reads : ∀ s rest, read s = some rest ↔ part s rest) {f : Text → List α} {next : Text → α → Prop}
    (leads : ∀ s a, (f s).head? = some a ↔ next s a) (s : Text) (a : α) :
    ((withOrWithout read s).flatMap f).head? = some a ↔ Optionally part next s a := by
  simp only [Optionally, ← reads, ← leads, withOrWithout]
  cases taken : read s with
  | none => simp
  | some rest =>
    simp only [List.flatMap_cons, List.flatMap_nil, List.append_nil, Option.some.injEq, exists_and_left,
      exists_eq_left']
    cases f rest <;> simp

/-- What has to come behind an optional part comes somewhere. -/
theorem Optionally.exists_next {part : Text → Text → Prop} {next : Text → α → Prop} {s : Text} {a : α}
    (stands : Optionally part next s a) : ∃ rest, next rest a := by
  rcases stands with ⟨rest, _, there⟩ | ⟨_, there⟩
  · exact ⟨rest, there⟩
  · exact ⟨s, there⟩

theorem Optionally.exists_suffix {part : Text → Text → Prop} (behind : ∀ s rest, part s rest → rest <:+ s)
    {next : Text → α → Prop} {s : Text} {a : α} (stands : Optionally part next s a) :
    ∃ rest, rest <:+ s ∧ next rest a := by
  rcases stands with ⟨rest, taken, there⟩ | ⟨_, there⟩
  · exact ⟨rest, behind s rest taken, there⟩
  · exact ⟨s, List.suffix_rfl, there⟩

theorem Keywords.suffix {words : List Text} {s rest : Text} (stand : Keywords words s rest) : rest <:+ s := by
  induction words generalizing s with
  | nil => exact stand ▸ List.suffix_rfl
  | cons word words ih =>
    obtain ⟨_, _, _, _, rfl, later⟩ := stand
    exact (ih later).trans (List.suffix_append _ _)

theorem Names.suffix {s name rest : Text} (named : Names s name rest) : rest <:+ s := by
  obtain ⟨opening, closing, _, _, _, rfl, _⟩ := named
  exact ⟨opening ++ (name ++ closing), by simp only [List.append_assoc]⟩

theorem Qualifies.suffix {s rest : Text} (qualified : Qualifies s rest) : rest <:+ s :=
  qualified.elim fun _ named => (List.suffix_cons _ _).trans named.suffix

/-! ### The first place -/

/-- Of the places of a line at which something stands, what is left of the line from the first on. -/
def FirstAt (stands : Text → Prop) (line part : Text) : Prop :=
  part <:+ line ∧ stands part ∧ ∀ other, other <:+ line → stands other → other <:+ part

/-- What is read from the first place where something can be read stands at the first place. -/
theorem findRead?_eq_some {read : Text → Option α} {stands : Text → α → Prop}
    (reads : ∀ s a, read s = some a ↔ stands s a) {line : Text} {found : α} :
    findRead? read line = some found ↔
      ∃ part, FirstAt (fun s => ∃ a, stands s a) line part ∧ stands part found := by
  induction line with
  | nil =>
    rw [findRead?, reads]
    constructor
    · intro here
      exact ⟨[], ⟨List.suffix_rfl, ⟨found, here⟩, fun other within _ => within⟩, here⟩
    · rintro ⟨part, ⟨within, _⟩, here⟩
      rwa [List.suffix_nil.mp within] at here
  | cons c s ih =>
    rw [findRead?]
    cases first : read (c :: s) with
    | some a =>
      have here := (reads _ _).mp first
      constructor
      · rintro same
        cases same
        exact ⟨c :: s, ⟨List.suffix_rfl, ⟨found, here⟩, fun other within _ => within⟩, here⟩
      · rintro ⟨part, ⟨within, _, earliest⟩, there⟩
        obtain rfl := within.eq_of_length_le (earliest _ List.suffix_rfl ⟨a, here⟩).length_le
        exact first.symm.trans ((reads _ _).mpr there)
    | none =>
      have unread (a : α) : ¬ stands (c :: s) a := fun here => by
        rw [(reads _ _).mpr here] at first
        cases first
      dsimp only
      rw [ih]
      constructor
      · rintro ⟨part, ⟨within, there, earliest⟩, here⟩
        refine ⟨part, ⟨within.trans (List.suffix_cons c s), there, fun other behind stands => ?_⟩, here⟩
        rcases List.suffix_cons_iff.mp behind with rfl | later
        · exact absurd stands.choose_spec (unread _)
        · exact earliest other later stands
      · rintro ⟨part, ⟨within, there, earliest⟩, here⟩
        rcases List.suffix_cons_iff.mp within with rfl | later
        · exact absurd here (unread _)
        · exact ⟨part, ⟨later, there, fun other behind =>
            earliest other (behind.trans (List.suffix_cons c s))⟩, here⟩

end ReferencePages.Text
