import ReferencePages.Proofs.Transition.Noise
import ReferencePages.Proofs.Text.Lines
/-!
A match block of written arms is read as these arms. The lines between the sentinels are cleaned and joined one
arm at a time, so that what each pass makes of one arm gives what it makes of the block.
-/

namespace ReferencePages.Transition

/-- How an arm is laid out: on one line, or with its target and a closing brace on lines of their own. Every line
has a margin. -/
inductive Layout
  | line (margin : Text)
  | block (margin target closing : Text) (comma : Bool)

/-- All margins of an arm. -/
def Layout.margins : Layout → Text
  | line margin => margin
  | block margin target closing _ => margin ++ target ++ closing

/-- An arm as it is written. -/
structure WrittenArm where
  sources : List WrittenName
  event : WrittenName
  payload : Option Text
  guard : Option Text
  target : WrittenName
  layout : Layout

/-- A name that can stand in an arm, with a known qualifier if it has one. -/
structure WrittenName.WellFormed (qualifiers : List Text) (n : WrittenName) : Prop where
  name : IsName n.name
  state : ¬ ("from_state".toList : Text) <:+: n.name
  known : ∀ q ∈ n.qualifier, q ∈ qualifiers

namespace WrittenArm

/-- The arm up to its arrow. -/
def head (arm : WrittenArm) : Text :=
  armHead (arm.sources.map (·.text)) arm.event.text arm.payload arm.guard

/-- The lines of the arm. -/
def lines (arm : WrittenArm) : List Text :=
  match arm.layout with
  | .line margin => [margin ++ (arm.head ++ " " ++ arm.target.text ++ ",")]
  | .block margin target closing comma =>
    [margin ++ (arm.head ++ " \x7b"), target ++ arm.target.text, closing ++ "\x7d" ++ if comma then [','] else []]

theorem lines_line {arm : WrittenArm} {margin : Text} (layout : arm.layout = .line margin) :
    arm.lines = [margin ++ (arm.head ++ ' ' :: (arm.target.text ++ [',']))] := by
  rw [lines, layout]
  simp

theorem lines_block {arm : WrittenArm} {margin target closing : Text} {comma : Bool}
    (layout : arm.layout = .block margin target closing comma) :
    arm.lines = [margin ++ (arm.head ++ [' ', '{']), target ++ arm.target.text,
      closing ++ '}' :: if comma then [','] else []] := by
  rw [lines, layout]
  simp

/-- Neither an argument nor a guard keeps the arm from being read, and once qualifiers are dropped no argument
has a guard in it and no guard an arrow. -/
structure WellFormed (qualifiers : List Text) (arm : WrittenArm) : Prop where
  sources : ∀ n ∈ arm.sources, n.WellFormed qualifiers
  some : arm.sources ≠ []
  event : arm.event.WellFormed qualifiers
  target : arm.target.WellFormed qualifiers
  payload : ∀ p ∈ arm.payload, IsQuiet p ∧ ¬ ContainsIf (unqualified qualifiers p)
  guard : ∀ g ∈ arm.guard, IsQuiet g ∧ ¬ ("=>".toList : Text) <:+: unqualified qualifiers g
  margins : ∀ c ∈ arm.layout.margins, Text.isBlank c = true

/-- What the arm says: one transition from each of its sources. -/
def transitions (qualifiers : List Text) (arm : WrittenArm) : List Transition :=
  arm.sources.map fun source =>
    { source := source.name, event := arm.event.name, target := arm.target.name,
      guard := arm.guard.map fun g => Text.trim (unqualified qualifiers g) }

end WrittenArm

/-! ### Names -/

section Names

variable {qualifiers : List Text} (are : AreQualifiers qualifiers)

theorem WrittenName.colonless {n : WrittenName} (wellFormed : n.WellFormed qualifiers) : ':' ∉ n.name :=
  wellFormed.name.not_mem (by decide)

include are

theorem WrittenName.unqualified_text {n : WrittenName} (wellFormed : n.WellFormed qualifiers) :
    unqualified qualifiers n.text = n.name :=
  are.unqualified_name wellFormed.known (WrittenName.colonless wellFormed)

theorem WrittenName.filled {n : WrittenName} (wellFormed : n.WellFormed qualifiers) :
    ∀ c ∈ n.text, Text.isBlank c = false := by
  intro c member
  unfold WrittenName.text at member
  cases qualifier : n.qualifier with
  | none =>
    rw [qualifier] at member
    exact wellFormed.name.isBlank c member
  | some q =>
    rw [qualifier] at member
    rcases List.mem_append.mp member with before | name
    · rcases List.mem_append.mp before with inside | colon
      · exact (are.plain q (wellFormed.known q qualifier) c inside).1
      · have colons : ∀ d ∈ (':' :: ':' :: []), Text.isBlank d = false := by decide
        exact colons c colon
    · exact wellFormed.name.isBlank c name

theorem WrittenName.text_ends {n : WrittenName} (wellFormed : n.WellFormed qualifiers) :
    ∃ body z, n.text = body ++ [z] ∧ Text.isBlank z = false := by
  have some : n.text ≠ [] := by
    unfold WrittenName.text
    cases n.qualifier with
    | none => exact wellFormed.name.1.ne_nil
    | some q => exact List.append_ne_nil_of_right_ne_nil _ wellFormed.name.1.ne_nil
  obtain ⟨body, z, split⟩ := (List.eq_nil_or_concat' n.text).resolve_left some
  exact ⟨body, z, split, WrittenName.filled are wellFormed z (by rw [split]; simp)⟩

theorem WrittenName.quiet {n : WrittenName} (wellFormed : n.WellFormed qualifiers) : IsQuiet n.text where
  state := by
    unfold WrittenName.text
    cases qualifier : n.qualifier with
    | none => exact wellFormed.state
    | some q =>
      have split : q ++ "::" ++ n.name = q ++ ':' :: ([] ++ ':' :: n.name) := by simp
      have colonless : ':' ∉ ("from_state".toList : Text) := by decide
      dsimp only
      rw [split, Text.infix_append_cons colonless, Text.infix_append_cons colonless, not_or, not_or]
      exact ⟨are.state q (wellFormed.known q qualifier), by decide, wellFormed.state⟩
  error := by
    rw [Bool.eq_false_iff, Ne, isErrorReturn_iff]
    rintro ⟨gap, some, blank, found⟩
    obtain ⟨c, gap, rfl⟩ := List.exists_cons_of_ne_nil some
    have inside : c ∈ n.text := found.subset (by simp [errorReturn])
    have filled := WrittenName.filled are wellFormed c inside
    rw [blank c (List.mem_cons_self ..)] at filled
    cases filled

end Names

/-! ### Qualifiers in an arm -/

section Parts

variable {qualifiers : List Text} (are : AreQualifiers qualifiers)

include are

theorem unqualified_alternatives {names : List WrittenName} (wellFormed : ∀ n ∈ names, n.WellFormed qualifiers) :
    unqualified qualifiers (alternatives (names.map (·.text))) = alternatives (names.map (·.name)) := by
  induction names with
  | nil => exact unqualified_of_no_colon (by decide)
  | cons name rest ih =>
    have here := WrittenName.unqualified_text are (wellFormed name (List.mem_cons_self ..))
    have later := ih fun n member => wellFormed n (List.mem_cons_of_mem _ member)
    cases rest with
    | nil => rw [List.map_singleton, List.map_singleton, alternatives_single, alternatives_single, here]
    | cons next rest =>
      rw [List.map_cons, List.map_cons] at later
      rw [List.map_cons, List.map_cons, List.map_cons, List.map_cons, alternatives_cons, alternatives_cons,
        are.unqualified_append (.inl rfl), are.unqualified_cons (.inr (by decide)),
        are.unqualified_cons (.inl rfl), here, later]

theorem unqualified_argument (event : Text) (payload : Option Text) (rest : Text) :
    unqualified qualifiers (event ++ (argument payload ++ ')' :: rest)) =
      unqualified qualifiers event ++
        (argument (payload.map (unqualified qualifiers)) ++ ')' :: unqualified qualifiers rest) := by
  cases payload with
  | none => exact are.unqualified_append (.inr (by decide)) event rest
  | some p =>
    rw [Option.map_some, argument_some, argument_some, List.cons_append, List.cons_append, List.append_assoc,
      List.append_assoc, List.singleton_append, List.singleton_append, are.unqualified_append (.inr (by decide)),
      are.unqualified_append (.inr (by decide)), are.unqualified_cons (.inr (by decide))]

theorem unqualified_condition (guard : Option Text) (rest : Text) :
    unqualified qualifiers (condition guard ++ ' ' :: rest) =
      condition (guard.map (unqualified qualifiers)) ++ ' ' :: unqualified qualifiers rest := by
  cases guard with
  | none => exact are.unqualified_cons (.inl rfl) rest
  | some g =>
    have word : unqualified qualifiers ['i', 'f'] = ['i', 'f'] := unqualified_of_no_colon (by decide)
    have split : condition (some g) ++ ' ' :: rest = ' ' :: (['i', 'f'] ++ ' ' :: (g ++ ' ' :: rest)) := rfl
    rw [split, are.unqualified_cons (.inl rfl), are.unqualified_append (.inl rfl), word,
      are.unqualified_append (.inl rfl)]
    rfl

theorem unqualified_armHead {sources : List WrittenName} {event : WrittenName} (payload guard : Option Text)
    (names : ∀ n ∈ sources, n.WellFormed qualifiers) (isEvent : event.WellFormed qualifiers) (rest : Text) :
    unqualified qualifiers (armHead (sources.map (·.text)) event.text payload guard ++ ' ' :: rest) =
      armHead (sources.map (·.name)) event.name (payload.map (unqualified qualifiers))
        (guard.map (unqualified qualifiers)) ++ ' ' :: unqualified qualifiers rest := by
  have parts : ∀ (names : List Text) (event : Text) (payload guard : Option Text) (rest : Text),
      armHead names event payload guard ++ ' ' :: rest =
        '(' :: (alternatives names ++ ',' :: (' ' :: (event ++ (argument payload ++
          ')' :: (condition guard ++ ' ' :: (['=', '>'] ++ ' ' :: rest)))))) := by
    intro names event payload guard rest
    simp [armHead, armPattern]
  have arrow : unqualified qualifiers ['=', '>'] = ['=', '>'] := unqualified_of_no_colon (by decide)
  rw [parts, parts, are.unqualified_cons (.inr (by decide)), are.unqualified_append (.inr (by decide)),
    are.unqualified_cons (.inl rfl), unqualified_argument are, unqualified_condition are,
    are.unqualified_append (.inl rfl), arrow, unqualified_alternatives are names,
    WrittenName.unqualified_text are isEvent]

end Parts

/-! ### Cleaning -/

namespace WrittenArm

variable {qualifiers : List Text} (are : AreQualifiers qualifiers) {arm : WrittenArm}
  (wellFormed : arm.WellFormed qualifiers)

/-- The parts of the arm without qualifiers. -/
def plainHead (qualifiers : List Text) (arm : WrittenArm) : Text :=
  armHead (arm.sources.map (·.name)) arm.event.name (arm.payload.map (unqualified qualifiers))
    (arm.guard.map (unqualified qualifiers))

include are wellFormed

theorem quiet_head {margin tail : Text} (blank : ∀ c ∈ margin, Text.isBlank c = true) (quiet : IsQuiet tail) :
    IsQuiet (margin ++ (arm.head ++ tail)) := by
  refine IsQuiet.armHead blank ?_ (WrittenName.quiet are wellFormed.event)
    (fun p member => (wellFormed.payload p member).1) (fun g member => (wellFormed.guard g member).1) quiet
  intro n member
  obtain ⟨name, inside, rfl⟩ := List.mem_map.mp member
  exact WrittenName.quiet are (wellFormed.sources name inside)

/-- No line of an arm is left out for what stands in it. -/
theorem quiet_lines : ∀ line ∈ arm.lines, IsQuiet line := by
  have target := WrittenName.quiet are wellFormed.target
  have margins := wellFormed.margins
  cases layout : arm.layout with
  | line margin =>
    rw [layout, Layout.margins] at margins
    have tail : IsQuiet (' ' :: (arm.target.text ++ [','])) :=
      @IsQuiet.margin [' '] _ (by decide) (target.append_sign (by decide) isQuiet_nil)
    rw [lines_line layout, List.forall_mem_singleton]
    exact quiet_head are wellFormed margins tail
  | block margin result closing comma =>
    rw [layout, Layout.margins] at margins
    have brace : IsQuiet (' ' :: '{' :: []) :=
      @IsQuiet.margin [' '] _ (by decide) (isQuiet_nil.append_sign (by decide) isQuiet_nil)
    have end' : IsQuiet (if comma then [','] else []) := by
      split
      · exact isQuiet_nil.append_sign (by decide) isQuiet_nil
      · exact isQuiet_nil
    have blank : ∀ part, part <:+: margin ++ result ++ closing → ∀ c ∈ part, Text.isBlank c = true :=
      fun part within c member => margins c (within.subset member)
    rw [lines_block layout, List.forall_mem_cons, List.forall_mem_cons, List.forall_mem_singleton]
    refine ⟨quiet_head are wellFormed (blank margin ⟨[], result ++ closing, by simp⟩) brace,
      target.margin (blank result ⟨margin, closing, rfl⟩), ?_⟩
    exact (isQuiet_nil.append_sign (by decide) end').margin (blank closing ⟨margin ++ result, [], by simp⟩)

end WrittenArm

/-! ### Joining -/

theorem opensBlock_of_arrow (s : Text) : opensBlock (s ++ ['=', '>', ' ', '{']) = true := by
  have brace : Text.trimEnd (s ++ ['=', '>', ' ', '{']) = s ++ ['=', '>', ' ', '{'] := by
    have split : s ++ ['=', '>', ' ', '{'] = (s ++ ['=', '>', ' ']) ++ ['{'] := by simp
    rw [split]
    exact Text.trimEndWhile_concat _ rfl
  have arrow : Text.trimEnd (s ++ ['=', '>', ' ']) = s ++ ['=', '>'] := by
    have split : s ++ ['=', '>', ' '] = (s ++ ['=', '>']) ++ [' '] := by simp
    have whole : s ++ ['=', '>'] = (s ++ ['=']) ++ ['>'] := by simp
    rw [split, Text.trimEnd, Text.trimEndWhile_append_of_all (by decide), whole]
    exact Text.trimEndWhile_concat _ rfl
  have reversed : (s ++ ['=', '>', ' ', '{']).reverse = '{' :: (s ++ ['=', '>', ' ']).reverse := by simp
  rw [opensBlock, brace, reversed]
  change Text.endsWith "=>" (Text.trimEnd (s ++ ['=', '>', ' ']).reverse.reverse) = true
  rw [List.reverse_reverse, arrow, Text.endsWith_iff]
  exact ⟨s, rfl⟩

theorem opensBlock_of_comma (s : Text) : opensBlock (s ++ [',']) = false := by
  have comma : Text.trimEnd (s ++ [',']) = s ++ [','] := Text.trimEndWhile_concat _ rfl
  rw [opensBlock, comma, List.reverse_append]
  rfl

theorem isClosingBrace_margin {margin : Text} (blank : ∀ c ∈ margin, Text.isBlank c = true) (comma : Bool) :
    isClosingBrace (margin ++ '}' :: if comma then [','] else []) = true := by
  have first : ∀ rest, ∀ c ∈ ('}' :: rest : Text).head?, Text.isBlank c = false := by
    rintro rest c ⟨⟩
    rfl
  cases comma with
  | false =>
    have trimmed : Text.trim (margin ++ ['}']) = ['}'] := @Text.trim_append _ blank [] '}' (first []) rfl
    rw [if_neg Bool.false_ne_true, isClosingBrace, trimmed]
    rfl
  | true =>
    have trimmed : Text.trim (margin ++ ['}', ',']) = ['}', ','] :=
      @Text.trim_append _ blank ['}'] ',' (first [',']) rfl
    rw [if_pos rfl, isClosingBrace, trimmed]
    rfl

theorem joinArms_line {line : Text} (closed : opensBlock line = false) (ls : List Text) :
    joinArms (line :: ls) = line :: joinArms ls := by
  cases ls with
  | nil => rfl
  | cons next ls => cases ls <;> simp only [joinArms, closed, Bool.false_eq_true, if_false]

theorem joinArms_block {line closing : Text} (opens : opensBlock line = true)
    (closes : isClosingBrace closing = true) (result : Text) (ls : List Text) :
    joinArms (line :: result :: closing :: ls) = (line ++ ' ' :: Text.trim result) :: joinArms ls := by
  have space : line ++ " " ++ Text.trim result = line ++ ' ' :: Text.trim result := List.append_assoc ..
  rw [joinArms, if_pos opens, space, if_pos closes]

namespace WrittenArm

variable {qualifiers : List Text} (are : AreQualifiers qualifiers) {arm : WrittenArm}
  (wellFormed : arm.WellFormed qualifiers)

include wellFormed

theorem ofArm_plainHead {margin tail : Text} (blank : ∀ c ∈ margin, Text.isBlank c = true)
    (result : IsResult tail arm.target.name) (single : '\n' ∉ arm.plainHead qualifiers ++ tail) :
    ofArm (margin ++ (arm.plainHead qualifiers ++ tail)) = arm.transitions qualifiers := by
  have names : ∀ name ∈ arm.sources.map (·.name), IsName name := by
    intro name member
    obtain ⟨n, inside, rfl⟩ := List.mem_map.mp member
    exact (wellFormed.sources n inside).name
  have unconditional : ∀ p ∈ arm.payload.map (unqualified qualifiers), ¬ ContainsIf p := by
    intro p member
    obtain ⟨raw, inside, rfl⟩ := Option.map_eq_some_iff.mp member
    exact (wellFormed.payload raw inside).2
  have arrowless : ∀ g ∈ arm.guard.map (unqualified qualifiers), ¬ ['=', '>'] <:+: g := by
    intro g member
    obtain ⟨raw, inside, rfl⟩ := Option.map_eq_some_iff.mp member
    exact (wellFormed.guard raw inside).2
  have some : arm.sources.map (·.name) ≠ [] := mt List.map_eq_nil_iff.mp wellFormed.some
  rw [plainHead] at single ⊢
  rw [ofArm_armHead blank names some wellFormed.event.name wellFormed.target.name unconditional arrowless result
    single, List.map_map, Option.map_map]
  rfl

include are in
/-- An arm is read as its transitions, whatever lines follow it. -/
theorem joinArms_lines (single : ∀ line ∈ arm.lines, '\n' ∉ line) (ls : List Text) :
    (joinArms (arm.lines.map (fun line => unqualified qualifiers (Text.trimEnd line)) ++ ls)).flatMap ofArm =
      arm.transitions qualifiers ++ (joinArms ls).flatMap ofArm := by
  have margins := wellFormed.margins
  have target := WrittenName.unqualified_text are wellFormed.target
  have isTarget := wellFormed.target.name
  have cleanHead : ∀ {margin : Text}, (∀ c ∈ margin, Text.isBlank c = true) → ∀ rest,
      unqualified qualifiers (margin ++ (arm.head ++ ' ' :: rest)) =
        margin ++ (arm.plainHead qualifiers ++ ' ' :: unqualified qualifiers rest) := by
    intro margin blank rest
    rw [are.unqualified_margin blank, head, unqualified_armHead are _ _ wellFormed.sources wellFormed.event]
    rfl
  cases layout : arm.layout with
  | line margin =>
    rw [layout, Layout.margins] at margins
    rw [lines_line layout, List.forall_mem_singleton] at single
    have ends : Text.trimEnd (margin ++ (arm.head ++ ' ' :: (arm.target.text ++ [',']))) =
        margin ++ (arm.head ++ ' ' :: (arm.target.text ++ [','])) := by
      have split : margin ++ (arm.head ++ ' ' :: (arm.target.text ++ [','])) =
          (margin ++ (arm.head ++ ' ' :: arm.target.text)) ++ [','] := by simp
      rw [split]
      exact Text.trimEndWhile_concat _ rfl
    have cleaned : unqualified qualifiers (margin ++ (arm.head ++ ' ' :: (arm.target.text ++ [',']))) =
        margin ++ (arm.plainHead qualifiers ++ ' ' :: (arm.target.name ++ [','])) := by
      rw [cleanHead margins, are.unqualified_append (.inr (by decide)), target]
      rfl
    have closed : opensBlock (margin ++ (arm.plainHead qualifiers ++ ' ' :: (arm.target.name ++ [',']))) = false := by
      have split : margin ++ (arm.plainHead qualifiers ++ ' ' :: (arm.target.name ++ [','])) =
          (margin ++ (arm.plainHead qualifiers ++ ' ' :: arm.target.name)) ++ [','] := by simp
      rw [split]
      exact opensBlock_of_comma _
    have lineless : '\n' ∉ arm.plainHead qualifiers ++ ' ' :: (arm.target.name ++ [',']) := by
      intro member
      refine single (@mem_of_mem_unqualified qualifiers _ _ ?_)
      rw [cleaned]
      exact List.mem_append_right _ member
    rw [lines_line layout, List.map_singleton, List.singleton_append, ends, cleaned, joinArms_line closed,
      List.flatMap_cons, ofArm_plainHead wellFormed margins (isResult_line isTarget) lineless]
  | block margin result closing comma =>
    rw [layout, Layout.margins] at margins
    have blank : ∀ part, part <:+: margin ++ result ++ closing → ∀ c ∈ part, Text.isBlank c = true :=
      fun part within c member => margins c (within.subset member)
    have marginBlank := blank margin ⟨[], result ++ closing, by simp⟩
    have resultBlank := blank result ⟨margin, closing, rfl⟩
    have closingBlank := blank closing ⟨margin ++ result, [], by simp⟩
    rw [lines_block layout, List.forall_mem_cons] at single
    have headEnds : Text.trimEnd (margin ++ (arm.head ++ [' ', '{'])) = margin ++ (arm.head ++ [' ', '{']) := by
      have split : margin ++ (arm.head ++ [' ', '{']) = (margin ++ (arm.head ++ [' '])) ++ ['{'] := by simp
      rw [split]
      exact Text.trimEndWhile_concat _ rfl
    have resultEnds : Text.trimEnd (result ++ arm.target.text) = result ++ arm.target.text := by
      obtain ⟨body, z, split, filled⟩ := WrittenName.text_ends are wellFormed.target
      rw [split, ← List.append_assoc]
      exact Text.trimEndWhile_concat _ filled
    have braceEnds : Text.trimEnd (closing ++ '}' :: if comma then [','] else []) =
        closing ++ '}' :: if comma then [','] else [] := by
      cases comma with
      | false => exact Text.trimEndWhile_concat closing rfl
      | true =>
        have split : closing ++ ['}', ','] = (closing ++ ['}']) ++ [','] := by simp
        rw [if_pos rfl, split]
        exact Text.trimEndWhile_concat _ rfl
    have headCleaned : unqualified qualifiers (margin ++ (arm.head ++ [' ', '{'])) =
        margin ++ (arm.plainHead qualifiers ++ [' ', '{']) := by
      rw [cleanHead marginBlank, @unqualified_of_no_colon _ ['{'] (by decide)]
    have resultCleaned : unqualified qualifiers (result ++ arm.target.text) = result ++ arm.target.name := by
      rw [are.unqualified_margin resultBlank, target]
    have braceCleaned : unqualified qualifiers (closing ++ '}' :: if comma then [','] else []) =
        closing ++ '}' :: if comma then [','] else [] := by
      rw [are.unqualified_margin closingBlank, unqualified_of_no_colon (by cases comma <;> decide)]
    have opens : opensBlock (margin ++ (arm.plainHead qualifiers ++ [' ', '{'])) = true := by
      obtain ⟨front, split⟩ : ∃ front, arm.plainHead qualifiers = front ++ ['=', '>'] :=
        ⟨_, armHead_arrow _ _ _ _⟩
      have whole : margin ++ (front ++ ['=', '>'] ++ [' ', '{']) = (margin ++ front) ++ ['=', '>', ' ', '{'] := by
        simp
      rw [split, whole]
      exact opensBlock_of_arrow _
    have trimmed : Text.trim (result ++ arm.target.name) = arm.target.name := by
      obtain ⟨body, z, split⟩ := (List.eq_nil_or_concat' arm.target.name).resolve_left isTarget.1.ne_nil
      have filled := isTarget.isBlank
      rw [split] at filled ⊢
      exact Text.trim_append resultBlank (fun c first => filled c (List.mem_of_mem_head? first)) (filled z (by simp))
    have joined : margin ++ (arm.plainHead qualifiers ++ [' ', '{']) ++ ' ' :: arm.target.name =
        margin ++ (arm.plainHead qualifiers ++ (' ' :: '{' :: ' ' :: arm.target.name)) := by simp
    have lineless : '\n' ∉ arm.plainHead qualifiers ++ (' ' :: '{' :: ' ' :: arm.target.name) := by
      have nameless := isTarget.not_mem (c := '\n') (by decide)
      have headless : '\n' ∉ arm.plainHead qualifiers := by
        intro member
        refine single.1 (@mem_of_mem_unqualified qualifiers _ _ ?_)
        rw [headCleaned]
        simp [member]
      simp [nameless, headless]
    rw [lines_block layout, List.map_cons, List.map_cons, List.map_singleton, List.cons_append, List.cons_append,
      List.singleton_append, headEnds, resultEnds, braceEnds, headCleaned, resultCleaned, braceCleaned,
      joinArms_block opens (isClosingBrace_margin closingBlank comma), trimmed, joined, List.flatMap_cons,
      ofArm_plainHead wellFormed marginBlank (isResult_braced isTarget) lineless]

end WrittenArm

/-! ### The block -/

/-- The lines between the sentinels are the block, wherever the start does not occur outside. -/
theorem blockLines_between {start stop : Text} {before body after : List Text} {first last : Text}
    (outside : ∀ line ∈ before ++ after, ¬ start <:+: line) (opens : start <:+: first) (closes : stop <:+: last)
    (inside : ∀ line ∈ body, ¬ stop <:+: line) :
    blockLines start stop false (before ++ first :: (body ++ last :: after)) = body := by
  have skipped : ∀ ls rest, (∀ line ∈ ls, ¬ start <:+: line) →
      blockLines start stop false (ls ++ rest) = blockLines start stop false rest := by
    intro ls rest absent
    induction ls with
    | nil => rfl
    | cons line ls ih =>
      obtain ⟨here, later⟩ := List.forall_mem_cons.mp absent
      rw [List.cons_append, blockLines, Text.contains_eq_false.mpr here, ih later]
  have collected : ∀ ls rest, (∀ line ∈ ls, ¬ stop <:+: line) →
      blockLines start stop true (ls ++ rest) = ls ++ blockLines start stop true rest := by
    intro ls rest absent
    induction ls with
    | nil => rfl
    | cons line ls ih =>
      obtain ⟨here, later⟩ := List.forall_mem_cons.mp absent
      rw [List.cons_append, blockLines, Text.contains_eq_false.mpr here, if_neg Bool.false_ne_true, ih later,
        List.cons_append]
  have rest := skipped after [] fun line member => outside line (List.mem_append_right _ member)
  rw [List.append_nil] at rest
  rw [skipped before _ fun line member => outside line (List.mem_append_left _ member), blockLines,
    Text.contains_iff.mpr opens, collected body _ inside, blockLines, if_pos (Text.contains_iff.mpr closes), rest,
    blockLines, List.append_nil]

/-- Cleaning keeps the lines of the arms. -/
theorem clean_eq {qualifiers : List Text} (are : AreQualifiers qualifiers) {arms : List WrittenArm}
    (wellFormed : ∀ arm ∈ arms, arm.WellFormed qualifiers) {body : List Text}
    (written : body.filter (!isFiller ·) = arms.flatMap (·.lines)) :
    clean qualifiers body =
      (arms.flatMap (·.lines)).map fun line => unqualified qualifiers (Text.trimEnd line) := by
  have kept : body.filter (!isNoise ·) = body.filter (!isFiller ·) := by
    refine List.filter_congr fun line member => ?_
    cases filler : isFiller line with
    | true =>
      have noise : isNoise line = true := by
        rw [isFiller] at filler
        rw [isNoise, filler]
        rfl
      rw [noise]
    | false =>
      have inside : line ∈ arms.flatMap (·.lines) := by
        rw [← written, List.mem_filter]
        exact ⟨member, by rw [filler]; rfl⟩
      obtain ⟨arm, isArm, isLine⟩ := List.mem_flatMap.mp inside
      have quiet := WrittenArm.quiet_lines are (wellFormed arm isArm) line isLine
      rw [quiet.isNoise, filler]
  rw [clean, kept, written]
  rfl

theorem joinArms_arms {qualifiers : List Text} (are : AreQualifiers qualifiers) {arms : List WrittenArm}
    (wellFormed : ∀ arm ∈ arms, arm.WellFormed qualifiers)
    (single : ∀ line ∈ arms.flatMap (·.lines), '\n' ∉ line) :
    (joinArms ((arms.flatMap (·.lines)).map fun line => unqualified qualifiers (Text.trimEnd line))).flatMap ofArm =
      arms.flatMap (·.transitions qualifiers) := by
  induction arms with
  | nil => rfl
  | cons arm arms ih =>
    rw [List.flatMap_cons, List.forall_mem_append] at single
    have later := ih (fun other member => wellFormed other (List.mem_cons_of_mem _ member)) single.2
    have here := wellFormed arm (List.mem_cons_self ..)
    rw [List.flatMap_cons, List.map_append, WrittenArm.joinArms_lines are here single.1, later, List.flatMap_cons]

/-- A match block of written arms, with blank lines and comments anywhere between its lines, is read as exactly
the transitions of its arms, in their order, whatever else the text has outside its sentinels. -/
theorem extract_written (settings : Settings) (text : Text) (before body after : List Text) (first last : Text)
    (arms : List WrittenArm) (lines : Text.lines text = before ++ first :: (body ++ last :: after))
    (outside : ∀ line ∈ before ++ after, ¬ settings.start <:+: line) (opens : settings.start <:+: first)
    (closes : settings.stop <:+: last) (inside : ∀ line ∈ body, ¬ settings.stop <:+: line)
    (written : body.filter (!isFiller ·) = arms.flatMap (·.lines))
    (qualifiers : AreQualifiers settings.qualifiers)
    (wellFormed : ∀ arm ∈ arms, arm.WellFormed settings.qualifiers) :
    extract settings text = arms.flatMap (·.transitions settings.qualifiers) := by
  have single : ∀ line ∈ arms.flatMap (·.lines), '\n' ∉ line := by
    intro line member lineFeed
    rw [← written] at member
    have isLine : Text.IsLine line := by
      refine @Text.isLine_of_mem_lines text _ ?_
      rw [lines]
      simp [(List.mem_filter.mp member).1]
    cases isLine '\n' lineFeed
  rw [extract, lines, blockLines_between outside opens closes inside, clean_eq qualifiers wellFormed written,
    joinArms_arms qualifiers wellFormed single]

/-- An arm with two sources, an argument and a guard, on one line. -/
def startArm : WrittenArm where
  sources := [⟨some "State", "Pending"⟩, ⟨none, "Ready"⟩]
  event := ⟨some "Event", "Start"⟩
  payload := some "n, _"
  guard := some "n > State::MAX "
  target := ⟨some "State", "Busy"⟩
  layout := .line "  "

/-- An arm on three lines. -/
def stopArm : WrittenArm where
  sources := [⟨some "State", "Busy"⟩]
  event := ⟨none, "Stop"⟩
  payload := none
  guard := none
  target := ⟨some "State", "Done"⟩
  layout := .block "  " "    " "  " true

/-- A match block of the two arms, with comments and blank lines among their lines. -/
def machineBody : List Text :=
  ["  (State::Pending | Ready, Event::Start(n, _)) if n > State::MAX  => State::Busy,", "",
    "  (State::Busy, Stop) => \x7b", "    // Ends here.", "    State::Done", "", "  \x7d,"]

/-- The function that the block stands in. -/
def machineLines : List Text :=
  (["fn next() \x7b"] : List Text) ++ ("  let target = match (from, event) \x7b" : Text) ::
    (machineBody ++ ("  \x7d; Ok(target)" : Text) :: ["\x7d"])

theorem extract_written_machine :
    extract (Settings.standard ["State", "Event"]) (machineLines.flatMap (· ++ ['\n'])) =
      [{ source := "Pending", event := "Start", target := "Busy", guard := some "n > MAX" },
        { source := "Ready", event := "Start", target := "Busy", guard := some "n > MAX" },
        { source := "Busy", event := "Stop", target := "Done", guard := none }] := by
  have qualifiers : AreQualifiers ["State", "Event"] := {
    start := List.forall_mem_cons.mpr ⟨⟨_, _, rfl, rfl⟩, List.forall_mem_singleton.mpr ⟨_, _, rfl, rfl⟩⟩
    plain := by decide
    state := by decide
    distinct := by decide }
  have first : startArm.WellFormed ["State", "Event"] := {
    sources := List.forall_mem_cons.mpr ⟨⟨by decide, by decide, by decide⟩,
      List.forall_mem_singleton.mpr ⟨by decide, by decide, nofun⟩⟩
    some := List.cons_ne_nil _ _
    event := ⟨by decide, by decide, by decide⟩
    target := ⟨by decide, by decide, by decide⟩
    payload := by
      rintro _ ⟨⟩
      have wordless : 'i' ∉ unqualified ["State", "Event"] "n, _" := by decide
      exact ⟨⟨by decide, by decide⟩, fun ⟨_, _, _, _, found⟩ => wordless (found.subset (by simp))⟩
    guard := by
      rintro _ ⟨⟩
      exact ⟨⟨by decide, by decide⟩, by decide⟩
    margins := by decide }
  have second : stopArm.WellFormed ["State", "Event"] := {
    sources := List.forall_mem_singleton.mpr ⟨by decide, by decide, by decide⟩
    some := List.cons_ne_nil _ _
    event := ⟨by decide, by decide, nofun⟩
    target := ⟨by decide, by decide, by decide⟩
    payload := nofun
    guard := nofun
    margins := by decide }
  have single : ∀ line ∈ machineLines, Text.IsLine line := by decide +kernel
  have written : machineBody.filter (!isFiller ·) = [startArm, stopArm].flatMap (·.lines) := by decide +kernel
  have read := extract_written (Settings.standard ["State", "Event"]) _ _ _ _ _ _ [startArm, stopArm]
    (Text.lines_terminated single) (by decide +kernel) (by decide +kernel) (by decide +kernel)
    (by decide +kernel) written qualifiers
    (List.forall_mem_cons.mpr ⟨first, List.forall_mem_singleton.mpr second⟩)
  exact read.trans (by decide +kernel)

/-! ### Arms that are not read as they are written -/

def plainArm : WrittenArm where
  sources := [⟨none, "Open"⟩]
  event := ⟨none, "Close"⟩
  payload := none
  guard := none
  target := ⟨none, "Shut"⟩
  layout := .line []

/-- An arm with a qualifier that another qualifier begins. -/
def pathArm : WrittenArm := { plainArm with sources := [⟨some "Task::State", "Open"⟩] }

def conditionalArm : WrittenArm := { plainArm with payload := some "x if y" }

def failingArm : WrittenArm := { plainArm with payload := some "return Err" }

def guardedArm : WrittenArm := { plainArm with guard := some "s == State::Open" }

/-- A block with these lines and nothing else. -/
def blockOf (body : List Text) : Text :=
  (("let target = match x \x7b" : Text) :: (body ++ [("Ok(target)" : Text)])).flatMap (· ++ ['\n'])

/-- What an arm says if its guard is taken as it is written. -/
def WrittenArm.verbatim (arm : WrittenArm) : List Transition :=
  arm.sources.map fun source =>
    { source := source.name, event := arm.event.name, target := arm.target.name, guard := arm.guard }

/-- A qualifier that begins another one hides it, the word `if` in an argument is taken for a guard, an argument
that returns an error takes its arm with it, a guard loses its qualifiers, and a comment with the end sentinel
ends the block. -/
theorem extract_not_verbatim :
    extract (Settings.standard ["Task", "Task::State"]) (blockOf pathArm.lines) ≠ pathArm.verbatim ∧
      extract (Settings.standard []) (blockOf conditionalArm.lines) ≠ conditionalArm.verbatim ∧
      extract (Settings.standard []) (blockOf failingArm.lines) ≠ failingArm.verbatim ∧
      extract (Settings.standard ["State"]) (blockOf guardedArm.lines) ≠ guardedArm.verbatim ∧
      extract (Settings.standard []) (blockOf ("// Not yet Ok(target)" :: plainArm.lines)) ≠ plainArm.verbatim := by
  decide +kernel

end ReferencePages.Transition
