import ReferencePages.Proofs.Transition.Guard
import ReferencePages.Proofs.Text.Scan
import ReferencePages.Proofs.Text.Lines
/-!
An arm on one line, without qualifiers: the sources between a parenthesis and a comma, the event with what it
carries, the guard, the arrow, and the target. Each reader of an arm finds the part that was written for it.
-/

namespace ReferencePages.Transition

/-- A name that can stand in an arm: an identifier other than the word that begins a guard. -/
def IsName (name : Text) : Prop := Text.IsIdentifier name ∧ name ≠ ['i', 'f']

instance : DecidablePred IsName := fun name =>
  inferInstanceAs (Decidable (Text.IsIdentifier name ∧ name ≠ ['i', 'f']))

namespace IsName

variable {name : Text}

theorem isBlank (isName : IsName name) : ∀ c ∈ name, Text.isBlank c = false :=
  fun c member => (isName.1.isNameChar c member).isBlank

theorem not_containsIf (isName : IsName name) : ¬ ContainsIf (' ' :: (name ++ [' '])) :=
  not_containsIf_word isName.isBlank isName.2

theorem not_mem (isName : IsName name) {c : Char} (other : ¬ Text.IsNameChar c) : c ∉ name :=
  isName.1.not_mem other

theorem withoutBlanks (isName : IsName name) : withoutBlanks name = name :=
  List.filter_eq_self.mpr fun c member => by rw [isName.isBlank c member]; rfl

end IsName

/-- The names from which an arm may start. -/
def alternatives (names : List Text) : Text := Text.joinWith " | " names

theorem alternatives_single (name : Text) : alternatives [name] = name := by
  rw [alternatives, Text.joinWith, List.intercalate_singleton]

theorem alternatives_cons (name next : Text) (names : List Text) :
    alternatives (name :: next :: names) = name ++ ' ' :: '|' :: ' ' :: alternatives (next :: names) := by
  rw [alternatives, Text.joinWith, List.intercalate_cons_cons, List.append_assoc]
  rfl

/-- What an event carries, in parentheses. -/
def argument : Option Text → Text
  | none => []
  | some payload => "(" ++ payload ++ ")"

theorem argument_some (payload : Text) : argument (some payload) = '(' :: (payload ++ [')']) := rfl

/-- The guard with the word before it. -/
def condition : Option Text → Text
  | none => []
  | some guard => " if " ++ guard

theorem condition_some (guard : Text) : condition (some guard) = ' ' :: 'i' :: 'f' :: ' ' :: guard := rfl

/-- The pair that an arm matches, without its closing parenthesis. -/
def armPattern (sources : List Text) (event : Text) (payload : Option Text) : Text :=
  '(' :: (alternatives sources ++ ',' :: ' ' :: (event ++ argument payload))

/-- An arm up to its arrow. -/
def armHead (sources : List Text) (event : Text) (payload guard : Option Text) : Text :=
  armPattern sources event payload ++ ')' :: (condition guard ++ [' ', '=', '>'])

theorem armHead_arrow (sources : List Text) (event : Text) (payload guard : Option Text) :
    armHead sources event payload guard =
      (armPattern sources event payload ++ ')' :: (condition guard ++ [' '])) ++ ['=', '>'] := by
  simp [armHead]

/-- What follows the arrow of an arm, once the lines of the arm are joined. -/
structure IsResult (tail target : Text) : Prop where
  read : ∀ front : Text, '\n' ∉ front → targetOf? (front ++ '=' :: '>' :: tail) = some target
  arrowless : ¬ ['=', '>'] <:+: tail
  unconditional : ¬ ContainsIf tail
  ends : ∃ body z, tail = body ++ [z] ∧ Text.isBlank z = false
  single : '\n' ∉ tail

section Parts

variable {sources : List Text} {event : Text} {payload guard : Option Text}

theorem alternatives_ne_nil (names : ∀ name ∈ sources, IsName name) (some : sources ≠ []) :
    alternatives sources ≠ [] := by
  cases sources with
  | nil => exact absurd rfl some
  | cons name names' =>
    have filled := (names name (List.mem_cons_self ..)).1.ne_nil
    cases names' with
    | nil =>
      rw [alternatives_single]
      exact filled
    | cons next rest =>
      rw [alternatives_cons]
      exact List.append_ne_nil_of_left_ne_nil filled _

theorem not_mem_alternatives {c : Char} (other : ∀ name ∈ sources, c ∉ name) (sign : c ∉ [' ', '|']) :
    c ∉ alternatives sources := by
  induction sources with
  | nil => exact List.not_mem_nil
  | cons name rest ih =>
    have here := other name (List.mem_cons_self ..)
    have later := ih fun n member => other n (List.mem_cons_of_mem _ member)
    cases rest with
    | nil =>
      rw [alternatives_single]
      exact here
    | cons next rest =>
      rw [alternatives_cons]
      simp only [List.mem_append, List.mem_cons, List.not_mem_nil, or_false, not_or] at sign ⊢
      exact ⟨here, sign.1, sign.2, sign.1, later⟩

/-- The alternatives are told apart again, without the blanks around them. -/
theorem splitOnChar_alternatives (names : ∀ name ∈ sources, IsName name) (some : sources ≠ []) {margin : Text}
    (blank : ∀ c ∈ margin, Text.isBlank c = true) :
    (Text.splitOnChar '|' (margin ++ alternatives sources)).map withoutBlanks = sources := by
  induction sources generalizing margin with
  | nil => exact absurd rfl some
  | cons name rest ih =>
    have isName := names name (List.mem_cons_self ..)
    have later := ih fun n member => names n (List.mem_cons_of_mem _ member)
    have bare : withoutBlanks margin = [] := List.filter_eq_nil_iff.mpr fun c member => by simp [blank c member]
    have unbarred : '|' ∉ margin := fun member => by cases blank '|' member
    have barless : '|' ∉ margin ++ name := by
      rw [List.mem_append, not_or]
      exact ⟨unbarred, isName.not_mem (by decide)⟩
    have kept : withoutBlanks (margin ++ name) = name := by
      rw [withoutBlanks, List.filter_append]
      exact (congrArg₂ _ bare isName.withoutBlanks).trans (List.nil_append name)
    cases rest with
    | nil =>
      rw [alternatives_single, Text.splitOnChar_of_not_mem barless, List.map_singleton, kept]
    | cons next rest =>
      have single : '|' ∉ margin ++ name ++ [' '] := by
        rw [List.mem_append, not_or]
        exact ⟨barless, by decide⟩
      have split : margin ++ alternatives (name :: next :: rest) =
          (margin ++ name ++ [' ']) ++ '|' :: ([' '] ++ alternatives (next :: rest)) := by
        rw [alternatives_cons]
        simp
      have word : withoutBlanks (margin ++ name ++ [' ']) = name := by
        rw [withoutBlanks, List.filter_append]
        exact (congrArg₂ _ kept rfl).trans (List.append_nil name)
      have others := @later (List.cons_ne_nil _ _) [' '] (by decide)
      rw [split, Text.splitOnChar_append _ single, List.map_cons, word, others]

theorem sourcesOf?_armHead (names : ∀ name ∈ sources, IsName name) (some : sources ≠ []) (rest : Text) :
    sourcesOf? (armHead sources event payload guard ++ rest) = Option.some sources := by
  have comma : ',' ∉ alternatives sources :=
    not_mem_alternatives (fun name member => (names name member).not_mem (by decide)) (by decide)
  have written : armHead sources event payload guard ++ rest =
      '(' :: (alternatives sources ++ ',' :: (' ' :: (event ++ argument payload) ++
        (')' :: (condition guard ++ [' ', '=', '>'])) ++ rest)) := by
    simp [armHead, armPattern]
  have cut := Text.cutAt_append (' ' :: (event ++ argument payload) ++
    (')' :: (condition guard ++ [' ', '=', '>'])) ++ rest) comma
  have apart := @splitOnChar_alternatives _ names some [] nofun
  obtain ⟨c, s, filled⟩ := List.exists_cons_of_ne_nil (alternatives_ne_nil names some)
  rw [filled] at cut
  rw [List.nil_append, filled] at apart
  have opened : ∀ t, Text.after? "(" ('(' :: t) = Option.some t := fun _ => rfl
  rw [written, filled, sourcesOf?, opened]
  dsimp only [bind, Option.bind]
  rw [cut]
  exact congrArg Option.some apart

/-- On one line all is cut from the first character on that stops. -/
theorem cutTail_of_line {s : Text} (single : '\n' ∉ s) (stops : Char → Bool) :
    cutTail stops s = s.takeWhile (!stops ·) := by
  induction s with
  | nil => rfl
  | cons c s ih =>
    rw [List.mem_cons, not_or] at single
    rw [cutTail, Text.wholeLine?_of_not_mem single.2, List.takeWhile_cons, ih single.2]
    cases stops c <;> rfl

theorem withoutBlanks_cutTail {stops : Char → Bool} (isName : IsName event) (kept : ∀ c ∈ event, stops c = false)
    {rest : Text} (cut : ∀ c ∈ rest.head?, stops c = true) (single : '\n' ∉ rest) :
    withoutBlanks (cutTail stops (event ++ rest)) = event := by
  have line : '\n' ∉ event ++ rest := by
    rw [List.mem_append, not_or]
    exact ⟨isName.not_mem (by decide), single⟩
  have whole : (event ++ rest).takeWhile (!stops ·) = event := by
    rw [List.takeWhile_append_of_pos fun c member => by rw [kept c member]; rfl]
    cases rest with
    | nil => exact List.append_nil event
    | cons c s => rw [List.takeWhile_cons_of_neg (by simp [cut c rfl]), List.append_nil]
  rw [cutTail_of_line line, whole, isName.withoutBlanks]

/-- The event is read without what it carries. -/
theorem eventOf?_armHead (names : ∀ name ∈ sources, IsName name) (isName : IsName event) {rest : Text}
    (single : '\n' ∉ armHead sources event payload guard ++ rest) :
    eventOf? (armHead sources event payload guard ++ rest) = some event := by
  have comma : ',' ∉ '(' :: alternatives sources := by
    rw [List.mem_cons, not_or]
    exact ⟨by decide, not_mem_alternatives (fun name member => (names name member).not_mem (by decide)) (by decide)⟩
  obtain ⟨carried, after, closed, open'⟩ : ∃ carried after,
      argument payload ++ ')' :: (condition guard ++ [' ', '=', '>'] ++ rest) = carried ++ ')' :: after ∧
        ')' ∉ carried := List.eq_append_cons_of_mem (by simp)
  have written : armHead sources event payload guard ++ rest =
      ('(' :: alternatives sources) ++ ',' :: (' ' :: (event ++ carried ++ ')' :: after)) := by
    rw [List.append_assoc event, ← closed]
    simp [armHead, armPattern]
  have cut : ∀ c ∈ carried.head?, (c == '(' || c == '{') = true := by
    intro c first
    cases carried with
    | nil => cases first
    | cons d s =>
      cases first
      cases payload with
      | none =>
        have first : ')' = c := (List.cons.inj closed).1
        exact absurd (first ▸ List.mem_cons_self ..) open'
      | some p =>
        have first : '(' = c := (List.cons.inj closed).1
        rw [← first]
        rfl
  have lineless : '\n' ∉ carried := fun member => single (by rw [written]; simp [member])
  have plain : ∀ c ∈ event, (c == '(' || c == '{') = false := by
    intro c member
    have letter := isName.1.isNameChar c member
    rw [Bool.or_eq_false_iff, beq_eq_false_iff_ne, beq_eq_false_iff_ne]
    refine ⟨?_, ?_⟩ <;> (rintro rfl; exact absurd letter (by decide))
  have read := withoutBlanks_cutTail isName plain cut lineless
  have enclosed : ∀ c ∈ event ++ carried, (c != ')') = true := by
    intro c member
    rw [bne_iff_ne]
    rintro rfl
    rcases List.mem_append.mp member with inside | inside
    · exact isName.not_mem (by decide) inside
    · exact open' inside
  obtain ⟨c, s, filled⟩ := List.exists_cons_of_ne_nil isName.1.ne_nil
  have trimmed : Text.trimStart (' ' :: (event ++ carried ++ ')' :: after)) = event ++ carried ++ ')' :: after := by
    rw [filled]
    exact @Text.trimStart_margin [' '] (by decide) c _ (isName.isBlank c (by rw [filled]; exact List.mem_cons_self ..))
  rw [written, eventOf?, Text.cutAt_append _ comma]
  dsimp only [bind, Option.bind]
  rw [trimmed, Text.span_append after enclosed rfl]
  rw [filled] at read ⊢
  exact congrArg some read

theorem not_containsIf_alternatives (names : ∀ name ∈ sources, IsName name) :
    ¬ ContainsIf (' ' :: alternatives sources) := by
  induction sources with
  | nil =>
    rintro ⟨a, b, _, _, found⟩
    have short := found.length_le
    simp [alternatives, Text.joinWith] at short
  | cons name rest ih =>
    have here := (names name (List.mem_cons_self ..)).not_containsIf
    have later := ih fun n member => names n (List.mem_cons_of_mem _ member)
    cases rest with
    | nil =>
      rw [alternatives_single]
      intro loose
      exact here (loose.mono (List.prefix_append (' ' :: name) [' ']).isInfix)
    | cons next rest =>
      have split : ' ' :: alternatives (name :: next :: rest) =
          (' ' :: (name ++ [' '])) ++ '|' :: (' ' :: alternatives (next :: rest)) := by
        rw [alternatives_cons]
        simp
      rw [split, containsIf_append_cons rfl (by decide), not_or]
      exact ⟨here, later⟩

theorem not_containsIf_armPattern (names : ∀ name ∈ sources, IsName name) (isName : IsName event)
    (unconditional : ∀ p ∈ payload, ¬ ContainsIf p) : ¬ ContainsIf (armPattern sources event payload) := by
  have never : ¬ ContainsIf [] := by
    rintro ⟨a, b, _, _, found⟩
    exact List.cons_ne_nil _ _ (List.infix_nil.mp found)
  have first : ¬ ContainsIf (alternatives sources) := fun loose =>
    not_containsIf_alternatives names (loose.mono (List.suffix_cons ' ' _).isInfix)
  have second : ¬ ContainsIf (' ' :: event) := fun loose =>
    isName.not_containsIf (loose.mono (List.prefix_append (' ' :: event) [' ']).isInfix)
  have third : ¬ ContainsIf (' ' :: (event ++ argument payload)) := by
    cases payload with
    | none =>
      rw [argument, List.append_nil]
      exact second
    | some p =>
      rw [argument_some, ← List.cons_append, containsIf_append_cons rfl (by decide),
        containsIf_append_cons rfl (by decide), not_or, not_or]
      exact ⟨second, unconditional p rfl, never⟩
  have opened := containsIf_append_cons (d := '(') rfl (by decide) []
    (alternatives sources ++ ',' :: ' ' :: (event ++ argument payload))
  rw [List.nil_append, containsIf_append_cons rfl (by decide)] at opened
  rw [armPattern, opened, not_or, not_or]
  exact ⟨never, first, third⟩

/-- The first guard of an arm is the one after its closing parenthesis. -/
theorem findRead?_armHead (names : ∀ name ∈ sources, IsName name) (isName : IsName event)
    (unconditional : ∀ p ∈ payload, ¬ ContainsIf p) (arrowless : ∀ g ∈ guard, ¬ ['=', '>'] <:+: g)
    {tail target : Text} (result : IsResult tail target)
    (single : '\n' ∉ armHead sources event payload guard ++ tail) :
    Text.findRead? readGuard (armHead sources event payload guard ++ tail) = guard.map Text.trim := by
  have front := not_containsIf_armPattern names isName unconditional
  cases guard with
  | none =>
    have gap : ¬ ContainsIf [' '] := by
      rintro ⟨a, b, _, _, found⟩
      exact absurd found.length_le (by simp)
    have arrow := containsIf_append_cons (d := '>') rfl (by decide) [] tail
    have split : armHead sources event payload none ++ tail =
        armPattern sources event payload ++ ')' :: ([' '] ++ '=' :: ([] ++ '>' :: tail)) := by
      simp [armHead, condition]
    have never : ¬ ContainsIf [] := fun loose => gap (loose.mono List.nil_infix)
    refine findRead?_readGuard_eq_none ?_
    rw [split, containsIf_append_cons rfl (by decide), containsIf_append_cons rfl (by decide), arrow]
    simp only [not_or]
    exact ⟨front, gap, never, result.unconditional⟩
  | some g =>
    have split : armHead sources event payload (some g) ++ tail =
        (armPattern sources event payload ++ [')']) ++
          (' ' :: 'i' :: 'f' :: ' ' :: (g ++ ' ' :: '=' :: '>' :: tail)) := by
      simp [armHead, condition_some]
    rw [split] at single ⊢
    have inside : '\n' ∉ g := fun member => single (by simp [member])
    refine Text.findRead?_append (readGuard_condition (arrowless g rfl) inside result.arrowless) ?_
    intro x y parts kept
    obtain ⟨body, last, rfl⟩ := List.eq_nil_or_concat'  y |>.resolve_left kept
    have ends := List.append_inj' (parts.trans (List.append_assoc x body [last]).symm) rfl
    obtain ⟨pattern, close⟩ := ends
    obtain rfl : ')' = last := (List.cons.inj close).1
    refine readGuard_eq_none fun a b before after start => ?_
    rw [List.append_assoc, List.singleton_append] at start
    have absent : ')' ∉ [a, 'i', 'f', b] := by
      simp only [List.mem_cons, List.not_mem_nil, or_false]
      rintro (rfl | same | same | rfl)
      · cases before
      · cases same
      · cases same
      · cases after
    have found := (Text.prefix_append_cons absent _ _).mp start
    exact front ⟨a, b, before, after, found.isInfix.trans (pattern ▸ (List.suffix_append x body).isInfix)⟩

end Parts

/-! ### The target -/

theorem afterLastArrow?_append {tail : Text} (absent : ¬ ['=', '>'] <:+: tail) (front : Text) :
    afterLastArrow? (front ++ '=' :: '>' :: tail) = some tail := by
  have reversed : (front ++ '=' :: '>' :: tail).reverse =
      tail.reverse ++ (['>', '='] ++ front.reverse) := by simp
  have read : Text.splitAtFirst? ['>', '='] (tail.reverse ++ (['>', '='] ++ front.reverse)) =
      some (tail.reverse, front.reverse) := by
    refine Text.splitAtFirst?_append _ ?_
    intro x y split kept start
    have within : ['>', '='] <:+: tail.reverse → False := by
      intro found
      exact absent (List.reverse_infix.mp found)
    match y with
    | [] => exact kept rfl
    | [c] =>
      have second := (List.cons_prefix_cons.mp start).2
      exact absurd (List.cons_prefix_cons.mp second).1 (by decide)
    | c :: d :: y =>
      obtain ⟨rfl, second⟩ := List.cons_prefix_cons.mp start
      obtain ⟨rfl, _⟩ := List.cons_prefix_cons.mp second
      exact within ⟨x, y, by rw [split]; simp⟩
  have same : afterLastArrow? (front ++ '=' :: '>' :: tail) =
      (Text.splitAtFirst? ['>', '='] (front ++ '=' :: '>' :: tail).reverse).map fun found => found.1.reverse := rfl
  rw [same, reversed, read]
  exact congrArg some (List.reverse_reverse tail)

theorem targetOf?_append {front tail : Text} (single : '\n' ∉ front ++ '=' :: '>' :: tail)
    (arrowless : ¬ ['=', '>'] <:+: tail) (commentless : '/' ∉ tail) :
    targetOf? (front ++ '=' :: '>' :: tail) =
      some (withoutBlanks ((Text.trimStart tail).filter fun c => c != '{' && c != '}' && c != ',')) := by
  have line : Text.firstLine (front ++ '=' :: '>' :: tail) = front ++ '=' :: '>' :: tail := by
    refine List.takeWhile_eq_self_iff.mpr fun c member => bne_iff_ne.mpr fun same => single (same ▸ member)
  have within : Text.trimStart tail ⊆ tail := (List.dropWhile_suffix _).subset
  have lineless : List.elem '\n' (Text.trimStart tail) = false := by
    rw [List.elem_eq_mem, decide_eq_false_iff_not]
    exact fun member => single (by simp [within member])
  have uncommented : Text.splitAtFirst? "//" (Text.trimStart tail) = none :=
    Text.splitAtFirst?_eq_none fun found => commentless (within (found.subset (List.mem_cons_self ..)))
  rw [targetOf?]
  dsimp only
  rw [line, afterLastArrow?_append arrowless]
  dsimp only [bind, Option.bind]
  rw [List.drop_length, List.append_nil, lineless, uncommented]
  rfl

variable {target : Text}

theorem IsName.not_infix_arrow (isName : IsName target) : ¬ ['=', '>'] <:+: target := fun found =>
  isName.not_mem (by decide) (found.subset (List.mem_cons_self ..))

theorem IsName.filter (isName : IsName target) :
    target.filter (fun c => c != '{' && c != '}' && c != ',') = target := by
  refine List.filter_eq_self.mpr fun c member => ?_
  have letter := isName.1.isNameChar c member
  simp only [Bool.and_eq_true, bne_iff_ne]
  refine ⟨⟨?_, ?_⟩, ?_⟩ <;> (rintro rfl; exact absurd letter (by decide))

/-- A target with a comma after it. -/
theorem isResult_line (isName : IsName target) : IsResult (' ' :: (target ++ [','])) target where
  arrowless := by
    rw [Text.infix_cons_of_head (by decide), Text.infix_concat_of_not_mem (by decide) (by decide)]
    exact isName.not_infix_arrow
  unconditional := by
    have never : ¬ ContainsIf [] := fun ⟨_, _, _, _, found⟩ => List.cons_ne_nil _ _ (List.infix_nil.mp found)
    rw [← List.cons_append, containsIf_append_cons rfl (by decide), not_or]
    exact ⟨fun loose => isName.not_containsIf (loose.mono (List.prefix_append (' ' :: target) [' ']).isInfix), never⟩
  ends := ⟨' ' :: target, ',', rfl, rfl⟩
  single := by
    have lineless := isName.not_mem (c := '\n') (by decide)
    simp [lineless]
  read front single := by
    have lineless := isName.not_mem (c := '\n') (by decide)
    have slashless := isName.not_mem (c := '/') (by decide)
    obtain ⟨c, s, filled⟩ := List.exists_cons_of_ne_nil isName.1.ne_nil
    have trimmed : Text.trimStart (' ' :: (target ++ [','])) = target ++ [','] := by
      rw [filled]
      exact @Text.trimStart_margin [' '] (by decide) c _ (isName.isBlank c (by rw [filled]; exact List.mem_cons_self ..))
    rw [targetOf?_append (by simp [single, lineless]) ?_ (by simp [slashless]), trimmed, List.filter_append,
      isName.filter]
    · exact congrArg some (((congrArg withoutBlanks (List.append_nil target))).trans isName.withoutBlanks)
    · rw [Text.infix_cons_of_head (by decide), Text.infix_concat_of_not_mem (by decide) (by decide)]
      exact isName.not_infix_arrow

/-- A target after an opening brace. -/
theorem isResult_braced (isName : IsName target) : IsResult (' ' :: '{' :: ' ' :: target) target where
  arrowless := by
    rw [Text.infix_cons_of_head (by decide), Text.infix_cons_of_head (by decide), Text.infix_cons_of_head (by decide)]
    exact isName.not_infix_arrow
  unconditional := by
    have gap : ¬ ContainsIf [' '] := fun ⟨_, _, _, _, found⟩ => absurd found.length_le (by simp)
    have split := containsIf_append_cons (d := '{') rfl (by decide) [' '] (' ' :: target)
    rw [List.singleton_append] at split
    rw [split, not_or]
    exact ⟨gap, fun loose => isName.not_containsIf (loose.mono (List.prefix_append (' ' :: target) [' ']).isInfix)⟩
  ends := by
    obtain ⟨body, z, split⟩ := (List.eq_nil_or_concat' target).resolve_left isName.1.ne_nil
    exact ⟨' ' :: '{' :: ' ' :: body, z, by rw [split]; rfl, isName.isBlank z (by rw [split]; simp)⟩
  single := by
    have lineless := isName.not_mem (c := '\n') (by decide)
    simp [lineless]
  read front single := by
    have lineless := isName.not_mem (c := '\n') (by decide)
    have slashless := isName.not_mem (c := '/') (by decide)
    have trimmed : Text.trimStart (' ' :: '{' :: ' ' :: target) = '{' :: ' ' :: target := rfl
    have braceless : ('{' :: ' ' :: target).filter (fun c => c != '{' && c != '}' && c != ',') = ' ' :: target :=
      congrArg (List.cons ' ') isName.filter
    rw [targetOf?_append (by simp [single, lineless]) ?_ (by simp [slashless]), trimmed, braceless]
    · exact congrArg some isName.withoutBlanks
    · rw [Text.infix_cons_of_head (by decide), Text.infix_cons_of_head (by decide),
        Text.infix_cons_of_head (by decide)]
      exact isName.not_infix_arrow

/-- An arm is read as one transition from each of its sources. -/
theorem ofArm_armHead {margin : Text} (blank : ∀ c ∈ margin, Text.isBlank c = true) {sources : List Text}
    {event : Text} {payload guard : Option Text} (names : ∀ name ∈ sources, IsName name)
    (some : sources ≠ []) (isEvent : IsName event) (isTarget : IsName target)
    (unconditional : ∀ p ∈ payload, ¬ ContainsIf p) (arrowless : ∀ g ∈ guard, ¬ ['=', '>'] <:+: g)
    {tail : Text} (result : IsResult tail target)
    (single : '\n' ∉ armHead sources event payload guard ++ tail) :
    ofArm (margin ++ (armHead sources event payload guard ++ tail)) =
      sources.map fun source => { source, event, target, guard := guard.map Text.trim } := by
  have written : armHead sources event payload guard ++ tail =
      (armPattern sources event payload ++ ')' :: (condition guard ++ [' '])) ++ '=' :: '>' :: tail := by
    rw [armHead_arrow, List.append_assoc]
    rfl
  have trimmed : Text.trim (margin ++ (armHead sources event payload guard ++ tail)) =
      armHead sources event payload guard ++ tail := by
    obtain ⟨body, z, split, filled⟩ := result.ends
    rw [split, ← List.append_assoc (armHead _ _ _ _)]
    refine Text.trim_append blank ?_ filled
    rintro c ⟨⟩
    rfl
  have opens : Text.startsWith "(" (armHead sources event payload guard ++ tail) = true :=
    Text.startsWith_iff.mpr ⟨_, rfl⟩
  have arrow : Text.contains "=>" (armHead sources event payload guard ++ tail) = true := by
    rw [Text.contains_iff, written]
    exact ⟨_, tail, by rw [List.append_assoc]; rfl⟩
  have targetRead : targetOf? (armHead sources event payload guard ++ tail) = Option.some target := by
    rw [written] at single ⊢
    exact result.read _ fun member => single (List.mem_append_left _ member)
  have sourcesRead := @sourcesOf?_armHead sources event payload guard names some tail
  have eventRead := eventOf?_armHead names isEvent single
  have guardRead := findRead?_armHead names isEvent unconditional arrowless result single
  have named : ∀ name : Text, IsName name → name.isEmpty = false := fun name isName =>
    List.isEmpty_eq_false_iff.mpr isName.1.ne_nil
  have all : sources.filter (!·.isEmpty) = sources := List.filter_eq_self.mpr fun name member => by
    rw [named name (names name member)]
    rfl
  rw [ofArm, trimmed, opens, arrow, sourcesRead, eventRead, targetRead, guardRead, if_pos (by rfl)]
  dsimp only
  rw [named event isEvent, named target isTarget, if_neg (by decide), all]

end ReferencePages.Transition
