import ReferencePages.Proofs.Transition.Arm
import ReferencePages.Proofs.Transition.Qualifier
import ReferencePages.Proofs.Text.Join
import ReferencePages.Proofs.Text.Phrase
import Mathlib.Data.List.Forall2
/-!
Whole transitions. Whatever stands in the lines of a block, an arm is left out unless a source, an event and a target are
read from it, and what is read has neither blanks nor the signs that end it. The arms follow each other as the lines
that they begin with, and the transitions of an arm as its alternatives.
-/

namespace ReferencePages.Transition

/-! ### The parts of an arm -/

theorem withoutBlanks_filled (s : Text) : ∀ c ∈ withoutBlanks s, Text.isBlank c = false := by
  intro c member
  simpa using (List.mem_filter.mp member).2

theorem mem_of_mem_withoutBlanks {c : Char} {s : Text} (member : c ∈ withoutBlanks s) : c ∈ s :=
  (List.mem_filter.mp member).1

theorem sourcesOf?_eq_some {arm : Text} {sources : List Text} :
    sourcesOf? arm = some sources ↔ ∃ named rest, arm = '(' :: (named ++ ',' :: rest) ∧ ',' ∉ named ∧ named ≠ [] ∧
      sources = (Text.splitOnChar '|' named).map withoutBlanks := by
  constructor
  · intro read
    obtain ⟨inner, opened, found⟩ := Option.bind_eq_some_iff.mp read
    obtain rfl := Text.after?_eq_some.mp opened
    split at found
    · rename_i c named rest cut
      cases found
      obtain ⟨absent, rfl⟩ := Text.cutAt_eq_some.mp cut
      exact ⟨c :: named, rest, rfl, absent, List.cons_ne_nil c named, rfl⟩
    · cases found
  · rintro ⟨named, rest, rfl, absent, some, rfl⟩
    obtain ⟨c, s, rfl⟩ := List.exists_cons_of_ne_nil some
    have opened : Text.after? "(" ('(' :: (c :: s ++ ',' :: rest)) = Option.some (c :: s ++ ',' :: rest) := rfl
    rw [sourcesOf?, opened]
    dsimp only [bind, Option.bind]
    rw [Text.cutAt_append rest absent]

theorem sourcesOf?_unnamed (rest : Text) : sourcesOf? ('(' :: ',' :: rest) = none := rfl

/-- An event is read from a part of the arm in which no parenthesis is closed. -/
theorem eventOf?_eq_some {arm event : Text} (read : eventOf? arm = some event) :
    ∃ carried, carried ⊆ arm ∧ ')' ∉ carried ∧
      event = withoutBlanks (cutTail (fun c => c == '(' || c == '{') carried) := by
  obtain ⟨rest, behind, found⟩ := Option.bind_eq_some_iff.mp read
  split at found
  · rename_i c s d after spanned
    cases found
    obtain ⟨absent, rfl, split⟩ := Text.span_ne_eq_cons.mp spanned
    have cut : Text.cutAt ',' arm = ((Text.cutAt ',' arm).1, some rest) := Prod.ext rfl behind
    obtain ⟨_, whole⟩ := Text.cutAt_eq_some.mp cut
    refine ⟨c :: s, fun a member => ?_, absent, rfl⟩
    have within : a ∈ rest := by
      refine (List.dropWhile_suffix Text.isBlank).subset (?_ : a ∈ Text.trimStart rest)
      rw [split]
      exact List.mem_append_left _ member
    rw [whole]
    exact List.mem_append_right _ (List.mem_cons_of_mem _ within)
  · cases found

/-- A target is read behind an arrow, without braces and commas. -/
theorem targetOf?_eq_some {arm target : Text} (read : targetOf? arm = some target) :
    ("=>" : Text) <:+: arm ∧
      ∃ shown : Text, target = withoutBlanks (shown.filter fun c => c != '{' && c != '}' && c != ',') := by
  obtain ⟨tail, arrow, found⟩ := Option.bind_eq_some_iff.mp read
  constructor
  · obtain ⟨parts, split, _⟩ := Option.map_eq_some_iff.mp arrow
    have reversed : (">=" : Text) <:+: (Text.firstLine arm).reverse :=
      Text.splitAtFirst?_isSome.mp (Option.isSome_iff_exists.mpr ⟨parts, split⟩)
    have within : ("=>" : Text) <:+: Text.firstLine arm := List.reverse_infix.mp reversed
    exact within.trans (List.takeWhile_prefix _).isInfix
  · dsimp only at found
    split at found
    · cases found
    · cases found
      exact ⟨_, rfl⟩

/-! ### The transitions of an arm -/

/-- An arm from which an event and a target can be read, and what stands between its parenthesis and its first comma. -/
structure Parts (arm named event target : Text) : Prop where
  opens : ∃ rest, arm = '(' :: (named ++ ',' :: rest)
  comma : ',' ∉ named
  event : eventOf? arm = some event ∧ event ≠ []
  target : targetOf? arm = some target ∧ target ≠ []

/-- One transition for each alternative that is not blank, all with one event, one target and the guard of the arm. -/
def fanOut (arm named event target : Text) : List Transition :=
  (((Text.splitOnChar '|' named).map withoutBlanks).filter (!·.isEmpty)).map fun source =>
    { source, event, target, guard := Text.findRead? readGuard arm }

/-- What is read from an arm: one transition for each of its alternatives, and nothing if a part is missing. -/
def Gives (arm : Text) (ts : List Transition) : Prop :=
  (∃ named event target, Parts arm named event target ∧ ts = fanOut arm named event target) ∨
    (¬ ∃ named event target, Parts arm named event target) ∧ ts = []

theorem ofArm_of_parts {line named event target : Text} (parts : Parts (Text.trim line) named event target) :
    ofArm line = fanOut (Text.trim line) named event target := by
  obtain ⟨⟨rest, opens⟩, comma, ⟨eventRead, eventSome⟩, ⟨targetRead, targetSome⟩⟩ := parts
  have start : Text.startsWith "(" (Text.trim line) = true := Text.startsWith_iff.mpr ⟨_, opens.symm⟩
  have arrow : Text.contains "=>" (Text.trim line) = true :=
    Text.contains_iff.mpr (targetOf?_eq_some targetRead).1
  have filled : (event.isEmpty || target.isEmpty) = false := by
    rw [List.isEmpty_eq_false_iff.mpr eventSome, List.isEmpty_eq_false_iff.mpr targetSome]
    rfl
  rw [ofArm, start, arrow, eventRead, targetRead, if_pos (by rfl)]
  by_cases none : named = []
  · -- Nothing between the parenthesis and the comma is one blank alternative.
    rw [none, List.nil_append] at opens
    rw [opens, sourcesOf?_unnamed, none]
    rfl
  · rw [sourcesOf?_eq_some.mpr ⟨named, rest, opens, comma, none, rfl⟩]
    dsimp only
    rw [filled]
    rfl

theorem gives_ofArm (line : Text) : Gives (Text.trim line) (ofArm line) := by
  by_cases parts : ∃ named event target, Parts (Text.trim line) named event target
  · obtain ⟨named, event, target, parts⟩ := parts
    exact .inl ⟨named, event, target, parts, ofArm_of_parts parts⟩
  · refine .inr ⟨parts, ?_⟩
    unfold ofArm
    dsimp only
    split
    · split
      · rename_i sources event target sourceRead eventRead targetRead
        split
        · rfl
        · rename_i filled
          rw [Bool.or_eq_true, not_or, List.isEmpty_iff, List.isEmpty_iff] at filled
          obtain ⟨named, rest, opens, comma, _⟩ := sourcesOf?_eq_some.mp sourceRead
          exact absurd ⟨named, event, target, ⟨rest, opens⟩, comma, ⟨eventRead, filled.1⟩, ⟨targetRead, filled.2⟩⟩ parts
      · rfl
    · rfl

/-! ### Whole transitions -/

/-- A transition of which no part is missing, and in which no blank and no sign of the arm is left. -/
structure IsWhole (t : Transition) : Prop where
  source : t.source ≠ [] ∧ ∀ c ∈ t.source, Text.isBlank c = false ∧ c ∉ [',', '|']
  event : t.event ≠ [] ∧ ∀ c ∈ t.event, Text.isBlank c = false ∧ c ∉ ['(', '{', ')']
  target : t.target ≠ [] ∧ ∀ c ∈ t.target, Text.isBlank c = false ∧ c ∉ ['{', '}', ',']

theorem source_clean {named source : Text} (comma : ',' ∉ named)
    (member : source ∈ ((Text.splitOnChar '|' named).map withoutBlanks).filter (!·.isEmpty)) :
    source ≠ [] ∧ ∀ c ∈ source, Text.isBlank c = false ∧ c ∉ [',', '|'] := by
  obtain ⟨apart, some⟩ := List.mem_filter.mp member
  obtain ⟨piece, inside, rfl⟩ := List.mem_map.mp apart
  refine ⟨by simpa using some, fun c member => ⟨withoutBlanks_filled piece c member, ?_⟩⟩
  have within := mem_of_mem_withoutBlanks member
  have bar : '|' ∉ piece := Text.not_mem_of_mem_splitOnChar inside
  simp only [List.mem_cons, List.not_mem_nil, or_false]
  rintro (rfl | rfl)
  · exact comma (Text.mem_of_mem_splitOnChar inside within)
  · exact bar within

theorem event_clean {arm event : Text} (single : '\n' ∉ arm) (read : eventOf? arm = some event) :
    ∀ c ∈ event, Text.isBlank c = false ∧ c ∉ ['(', '{', ')'] := by
  obtain ⟨carried, within, closed, rfl⟩ := eventOf?_eq_some read
  rw [cutTail_of_line fun member => single (within member)]
  intro c member
  refine ⟨withoutBlanks_filled _ c member, ?_⟩
  have kept := mem_of_mem_withoutBlanks member
  have open' := List.mem_takeWhile_imp kept
  have inside := (List.takeWhile_prefix _).subset kept
  simp only [List.mem_cons, List.not_mem_nil, or_false]
  rintro (rfl | rfl | rfl)
  · cases open'
  · cases open'
  · exact closed inside

theorem target_clean {arm target : Text} (read : targetOf? arm = some target) :
    ∀ c ∈ target, Text.isBlank c = false ∧ c ∉ ['{', '}', ','] := by
  obtain ⟨_, shown, rfl⟩ := targetOf?_eq_some read
  intro c member
  refine ⟨withoutBlanks_filled _ c member, ?_⟩
  have kept := (List.mem_filter.mp (mem_of_mem_withoutBlanks member)).2
  simp only [List.mem_cons, List.not_mem_nil, or_false]
  rintro (rfl | rfl | rfl) <;> cases kept

theorem Gives.isWhole {arm : Text} {ts : List Transition} (gives : Gives arm ts) (single : '\n' ∉ arm) :
    ∀ t ∈ ts, IsWhole t := by
  intro t member
  rcases gives with ⟨named, event, target, parts, rfl⟩ | ⟨_, rfl⟩
  · obtain ⟨source, inside, rfl⟩ := List.mem_map.mp member
    exact ⟨source_clean parts.comma inside, ⟨parts.event.2, event_clean single parts.event.1⟩,
      ⟨parts.target.2, target_clean parts.target.1⟩⟩
  · cases member

/-! ### The order of arms -/

theorem blockLines_sublist (start stop : Text) (inside : Bool) (ls : List Text) :
    (blockLines start stop inside ls).Sublist ls := by
  induction ls generalizing inside with
  | nil => exact .slnil
  | cons line ls ih =>
    cases inside with
    | false => exact (ih _).cons line
    | true =>
      rw [blockLines]
      split
      · exact (ih false).cons line
      · exact (ih true).cons_cons line

/-- An arm is one of some lines, or a header with what is left of another line behind it. -/
def IsArm (ls : List Text) (arm head : Text) : Prop :=
  arm = head ∨ opensBlock head = true ∧ ∃ result ∈ ls, arm = head ++ " " ++ Text.trim result

theorem exists_related {R : Text → Text → Prop} {as bs : List Text} (each : List.SublistForall₂ R as bs) {a : Text}
    (member : a ∈ as) : ∃ b ∈ bs, R a b := by
  induction each with
  | nil => cases member
  | cons here _ ih =>
    rcases List.mem_cons.mp member with rfl | later
    · exact ⟨_, List.mem_cons_self .., here⟩
    · obtain ⟨b, inside, related⟩ := ih later
      exact ⟨b, List.mem_cons_of_mem _ inside, related⟩
  | cons_right _ ih =>
    obtain ⟨b, inside, related⟩ := ih member
    exact ⟨b, List.mem_cons_of_mem _ inside, related⟩

/-- Each arm begins with a line of its own, and the arms follow each other as these lines. -/
theorem joinArms_heads {ls all : List Text} (subset : ls ⊆ all) :
    List.SublistForall₂ (IsArm all) (joinArms ls) ls := by
  fun_induction joinArms ls with
  | case1 => exact .nil
  | case2 line => exact .cons (.inl rfl) .nil
  | case3 line result ls opens later =>
    obtain ⟨_, inside, behind⟩ := List.cons_subset.mp subset |>.imp_right List.cons_subset.mp
    refine .cons (.inr ⟨opens, result, inside, rfl⟩) (.cons_right ?_)
    cases ls with
    | nil => exact .nil
    | cons closing rest =>
      dsimp only
      split
      · exact .cons_right (later.1 (List.cons_subset.mp behind).2)
      · exact later.2 behind
  | case4 line result ls closed later => exact .cons (.inl rfl) (later (List.cons_subset.mp subset).2)

/-- The lines of a text that may belong to an arm, as they are left once they are cleaned. -/
def keptLines (settings : Settings) (text : Text) : List Text :=
  clean settings.qualifiers (blockLines settings.start settings.stop false (Text.lines text))

/-- The arms of a text, each on one line. -/
def arms (settings : Settings) (text : Text) : List Text := joinArms (keptLines settings text)

/-- The line that an arm begins with, as it is left once it is cleaned. -/
theorem arms_heads (settings : Settings) (text : Text) :
    List.SublistForall₂ (fun arm line =>
      IsArm (keptLines settings text) arm (unqualified settings.qualifiers (Text.trimEnd line)))
      (arms settings text) (Text.lines text) := by
  have heads := @joinArms_heads (keptLines settings text) _ (List.Subset.refl _)
  have kept : ((blockLines settings.start settings.stop false (Text.lines text)).filter (!isNoise ·)).Sublist
      (Text.lines text) := List.filter_sublist.trans (blockLines_sublist ..)
  obtain ⟨lines, each, inside⟩ := List.sublistForall₂_iff.mp (List.sublistForall₂_map_right_iff.mp heads)
  exact List.sublistForall₂_iff.mpr ⟨lines, each, inside.trans kept⟩

theorem arms_single (settings : Settings) (text : Text) : ∀ arm ∈ arms settings text, '\n' ∉ arm := by
  have single : ∀ line ∈ keptLines settings text, '\n' ∉ line := by
    intro line member feed
    obtain ⟨raw, inside, rfl⟩ := List.mem_map.mp member
    have within := (blockLines_sublist ..).subset (List.mem_filter.mp inside).1
    obtain ⟨gap, split, _⟩ := @Text.trimEndWhile_split Text.isBlank raw
    have feed' : '\n' ∈ raw := split ▸ List.mem_append_left gap (mem_of_mem_dropQualifiers feed)
    cases Text.isLine_of_mem_lines within '\n' feed'
  intro arm member feed
  obtain ⟨head, inside, isArm⟩ := exists_related (@joinArms_heads (keptLines settings text) _ (List.Subset.refl _)) member
  rcases isArm with rfl | ⟨_, result, within, rfl⟩
  · exact single arm inside feed
  · rcases List.mem_append.mp feed with front | behind
    · rcases List.mem_append.mp front with here | space
      · exact single head inside here
      · exact absurd space (by decide)
    · exact single result within ((Text.trim_infix result).subset behind)

theorem isWhole_of_extract {settings : Settings} {text : Text} {t : Transition} (member : t ∈ extract settings text) :
    IsWhole t := by
  obtain ⟨arm, inside, found⟩ := List.mem_flatMap.mp member
  refine (gives_ofArm arm).isWhole (fun feed => ?_) t found
  exact arms_single settings text arm inside ((Text.trim_infix arm).subset feed)

/-- No transition is partial, whatever the text: each has a source, an event and a target without blanks and without
the signs around them. Arm by arm, in the order of the lines that the arms begin with, there is one transition for each
alternative of an arm, in the order in which they are written, with the event, the target and the guard of the arm. -/
theorem extract_whole (settings : Settings) (text : Text) :
    (∀ t ∈ extract settings text, IsWhole t) ∧
      ∃ groups : List (List Transition), extract settings text = groups.flatten ∧
        List.Forall₂ (fun arm ts => Gives (Text.trim arm) ts) (arms settings text) groups ∧
        List.SublistForall₂ (fun arm line =>
          IsArm (keptLines settings text) arm (unqualified settings.qualifiers (Text.trimEnd line)))
          (arms settings text) (Text.lines text) := by
  refine ⟨fun t => isWhole_of_extract, (arms settings text).map ofArm, rfl, ?_, arms_heads settings text⟩
  rw [List.forall₂_map_right_iff, List.forall₂_same]
  exact fun arm _ => gives_ofArm arm

end ReferencePages.Transition
