import ReferencePages.Proofs.Transition.Written
/-!
What joining keeps of the lines. A header takes the line behind it, and a closing brace behind that line is left out;
every other line stays a line of its own. The lines are told apart here from what stands above each of them, and what
is joined is put beside them.
-/

namespace ReferencePages.Transition

/-! ### Headers and closing braces -/

/-- A header: a line that ends in an arrow and an opening brace, each with nothing but blanks behind it. -/
def IsHeader (line : Text) : Prop :=
  ∃ front gap margin, line = front ++ ("=>" ++ (gap ++ '{' :: margin)) ∧
    (∀ c ∈ gap, Text.isBlank c = true) ∧ ∀ c ∈ margin, Text.isBlank c = true

theorem opensBlock_iff {line : Text} : opensBlock line = true ↔ IsHeader line := by
  constructor
  · intro opens
    unfold opensBlock at opens
    split at opens
    · rename_i rest reversed
      obtain ⟨front, arrow⟩ := Text.endsWith_iff.mp opens
      obtain ⟨margin, whole, blank, _⟩ := @Text.trimEndWhile_split Text.isBlank line
      obtain ⟨gap, inner, blank', _⟩ := @Text.trimEndWhile_split Text.isBlank rest.reverse
      have brace : Text.trimEnd line = rest.reverse ++ ['{'] := by
        rw [← List.reverse_reverse (Text.trimEnd line), reversed, List.reverse_cons]
      refine ⟨front, gap, margin, ?_, blank', blank⟩
      rw [Text.trimEnd] at brace arrow
      rw [whole, brace, inner, ← arrow]
      simp
    · cases opens
  · rintro ⟨front, gap, margin, rfl, blank, blank'⟩
    have outer : Text.trimEnd (front ++ ("=>" ++ (gap ++ '{' :: margin))) = (front ++ "=>") ++ gap ++ ['{'] := by
      have split : front ++ ("=>" ++ (gap ++ '{' :: margin)) = ((front ++ "=>") ++ gap ++ ['{']) ++ margin := by simp
      rw [split, Text.trimEnd, Text.trimEndWhile_append_of_all blank', Text.trimEndWhile_concat _ (by decide)]
    have inner : Text.trimEnd ((front ++ "=>") ++ gap) = front ++ "=>" := by
      have arrow : front ++ ("=>" : Text) = (front ++ ['=']) ++ ['>'] := by simp
      rw [Text.trimEnd, Text.trimEndWhile_append_of_all blank, arrow, Text.trimEndWhile_concat _ (by decide)]
    rw [opensBlock, outer, List.reverse_append]
    change Text.endsWith "=>" (Text.trimEnd (List.reverse (List.reverse _))) = true
    rw [List.reverse_reverse, inner, Text.endsWith_iff]
    exact List.suffix_append _ _

theorem withoutBlanks_append (a b : Text) : withoutBlanks (a ++ b) = withoutBlanks a ++ withoutBlanks b :=
  List.filter_append ..

theorem withoutBlanks_eq_nil_iff {s : Text} : withoutBlanks s = [] ↔ ∀ c ∈ s, Text.isBlank c = true := by
  simp [withoutBlanks, List.filter_eq_nil_iff]

theorem withoutBlanks_trim (s : Text) : withoutBlanks (Text.trim s) = withoutBlanks s := by
  obtain ⟨margin, gap, split, blank, blank', _⟩ := Text.trim_split s
  have outer := congrArg withoutBlanks split
  rw [withoutBlanks_append, withoutBlanks_append, withoutBlanks_eq_nil_iff.mpr blank,
    withoutBlanks_eq_nil_iff.mpr blank', List.append_nil, List.nil_append] at outer
  exact outer.symm

/-- The first character that is no blank is the first one that trimming leaves. -/
theorem trim_eq_cons {s t : Text} {c : Char} (read : withoutBlanks s = c :: t) :
    ∃ rest, Text.trim s = c :: rest ∧ withoutBlanks rest = t := by
  obtain ⟨_, _, _, _, _, first, _⟩ := Text.trim_split s
  rw [← withoutBlanks_trim] at read
  cases trimmed : Text.trim s with
  | nil =>
    rw [trimmed] at read
    cases read
  | cons d rest =>
    rw [trimmed] at read first
    rw [withoutBlanks, List.filter_cons_of_pos (by simp [first d rfl])] at read
    obtain ⟨rfl, rest'⟩ := List.cons.inj read
    exact ⟨rest, rfl, rest'⟩

theorem trim_eq_singleton {s : Text} {c : Char} (single : withoutBlanks s = [c]) : Text.trim s = [c] := by
  obtain ⟨rest, trimmed, none⟩ := trim_eq_cons single
  obtain ⟨_, _, _, _, _, _, last⟩ := Text.trim_split s
  rw [trimmed] at last ⊢
  -- What is behind `c` is blank, but a trimmed text does not end with a blank.
  rcases List.eq_nil_or_concat rest with rfl | ⟨body, z, rfl⟩
  · rfl
  · have blank := withoutBlanks_eq_nil_iff.mp none z (by simp)
    rw [last z (by rw [List.concat_eq_append, ← List.cons_append, List.getLast?_concat]; rfl)] at blank
    cases blank

theorem isClosingBrace_of_trim {line rest : Text} (trimmed : Text.trim line = '}' :: rest) :
    isClosingBrace line = ((Text.trim rest).isEmpty || Text.trim rest = ",") := by
  rw [isClosingBrace, trimmed]
  rfl

/-- A closing brace has nothing beside it but a comma behind it. -/
theorem isClosingBrace_iff {line : Text} :
    isClosingBrace line = true ↔ withoutBlanks line = ['}'] ∨ withoutBlanks line = ['}', ','] := by
  constructor
  · intro closes
    unfold isClosingBrace at closes
    split at closes
    · rename_i rest trimmed
      have read : withoutBlanks line = '}' :: withoutBlanks (Text.trim rest) := by
        rw [withoutBlanks_trim, ← withoutBlanks_trim, trimmed]
        rfl
      rw [Bool.or_eq_true, List.isEmpty_iff, decide_eq_true_eq] at closes
      rw [read]
      exact closes.imp (fun none => by rw [none]; rfl) (fun comma => by rw [comma]; rfl)
    · cases closes
  · rintro (single | comma)
    · obtain ⟨rest, trimmed, none⟩ := trim_eq_cons single
      have left : Text.trim rest = [] :=
        Text.trim_eq_nil_iff.mpr (List.all_eq_true.mpr (withoutBlanks_eq_nil_iff.mp none))
      rw [isClosingBrace_of_trim trimmed, left]
      rfl
    · obtain ⟨rest, trimmed, single⟩ := trim_eq_cons comma
      rw [isClosingBrace_of_trim trimmed, trim_eq_singleton single]
      rfl

theorem opensBlock_of_closes {line : Text} (closes : isClosingBrace line = true) : opensBlock line = false := by
  rw [Bool.eq_false_iff, Ne, opensBlock_iff]
  rintro ⟨front, gap, margin, rfl, _⟩
  have member : '{' ∈ withoutBlanks (front ++ ("=>" ++ (gap ++ '{' :: margin))) :=
    List.mem_filter.mpr ⟨by simp, by decide⟩
  rcases isClosingBrace_iff.mp closes with single | comma
  · rw [single] at member
    exact absurd member (by decide)
  · rw [comma] at member
    exact absurd member (by decide)

/-! ### One arm at a time -/

theorem joinArms_header {line : Text} (opens : opensBlock line = true) {ls : List Text}
    (unclosed : ∀ next ∈ ls.head?, isClosingBrace next = false) (result : Text) :
    joinArms (line :: result :: ls) = (line ++ ' ' :: Text.trim result) :: joinArms ls := by
  cases ls with
  | nil => simp [joinArms, opens]
  | cons next ls => simp [joinArms, opens, unclosed next rfl]

/-- Lines are joined from the front: a line that is no header, a header with nothing behind it, a header and its result,
or both with the closing brace behind them. -/
@[elab_as_elim]
theorem armInduction {motive : List Text → Prop} (nil : motive [])
    (last : ∀ line, opensBlock line = true → motive [line])
    (own : ∀ line ls, opensBlock line = false → motive ls → motive (line :: ls))
    (header : ∀ line result ls, opensBlock line = true → (∀ next ∈ ls.head?, isClosingBrace next = false) →
      motive ls → motive (line :: result :: ls))
    (closed : ∀ line result closing ls, opensBlock line = true → isClosingBrace closing = true → motive ls →
      motive (line :: result :: closing :: ls)) (ls : List Text) : motive ls := by
  fun_induction joinArms ls with
  | case1 => exact nil
  | case2 line =>
    cases opens : opensBlock line with
    | true => exact last line opens
    | false => exact own line [] opens nil
  | case3 line result ls opens later =>
    cases ls with
    | nil => exact header line result [] opens nofun nil
    | cons next ls =>
      cases closes : isClosingBrace next with
      | true => exact closed line result next ls opens closes later.1
      | false =>
        refine header line result (next :: ls) opens (fun other first => ?_) later.2
        cases first
        exact closes
  | case4 line result ls plain later => exact own line (result :: ls) (Bool.eq_false_iff.mpr plain) later

theorem length_joinArms_le (ls : List Text) : (joinArms ls).length ≤ ls.length := by
  induction ls using armInduction with
  | nil => exact Nat.le_refl _
  | last line opens => exact Nat.le_refl _
  | own line ls plain ih =>
    rw [joinArms_line plain, List.length_cons, List.length_cons]
    omega
  | header line result ls opens unclosed ih =>
    rw [joinArms_header opens unclosed, List.length_cons, List.length_cons, List.length_cons]
    omega
  | closed line result closing ls opens closes ih =>
    rw [joinArms_block opens closes, List.length_cons, List.length_cons, List.length_cons, List.length_cons]
    omega

/-! ### Lines that are appended and lines that are left out -/

/-- Whether the line below some lines is appended to the last of them: that one is a header, and is not appended
itself. -/
def appends (above : List Text) : Bool := above.foldl (fun appended line => opensBlock line && !appended) false

/-- Whether a line below some lines is left out: it is a closing brace, and the last of them is appended. -/
def leavesOut (above : List Text) (line : Text) : Bool :=
  isClosingBrace line && (!above.isEmpty && appends above.dropLast)

/-- The lines below some lines without those that are left out. -/
def keptBelow : (above ls : List Text) → List Text
  | _, [] => []
  | above, line :: ls =>
    if leavesOut above line then keptBelow (above ++ [line]) ls else line :: keptBelow (above ++ [line]) ls

theorem appends_concat (above : List Text) (line : Text) :
    appends (above ++ [line]) = (opensBlock line && !appends above) := by
  rw [appends, List.foldl_append]
  rfl

theorem leavesOut_concat (above : List Text) (result line : Text) :
    leavesOut (above ++ [result]) line = (isClosingBrace line && appends above) := by
  have filled : (above ++ [result]).isEmpty = false := List.isEmpty_eq_false_iff.mpr (by simp)
  rw [leavesOut, List.dropLast_concat, filled, Bool.not_false, Bool.true_and]

theorem keptBelow_of_kept {above : List Text} {line : Text} (kept : leavesOut above line = false) (ls : List Text) :
    keptBelow above (line :: ls) = line :: keptBelow (above ++ [line]) ls := by
  rw [keptBelow, kept]
  rfl

theorem keptBelow_of_leftOut {above : List Text} {line : Text} (left : leavesOut above line = true) (ls : List Text) :
    keptBelow above (line :: ls) = keptBelow (above ++ [line]) ls := by
  rw [keptBelow, left]
  rfl

theorem keptBelow_sublist (above ls : List Text) : List.Sublist (keptBelow above ls) ls := by
  induction ls generalizing above with
  | nil => exact .slnil
  | cons line ls ih =>
    rw [keptBelow]
    split
    · exact (ih _).cons line
    · exact (ih _).cons_cons line

/-- A place between lines that belong to different arms. -/
structure IsBetween (above ls : List Text) : Prop where
  below : appends above = false
  kept : ∀ line ∈ ls.head?, leavesOut above line = false

namespace IsBetween

variable {above ls : List Text} {line result closing : Text}

theorem of_line (below : appends above = false) (kept : leavesOut above line = false) :
    IsBetween above (line :: ls) := by
  refine ⟨below, fun next first => ?_⟩
  cases first
  exact kept

theorem start (ls : List Text) : IsBetween [] ls := ⟨rfl, fun line _ => by simp [leavesOut]⟩

theorem keptBelow_header (between : IsBetween above (line :: result :: ls)) :
    keptBelow above (line :: result :: ls) = line :: result :: keptBelow (above ++ [line] ++ [result]) ls := by
  have kept : leavesOut (above ++ [line]) result = false := by
    rw [leavesOut_concat, between.below, Bool.and_false]
  rw [keptBelow_of_kept (between.kept line rfl), keptBelow_of_kept kept]

/-- Behind a line that is no header. -/
theorem own (between : IsBetween above (line :: ls)) (plain : opensBlock line = false) :
    IsBetween (above ++ [line]) ls := by
  refine ⟨?_, fun next _ => ?_⟩
  · rw [appends_concat, plain, Bool.false_and]
  · rw [leavesOut_concat, between.below, Bool.and_false]

variable (between : IsBetween above (line :: result :: ls)) (opens : opensBlock line = true)

include between opens

theorem appends_header : appends (above ++ [line]) = true := by
  rw [appends_concat, opens, between.below]
  rfl

theorem appends_result : appends (above ++ [line] ++ [result]) = false := by
  rw [appends_concat, between.appends_header opens]
  exact Bool.and_false _

theorem leavesOut_behind (next : Text) : leavesOut (above ++ [line] ++ [result]) next = isClosingBrace next := by
  rw [leavesOut_concat, between.appends_header opens, Bool.and_true]

/-- Behind a header and the line appended to it, where no closing brace follows. -/
theorem header (unclosed : ∀ next ∈ ls.head?, isClosingBrace next = false) :
    IsBetween (above ++ [line] ++ [result]) ls := by
  refine ⟨between.appends_result opens, fun next first => ?_⟩
  rw [between.leavesOut_behind opens, unclosed next first]

/-- Behind a header, the line appended to it and a closing brace. -/
theorem closed (closes : isClosingBrace closing = true) (rest : List Text) :
    IsBetween (above ++ [line] ++ [result] ++ [closing]) rest := by
  refine ⟨?_, fun next _ => ?_⟩
  · rw [appends_concat, opensBlock_of_closes closes, Bool.false_and]
  · rw [leavesOut_concat, between.appends_result opens, Bool.and_false]

end IsBetween

theorem withoutBlanks_joined (line result : Text) :
    withoutBlanks (line ++ ' ' :: Text.trim result) = withoutBlanks line ++ withoutBlanks result := by
  rw [withoutBlanks_append, ← withoutBlanks_trim result]
  rfl

/-- The text of the arms is the text of the lines that are not left out. -/
theorem flatMap_joinArms {above ls : List Text} (between : IsBetween above ls) :
    (joinArms ls).flatMap withoutBlanks = (keptBelow above ls).flatMap withoutBlanks := by
  -- The place moves down by one arm at a time and stays between arms.
  induction ls using armInduction generalizing above with
  | nil => rfl
  | last line opens =>
    rw [keptBelow_of_kept (between.kept line rfl)]
    rfl
  | own line ls plain ih =>
    rw [joinArms_line plain, keptBelow_of_kept (between.kept line rfl), List.flatMap_cons, List.flatMap_cons,
      ih (between.own plain)]
  | header line result ls opens unclosed ih =>
    rw [joinArms_header opens unclosed, between.keptBelow_header, List.flatMap_cons, List.flatMap_cons,
      List.flatMap_cons, withoutBlanks_joined, List.append_assoc, ih (between.header opens unclosed)]
  | closed line result closing ls opens closes ih =>
    have left : leavesOut (above ++ [line] ++ [result]) closing = true := by
      rw [between.leavesOut_behind opens, closes]
    rw [joinArms_block opens closes, between.keptBelow_header, keptBelow_of_leftOut left, List.flatMap_cons,
      List.flatMap_cons, List.flatMap_cons, withoutBlanks_joined, List.append_assoc,
      ih (between.closed opens closes ls)]

/-- Lines on either side of a place between arms are joined apart from each other. -/
theorem joinArms_append {above before behind : List Text} (between : IsBetween above (before ++ behind))
    (between' : IsBetween (above ++ before) behind) :
    joinArms (before ++ behind) = joinArms before ++ joinArms behind := by
  induction before using armInduction generalizing above with
  | nil => rfl
  | last line opens =>
    -- A header takes the line behind it, so the other side does not begin between arms.
    have below := between'.below
    rw [appends_concat, opens, between.below] at below
    cases below
  | own line ls plain ih =>
    rw [List.append_cons] at between'
    rw [List.cons_append, joinArms_line plain, joinArms_line plain, ih (between.own plain) between', List.cons_append]
  | header line result ls opens unclosed ih =>
    rw [List.append_cons, List.append_cons] at between'
    have unclosed' : ∀ next ∈ (ls ++ behind).head?, isClosingBrace next = false := by
      cases ls with
      | nil =>
        -- The next line is the first one on the other side, where a brace would be left out.
        intro next first
        have kept := between'.kept next first
        rwa [List.append_nil, between.leavesOut_behind opens] at kept
      | cons other ls => exact unclosed
    have later := ih (between.header opens unclosed') between'
    refine (joinArms_header opens unclosed' result).trans ?_
    rw [later, joinArms_header opens unclosed, List.cons_append]
  | closed line result closing ls opens closes ih =>
    rw [List.append_cons, List.append_cons, List.append_cons] at between'
    have later := ih (between.closed opens closes _) between'
    refine (joinArms_block opens closes result (ls ++ behind)).trans ?_
    rw [later, joinArms_block opens closes, List.cons_append]

/-! ### What joining keeps -/

/-- A line that is left out is a closing brace below a header and the line appended to it. -/
theorem eq_append_of_leavesOut {above : List Text} {line : Text} (left : leavesOut above line = true) :
    ∃ front header result, above = front ++ [header, result] ∧ IsHeader header ∧ appends front = false := by
  rcases List.eq_nil_or_concat above with rfl | ⟨front, result, rfl⟩
  · simp [leavesOut] at left
  · rw [List.concat_eq_append, leavesOut_concat, Bool.and_eq_true] at left
    rcases List.eq_nil_or_concat front with rfl | ⟨front, header, rfl⟩
    · cases left.2
    · rw [List.concat_eq_append, appends_concat, Bool.and_eq_true, Bool.not_eq_true'] at left
      exact ⟨front, header, result, by simp, opensBlock_iff.mp left.2.1, left.2.2⟩

theorem leavesOut_header {header : Text} (opens : opensBlock header = true) (above : List Text) :
    leavesOut above header = false := by
  have unclosed : isClosingBrace header = false := by
    cases closes : isClosingBrace header with
    | false => rfl
    | true =>
      rw [opensBlock_of_closes closes] at opens
      cases opens
  rw [leavesOut, unclosed, Bool.false_and]

/-- The lines are joined into no more lines than they are, and, blanks aside, into the text of all of them in order
but for the lines that are left out. Such a line is a closing brace, with at most a comma behind it, below a header and
the line appended to it. A line that is no header, is not appended to one and is not left out is a line of its own,
between what is joined of the lines above it and of those below it, and so is a header with the line appended to it. -/
theorem joinArms_conserves (ls : List Text) :
    (joinArms ls).length ≤ ls.length ∧
    (joinArms ls).flatMap withoutBlanks = (keptBelow [] ls).flatMap withoutBlanks ∧
    List.Sublist (keptBelow [] ls) ls ∧
    (∀ above line below, ls = above ++ line :: below → leavesOut above line = true →
      (withoutBlanks line = ['}'] ∨ withoutBlanks line = ['}', ',']) ∧
        ∃ front header result, above = front ++ [header, result] ∧ IsHeader header ∧ appends front = false) ∧
    (∀ above line below, ls = above ++ line :: below → ¬ IsHeader line → appends above = false →
      leavesOut above line = false → joinArms ls = joinArms above ++ line :: joinArms below) ∧
    ∀ above header result below, ls = above ++ header :: result :: below → IsHeader header → appends above = false →
      ∃ rest, (below = rest ∨ ∃ closing, isClosingBrace closing = true ∧ below = closing :: rest) ∧
        joinArms ls = joinArms above ++ (header ++ ' ' :: Text.trim result) :: joinArms rest := by
  refine ⟨length_joinArms_le ls, flatMap_joinArms (.start ls), keptBelow_sublist [] ls, ?_, ?_, ?_⟩
  · rintro above line below - left
    refine ⟨isClosingBrace_iff.mp ?_, eq_append_of_leavesOut left⟩
    rw [leavesOut, Bool.and_eq_true] at left
    exact left.1
  · rintro above line below rfl plain below' kept
    rw [joinArms_append (.start _) (.of_line below' kept), joinArms_line]
    rwa [← Bool.not_eq_true, opensBlock_iff]
  · rintro above header result below rfl isHeader below'
    have opens := opensBlock_iff.mpr isHeader
    rw [joinArms_append (.start _) (.of_line below' (leavesOut_header opens above))]
    cases below with
    | nil =>
      have none : ∀ next ∈ ([] : List Text).head?, isClosingBrace next = false := nofun
      exact ⟨[], .inl rfl, by rw [joinArms_header opens none]⟩
    | cons next rest =>
      cases closes : isClosingBrace next with
      | true => exact ⟨rest, .inr ⟨next, closes, rfl⟩, by rw [joinArms_block opens closes]⟩
      | false =>
        refine ⟨next :: rest, .inl rfl, ?_⟩
        rw [joinArms_header opens]
        intro other first
        cases first
        exact closes

/-- The lines of three arms, of which the last one is cut off. -/
def doorLines : List Text :=
  ["(Open, Close) => \x7b", "    Shut", "\x7d,", "(Shut, Open) => Open,", "(Open, Lock) => \x7b"]

theorem joinArms_conserves_door :
    leavesOut (doorLines.take 2) "\x7d," = true ∧ ¬ IsHeader "(Shut, Open) => Open," ∧
      appends (doorLines.take 3) = false ∧ leavesOut (doorLines.take 3) "(Shut, Open) => Open," = false ∧
      (∃ front header result, doorLines.take 2 = front ++ [header, result] ∧ IsHeader header ∧ appends front = false) ∧
      joinArms doorLines =
        joinArms (doorLines.take 3) ++ "(Shut, Open) => Open,".toList :: joinArms (doorLines.drop 4) := by
  have left : leavesOut (doorLines.take 2) "\x7d," = true := by decide +kernel
  have plain : ¬ IsHeader "(Shut, Open) => Open," := by
    rw [← opensBlock_iff]
    decide +kernel
  have below : appends (doorLines.take 3) = false := by decide +kernel
  have kept : leavesOut (doorLines.take 3) "(Shut, Open) => Open," = false := by decide +kernel
  obtain ⟨-, -, -, braces, own, -⟩ := joinArms_conserves doorLines
  exact ⟨left, plain, below, kept, (braces _ _ (doorLines.drop 3) rfl left).2, own _ _ _ rfl plain below kept⟩

end ReferencePages.Transition
