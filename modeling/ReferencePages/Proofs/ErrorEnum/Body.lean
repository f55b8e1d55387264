import ReferencePages.ErrorEnum
import ReferencePages.Proofs.Text.Phrase
import Mathlib.Data.List.Nodup
/-!
Where the bodies of enumerations lie. A scan keeps count of braces line by line; what it takes for a body is
told from the lines alone: it is the shortest run of lines from a declaration on in which a brace is opened and
all are closed again. The lines are those before the first boundary.
-/

namespace ReferencePages.ErrorEnum

open Text (IsGap Keywords)

/-! ### Declarations -/

/-- Nothing, or anything in parentheses. -/
def IsScope (s : Text) : Prop := s = [] ∨ ∃ inner, ')' ∉ inner ∧ s = '(' :: (inner ++ [')'])

/-- A line declares a public enumeration from its first column on, with or without a scope. -/
def Declares (line : Text) : Prop :=
  ∃ scope gap next c name, IsScope scope ∧ IsGap gap ∧ Keywords ["enum"] next (c :: name) ∧
    Text.isNameStart c = true ∧ line = "pub" ++ (scope ++ (gap ++ next))

theorem afterScope?_eq_some {s rest : Text} :
    afterScope? s = some rest ↔ ∃ inner, ')' ∉ inner ∧ s = '(' :: (inner ++ ')' :: rest) := by
  constructor
  · intro read
    obtain ⟨behind, opened, closed⟩ := Option.bind_eq_some_iff.mp read
    obtain rfl := Text.after?_eq_some.mp opened
    split at closed
    · rename_i inner d left spanned
      obtain ⟨absent, rfl, rfl⟩ := Text.span_ne_eq_cons.mp spanned
      cases closed
      exact ⟨inner, absent, rfl⟩
    · cases closed
  · rintro ⟨inner, absent, rfl⟩
    have opened : Text.after? "(" ('(' :: (inner ++ ')' :: rest)) = some (inner ++ ')' :: rest) := rfl
    rw [afterScope?, opened]
    dsimp only [bind, Option.bind]
    rw [Text.span_ne_eq_cons.mpr ⟨absent, rfl, rfl⟩]

/-- A scope is skipped if there is one, and no gap begins with a parenthesis. -/
theorem afterScope?_getD {s next : Text} :
    Text.afterBlanks? ((afterScope? s).getD s) = some next ↔
      ∃ scope gap, IsScope scope ∧ IsGap gap ∧ s = scope ++ (gap ++ next) ∧ Text.IsFilled next := by
  constructor
  · intro read
    obtain ⟨gap, blank, split, filled⟩ := Text.afterBlanks?_eq_some.mp read
    cases skipped : afterScope? s with
    | none =>
      rw [skipped] at split
      exact ⟨[], gap, .inl rfl, blank, split, filled⟩
    | some rest =>
      rw [skipped] at split
      obtain ⟨inner, absent, rfl⟩ := afterScope?_eq_some.mp skipped
      refine ⟨'(' :: (inner ++ [')']), gap, .inr ⟨inner, absent, rfl⟩, blank, ?_, filled⟩
      rw [← split, List.cons_append, List.append_assoc, List.singleton_append]
      rfl
  · rintro ⟨scope, gap, rfl | ⟨inner, absent, rfl⟩, blank, rfl, filled⟩
    · have unwithin : afterScope? (gap ++ next) = none := by
        obtain ⟨filled', blank'⟩ := blank
        cases gap with
        | nil => exact absurd rfl filled'
        | cons c gap =>
          refine Option.eq_none_iff_forall_ne_some.mpr fun rest found => ?_
          obtain ⟨_, _, split⟩ := afterScope?_eq_some.mp found
          rw [List.cons_append] at split
          have parenthesis := blank' c (List.mem_cons_self ..)
          rw [(List.cons.inj split).1] at parenthesis
          exact absurd parenthesis (by decide)
      rw [List.nil_append, unwithin]
      exact Text.afterBlanks?_eq_some.mpr ⟨gap, blank, rfl, filled⟩
    · have skipped : afterScope? ('(' :: (inner ++ [')']) ++ (gap ++ next)) = some (gap ++ next) :=
        afterScope?_eq_some.mpr ⟨inner, absent, by simp⟩
      rw [skipped]
      exact Text.afterBlanks?_eq_some.mpr ⟨gap, blank, rfl, filled⟩

theorem declared?_isSome {line : Text} : (declared? line).isSome = true ↔ Declares line := by
  have named (s : Text) : (∃ found, Text.name? s = some found) ↔
      ∃ c name, s = c :: name ∧ Text.isNameStart c = true := by
    cases s with
    | nil => simp [Text.name?]
    | cons c s => simp [Text.name?]
  simp only [Option.isSome_iff_exists, declared?, bind, Option.bind_eq_some_iff, Text.after?_eq_some,
    afterScope?_getD, Text.afterKeywords?_eq_some, pure, Option.some.injEq]
  constructor
  · rintro ⟨_, _, rfl, next, ⟨scope, gap, within, blank, rfl, _⟩, rest, words, found, read, _⟩
    obtain ⟨c, name, rfl, start⟩ := (named rest).mp ⟨found, read⟩
    exact ⟨scope, gap, next, c, name, within, blank, words, start, rfl⟩
  · rintro ⟨scope, gap, next, c, name, within, blank, words, start, rfl⟩
    obtain ⟨found, read⟩ := (named (c :: name)).mpr ⟨c, name, rfl, start⟩
    have filled : Text.IsFilled next := by
      obtain ⟨_, _, _, _, rfl, _⟩ := words
      intro d first
      cases first
      rfl
    exact ⟨found.1, _, rfl, next, ⟨scope, gap, within, blank, rfl, filled⟩, _, words, found, read, rfl⟩

theorem docComment?_of_declared {line name : Text} (declared : declared? line = some name) :
    docComment? line = none := by
  obtain ⟨s, first, _⟩ := Option.bind_eq_some_iff.mp declared
  obtain rfl := Text.after?_eq_some.mp first
  rfl

/-! ### Braces -/

/-- Some line opens a brace, and the lines open no more braces than they close. -/
def IsBalanced (ls : List Text) : Prop :=
  (∃ line ∈ ls, '{' ∈ line) ∧ ls.flatten.count '{' ≤ ls.flatten.count '}'

theorem not_isBalanced_nil : ¬ IsBalanced [] := by
  rintro ⟨⟨_, member, _⟩, _⟩
  cases member

/-- What an unfinished enumeration knows of its lines. -/
structure Tracks (e : Unfinished) (ls : List Text) : Prop where
  lines : e.firstLine :: e.body = ls
  depth : e.depth = (ls.flatten.count '{' : Int) - (ls.flatten.count '}' : Int)
  opened : e.opened = true ↔ ∃ line ∈ ls, '{' ∈ line

namespace Tracks

variable {e : Unfinished} {ls : List Text}

theorem start (name : Text) (docs : List Text) (line : Text) :
    Tracks (Unfinished.start name docs line) [line] where
  lines := rfl
  depth := by simp [Unfinished.start, braceBalance]
  opened := by simp [Unfinished.start]

theorem add (tracks : Tracks e ls) (line : Text) : Tracks (e.add line) (ls ++ [line]) where
  lines := by rw [← tracks.lines]; rfl
  depth := by
    simp only [Unfinished.add, tracks.depth, braceBalance, List.flatten_append, List.flatten_singleton,
      List.count_append]
    omega
  opened := by
    simp only [Unfinished.add, Bool.or_eq_true, tracks.opened, List.elem_iff, List.mem_append,
      List.mem_singleton, or_and_right, exists_or, exists_eq_left]

theorem isClosed_iff (tracks : Tracks e ls) : e.isClosed = true ↔ IsBalanced ls := by
  rw [Unfinished.isClosed, Bool.and_eq_true, tracks.opened, decide_eq_true_iff, tracks.depth, IsBalanced]
  exact and_congr_right fun _ => by omega

theorem body (tracks : Tracks e ls) : e.finish.body = Text.unlines ls :=
  congrArg Text.unlines tracks.lines

end Tracks

/-! ### One body -/

/-- An enumeration takes lines until its braces are balanced, or all there are. -/
theorem ofLines_inside {e : Unfinished} {seen : List Text} (tracks : Tracks e seen)
    (unbalanced : ¬ IsBalanced seen) (ls : List Text) :
    ∃ n ≤ ls.length, ∃ found : ErrorEnum,
      ofLines (.inside e) ls = found :: ofLines (.outside []) (ls.drop n) ∧
      found.body = Text.unlines (seen ++ ls.take n) ∧
      (∀ m < n, ¬ IsBalanced (seen ++ ls.take m)) ∧ (IsBalanced (seen ++ ls.take n) ∨ n = ls.length) := by
  induction ls generalizing e seen with
  | nil =>
    refine ⟨0, Nat.le_refl 0, e.finish, rfl, ?_, fun m before => absurd before (Nat.not_lt_zero m), .inr rfl⟩
    rw [List.take_nil, List.append_nil, tracks.body]
  | cons line ls ih =>
    have tracks' := tracks.add line
    have first {m : Nat} (balanced : IsBalanced (seen ++ (line :: ls).take m)) : 0 < m := by
      refine Nat.pos_of_ne_zero fun zero => unbalanced ?_
      rwa [zero, List.take_zero, List.append_nil] at balanced
    by_cases closed : (e.add line).isClosed = true
    · refine ⟨1, Nat.le_add_left .., (e.add line).finish, ?_, tracks'.body, fun m before balanced => ?_,
        .inl (tracks'.isClosed_iff.mp closed)⟩
      · simp [ofLines, Scan.step, Unfinished.next, closed]
      · exact absurd (first balanced) (by omega)
    · have open' := mt tracks'.isClosed_iff.mpr closed
      obtain ⟨n, atMost, found, rest, body, shortest, ends⟩ := ih tracks' open'
      have shift (m : Nat) : seen ++ (line :: ls).take (m + 1) = seen ++ [line] ++ ls.take m := by
        rw [List.take_succ_cons, List.append_assoc, List.singleton_append]
      refine ⟨n + 1, Nat.succ_le_succ atMost, found, ?_, ?_, fun m before balanced => ?_, ?_⟩
      · rw [List.drop_succ_cons, ← rest]
        simp [ofLines, Scan.step, Unfinished.next, closed]
      · rw [shift, body]
      · obtain ⟨m, rfl⟩ := Nat.exists_eq_succ_of_ne_zero (first balanced).ne'
        exact shortest m (Nat.lt_of_succ_lt_succ before) (shift m ▸ balanced)
      · rw [shift, List.length_cons, Nat.succ_inj]
        exact ends

/-- A declaration is followed by the shortest run that balances its braces. -/
theorem ofLines_declared {line name : Text} (declared : declared? line = some name) (docs ls : List Text) :
    ∃ n ≤ ls.length, ∃ found : ErrorEnum,
      ofLines (.outside docs) (line :: ls) = found :: ofLines (.outside []) (ls.drop n) ∧
      found.body = Text.unlines (line :: ls.take n) ∧
      (∀ m < n, ¬ IsBalanced (line :: ls.take m)) ∧ (IsBalanced (line :: ls.take n) ∨ n = ls.length) := by
  have tracks := Tracks.start name docs line
  have step : Scan.step (.outside docs) line = (Unfinished.start name docs line).next := by
    rw [Scan.step, docComment?_of_declared declared, declared]
  by_cases closed : (Unfinished.start name docs line).isClosed = true
  · refine ⟨0, Nat.zero_le _, (Unfinished.start name docs line).finish, ?_, ?_,
      fun m before => absurd before (Nat.not_lt_zero m), .inl (tracks.isClosed_iff.mp closed)⟩
    · simp [ofLines, step, Unfinished.next, closed]
    · exact tracks.body
  · obtain ⟨n, atMost, found, rest, captured⟩ := ofLines_inside tracks (mt tracks.isClosed_iff.mpr closed) ls
    refine ⟨n, atMost, found, ?_, captured⟩
    rw [← rest]
    simp [ofLines, step, Unfinished.next, closed]

/-! ### All bodies -/

/-- Some lines that follow each other: the place of the first, and how many there are. -/
structure Run where
  start : Nat
  length : Nat

namespace Run

/-- The first place behind a run. -/
def stop (run : Run) : Nat := run.start + run.length

/-- The lines of a run. -/
def lines (run : Run) (ls : List Text) : List Text := (ls.drop run.start).take run.length

/-- One run ends before another begins. -/
def Precedes (run next : Run) : Prop := run.stop ≤ next.start

/-- A run begins with a declaration, is balanced or goes on to the end, and is not balanced any earlier. -/
structure IsBody (run : Run) (ls : List Text) : Prop where
  declares : ∃ line, ls[run.start]? = some line ∧ Declares line
  within : run.stop ≤ ls.length
  shortest : ∀ n < run.length, ¬ IsBalanced ((ls.drop run.start).take n)
  ends : IsBalanced (run.lines ls) ∨ run.stop = ls.length

theorem IsBody.length_pos {run : Run} {ls : List Text} (isBody : run.IsBody ls) : 0 < run.length := by
  refine Nat.pos_of_ne_zero fun zero => ?_
  rcases isBody.ends with balanced | last
  · rw [lines, zero, List.take_zero] at balanced
    exact not_isBalanced_nil balanced
  · obtain ⟨line, there, _⟩ := isBody.declares
    have before := (List.getElem?_eq_some_iff.mp there).1
    rw [stop, zero, Nat.add_zero] at last
    exact absurd before (by omega)

end Run

/-- From any place on between declarations, the runs that are taken for bodies. They leave no declaration
out. -/
theorem ofLines_outside (ls docs : List Text) (start : Nat) :
    ∃ runs : List Run,
      (ofLines (.outside docs) (ls.drop start)).map ErrorEnum.body =
        runs.map (fun run => Text.unlines (run.lines ls)) ∧
      runs.Pairwise Run.Precedes ∧ (∀ run ∈ runs, start ≤ run.start ∧ run.IsBody ls) ∧
      ∀ i line, start ≤ i → ls[i]? = some line → Declares line →
        ∃ run ∈ runs, run.start ≤ i ∧ i < run.stop := by
  induction left : ls.length - start using Nat.strong_induction_on generalizing start docs with
  | _ left' ih =>
  rcases Nat.lt_or_ge start ls.length with before | behind
  · have split := List.drop_eq_getElem_cons before
    have here : ls[start]? = some ls[start] := List.getElem?_eq_getElem before
    cases declared : declared? ls[start] with
    | none =>
      have step : ∃ docs', Scan.step (.outside docs) ls[start] = (.outside docs', none) := by
        unfold Scan.step
        rw [declared]
        cases docComment? ls[start] <;> exact ⟨_, rfl⟩
      obtain ⟨docs', step⟩ := step
      obtain ⟨runs, bodies, apart, each, every⟩ := ih (ls.length - (start + 1)) (by omega) docs' (start + 1) rfl
      refine ⟨runs, ?_, apart, fun run member => ?_, fun i line from' there declares => ?_⟩
      · rw [split, ofLines, step]
        exact bodies
      · obtain ⟨later, isBody⟩ := each run member
        exact ⟨Nat.le_of_succ_le later, isBody⟩
      · rcases Nat.eq_or_lt_of_le from' with rfl | later
        · obtain rfl := Option.some.inj (here.symm.trans there)
          rw [← declared?_isSome, declared] at declares
          cases declares
        · exact every i line later there declares
    | some name =>
      obtain ⟨n, atMost, found, rest, body, shortest, ends⟩ :=
        ofLines_declared declared docs (ls.drop (start + 1))
      obtain ⟨runs, bodies, apart, each, every⟩ :=
        ih (ls.length - (start + 1 + n)) (by omega) [] (start + 1 + n) rfl
      have next : start + (n + 1) = start + 1 + n := by omega
      have lines (m : Nat) : (ls.drop start).take (m + 1) = ls[start] :: (ls.drop (start + 1)).take m := by
        rw [split, List.take_succ_cons]
      rw [List.length_drop] at atMost ends
      refine ⟨⟨start, n + 1⟩ :: runs, ?_, ?_, fun run member => ?_, fun i line from' there declares => ?_⟩
      · rw [split, rest, List.map_cons, List.map_cons, body, List.drop_drop, bodies, Run.lines, lines]
      · refine List.pairwise_cons.mpr ⟨fun run member => ?_, apart⟩
        rw [Run.Precedes, Run.stop, next]
        exact (each run member).1
      · rcases List.mem_cons.mp member with rfl | later
        · refine ⟨Nat.le_refl _, ⟨_, here, declared?_isSome.mp (by rw [declared]; rfl)⟩, ?_, ?_, ?_⟩
          · dsimp only [Run.stop]
            omega
          · intro m shorter balanced
            cases m with
            | zero => exact not_isBalanced_nil balanced
            | succ m => exact shortest m (Nat.lt_of_succ_lt_succ shorter) (lines m ▸ balanced)
          · dsimp only [Run.lines, Run.stop]
            rw [lines]
            exact ends.imp_right fun last => by omega
        · obtain ⟨from', isBody⟩ := each run later
          exact ⟨by omega, isBody⟩
      · rcases Nat.lt_or_ge i (start + 1 + n) with inside | later
        · exact ⟨⟨start, n + 1⟩, List.mem_cons_self .., from', by dsimp only [Run.stop]; omega⟩
        · obtain ⟨run, member, covered⟩ := every i line later there declares
          exact ⟨run, List.mem_cons_of_mem _ member, covered⟩
  · rw [List.drop_eq_nil_of_le behind]
    refine ⟨[], rfl, .nil, nofun, fun i line from' there => ?_⟩
    have within := (List.getElem?_eq_some_iff.mp there).1
    omega

/-- Of runs that follow each other only one begins in a place. -/
theorem Run.eq_of_start {runs : List Run} (apart : runs.Pairwise Run.Precedes)
    (filled : ∀ run ∈ runs, 0 < run.length) {a b : Run} (member : a ∈ runs) (member' : b ∈ runs)
    (same : a.start = b.start) : a = b := by
  have distinct : (runs.map Run.start).Nodup := by
    rw [List.Nodup, List.pairwise_map]
    refine apart.imp_of_mem fun {first next} inside _ precedes same => ?_
    have length := filled first inside
    rw [Run.Precedes, Run.stop] at precedes
    omega
  exact List.inj_on_of_nodup_map distinct member member' same

/-- The lines of a text before its first boundary line, and the rest. Without a boundary there is no such
line. -/
structure UpTo (boundary : Text) (ls before rest : List Text) : Prop where
  whole : ls = before ++ rest
  free : boundary ≠ [] → ∀ line ∈ before, ¬ boundary <+: line
  stops : ∀ line ∈ rest.head?, boundary ≠ [] ∧ boundary <+: line

theorem upTo_beforeBoundary (boundary : Text) (ls : List Text) :
    ∃ rest, UpTo boundary ls (beforeBoundary boundary ls) rest := by
  by_cases none : boundary = []
  · refine ⟨[], ?_, fun some => absurd none some, nofun⟩
    rw [beforeBoundary, none, List.append_nil]
    rfl
  · have kept : boundary.isEmpty = false := List.isEmpty_eq_false_iff.mpr none
    refine ⟨ls.dropWhile fun line => !Text.startsWith boundary line, ?_, fun _ line member => ?_,
      fun line first => ⟨none, ?_⟩⟩
    · rw [beforeBoundary, kept, if_neg Bool.false_ne_true, List.takeWhile_append_dropWhile]
    · rw [beforeBoundary, kept, if_neg Bool.false_ne_true] at member
      have free := List.mem_takeWhile_imp member
      rwa [Bool.not_eq_true', ← Bool.not_eq_true, Text.startsWith_iff] at free
    · have stops := List.head?_dropWhile_not (fun line => !Text.startsWith boundary line) ls
      rw [Option.mem_def.mp first] at stops
      simpa [Text.startsWith_iff] using stops

/-- The bodies of a text are runs of its lines before the boundary, one behind the other. Each goes from a
declaration to the first line that balances its braces, and every declaration begins one or is within one. -/
theorem extract_bodies (boundary text : Text) :
    ∃ before rest, UpTo boundary (Text.lines text) before rest ∧ ∃ runs : List Run,
      (extract boundary text).map ErrorEnum.body = runs.map (fun run => Text.unlines (run.lines before)) ∧
      runs.Pairwise Run.Precedes ∧ (∀ run ∈ runs, run.IsBody before) ∧
      ∀ i line, before[i]? = some line → Declares line →
        (∃! run, run ∈ runs ∧ run.start = i) ∨ ∃ run ∈ runs, run.start < i ∧ i < run.stop := by
  obtain ⟨rest, upTo⟩ := upTo_beforeBoundary boundary (Text.lines text)
  obtain ⟨runs, bodies, apart, each, every⟩ := ofLines_outside (beforeBoundary boundary (Text.lines text)) [] 0
  refine ⟨_, rest, upTo, runs, bodies, apart, fun run member => (each run member).2,
    fun i line there declares => ?_⟩
  obtain ⟨run, member, from', before⟩ := every i line (Nat.zero_le i) there declares
  rcases Nat.eq_or_lt_of_le from' with same | within
  · refine .inl ⟨run, ⟨member, same⟩, fun other ⟨member', same'⟩ => ?_⟩
    exact Run.eq_of_start apart (fun run member => (each run member).2.length_pos) member' member
      (same'.trans same.symm)
  · exact .inr ⟨run, member, within, before⟩

end ReferencePages.ErrorEnum
