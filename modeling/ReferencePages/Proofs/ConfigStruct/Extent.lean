import ReferencePages.Proofs.ConfigStruct.Written
/-!
How far a structure reaches. Once it is declared, its fields are counted up to a line that begins with the closing
brace or declares the next structure, whatever its other lines open and close. So what stands behind such a line says
nothing about it, and what stands behind a brace in any other place still may.
-/

namespace ReferencePages.ConfigStruct

/-- Whether a line begins to declare a structure. -/
def declares (line : Text) : Bool := (declared? line).isSome

/-- Whether a line ends the structure above it. -/
def endsStruct (line : Text) : Bool := declares line || Text.startsWith "\x7d" line

/-- The public fields of a structure with these lines below its declaration. -/
def ownFields (ls : List Text) : Nat := (ls.takeWhile (!endsStruct ·)).countP isPublicField

/-! ### One line -/

theorem trimStart_of_declared {line name : Text} (declared : declared? line = some name) :
    ∃ rest, Text.trimStart line = 'p' :: rest := by
  cases line with
  | nil => cases declared
  | cons c s =>
    by_cases first : c = 'p'
    · subst first
      exact ⟨s, Text.trimStart_cons s (by decide)⟩
    · have other : declared? (c :: s) = none := by
        refine declared?_eq_none fun d head => ?_
        cases head
        exact first
      rw [other] at declared
      cases declared

theorem docComment?_of_declared {line name : Text} (declared : declared? line = some name) :
    docComment? line = none := by
  obtain ⟨rest, visible⟩ := trimStart_of_declared declared
  refine docComment?_eq_none fun c head => ?_
  rw [visible] at head
  cases head
  decide

/-- A brace at the start of a line is no comment, declares nothing and is no field. -/
theorem of_closes {line : Text} (closes : Text.startsWith "\x7d" line = true) :
    docComment? line = none ∧ declared? line = none ∧ isPublicField line = false := by
  obtain ⟨rest, rfl⟩ := Text.startsWith_iff.mp closes
  have visible : Text.trimStart (("\x7d" : Text) ++ rest) = '\x7d' :: rest := Text.trimStart_cons rest (by decide)
  refine ⟨docComment?_eq_none fun c head => ?_, declared?_eq_none fun c head => ?_,
    isPublicField_eq_false fun c head => ?_⟩
  · rw [visible] at head
    cases head
    decide
  · cases head
    decide
  · rw [visible] at head
    cases head
    decide

theorem isPublicField_of_docComment {line doc : Text} (comment : docComment? line = some doc) :
    isPublicField line = false := by
  obtain ⟨rest, opened, _⟩ := Option.map_eq_some_iff.mp comment
  have visible := Text.after?_eq_some.mp opened
  refine isPublicField_eq_false fun c head => ?_
  rw [visible] at head
  cases head
  decide

/-- A structure with one more field if a line declares one. -/
def counted (s : ConfigStruct) (line : Text) : ConfigStruct :=
  { s with fieldCount := s.fieldCount + if isPublicField line then 1 else 0 }

/-- A line that ends nothing is counted. -/
theorem step_passed {line : Text} (passed : endsStruct line = false) (scan : Scan) :
    ∃ docs, scan.step line = ({ docs, unfinished := scan.unfinished.map (counted · line) }, []) := by
  rw [endsStruct, Bool.or_eq_false_iff, declares, Option.isSome_eq_false_iff, Option.isNone_iff_eq_none] at passed
  obtain ⟨undeclared, unclosed⟩ := passed
  obtain ⟨docs, unfinished⟩ := scan
  cases comment : docComment? line with
  | some doc =>
    have same (s : ConfigStruct) : counted s line = s := by
      simp [counted, isPublicField_of_docComment comment]
    refine ⟨docs ++ [doc], ?_⟩
    cases unfinished <;> simp [Scan.step, comment, same]
  | none =>
    refine ⟨if Text.isAllBlank line || isAttributeLine line then docs else [], ?_⟩
    unfold Scan.step
    rw [comment, undeclared]
    cases unfinished with
    | none => rfl
    | some s =>
      dsimp only
      rw [unclosed, Option.map_some, counted]
      cases isPublicField line <;> rfl

/-- A structure is reported as it is at the line that ends it. -/
theorem step_ends {line : Text} (ends : endsStruct line = true) (docs : List Text) (s : ConfigStruct) :
    ∃ next later, Scan.step { docs, unfinished := some s } line = (next, s :: later) := by
  cases declared : declared? line with
  | some name =>
    unfold Scan.step
    rw [docComment?_of_declared declared, declared]
    dsimp only
    split
    · exact ⟨_, _, rfl⟩
    · exact ⟨_, _, rfl⟩
  | none =>
    have closes : Text.startsWith "\x7d" line = true := by
      rw [endsStruct, declares, declared] at ends
      exact ends
    obtain ⟨comment, _, hidden⟩ := of_closes closes
    unfold Scan.step
    rw [comment, declared]
    dsimp only
    rw [hidden, closes]
    exact ⟨_, [], rfl⟩

/-! ### All lines -/

theorem ownFields_cons (line : Text) (ls : List Text) :
    ownFields (line :: ls) =
      if endsStruct line then 0 else (if isPublicField line then 1 else 0) + ownFields ls := by
  rw [ownFields, List.takeWhile_cons]
  cases endsStruct line with
  | true => rfl
  | false =>
    simp only [Bool.not_false, if_true, List.countP_cons, ownFields, Bool.false_eq_true, if_false]
    omega

/-- Lines behind one that ends the structure are not its own. -/
theorem ownFields_append {ls : List Text} (ends : ∃ line ∈ ls, endsStruct line = true) (behind : List Text) :
    ownFields (ls ++ behind) = ownFields ls := by
  induction ls with
  | nil => simp at ends
  | cons line ls ih =>
    rw [List.cons_append, ownFields_cons, ownFields_cons]
    cases last : endsStruct line with
    | true => rfl
    | false =>
      have later : ∃ line ∈ ls, endsStruct line = true := by
        simpa [last] using ends
      rw [ih later]

theorem ofLines_unfinished (docs : List Text) (s : ConfigStruct) (ls : List Text) :
    ∃ later, ofLines { docs, unfinished := some s } ls =
      { s with fieldCount := s.fieldCount + ownFields ls } :: later := by
  induction ls generalizing docs s with
  | nil => exact ⟨[], rfl⟩
  | cons line ls ih =>
    rw [ownFields_cons]
    cases ends : endsStruct line with
    | true =>
      obtain ⟨next, later, step⟩ := step_ends ends docs s
      exact ⟨_, ofLines_step step ls⟩
    | false =>
      obtain ⟨docs', step⟩ := step_passed ends { docs, unfinished := some s }
      obtain ⟨later, rest⟩ := ih docs' (counted s line)
      refine ⟨later, ?_⟩
      rw [ofLines_step step, Option.map_some, List.nil_append, rest, counted, Nat.add_assoc]
      rfl

/-- The scan after some lines, and the structures that they end. -/
def Scan.run : Scan → List Text → Scan × List ConfigStruct
  | scan, [] => (scan, [])
  | scan, line :: ls =>
    let (next, found) := scan.step line
    let (last, later) := next.run ls
    (last, found ++ later)

theorem ofLines_append (scan : Scan) (ls rest : List Text) :
    ofLines scan (ls ++ rest) = (scan.run ls).2 ++ ofLines (scan.run ls).1 rest := by
  induction ls generalizing scan with
  | nil => rfl
  | cons line ls ih =>
    have step : scan.step line = ((scan.step line).1, (scan.step line).2) := rfl
    rw [List.cons_append, ofLines_step step, ih, Scan.run]
    exact (List.append_assoc ..).symm

/-- Each declaration gives one structure, which has been reported or is unfinished. -/
theorem Scan.length_step (scan : Scan) (line : Text) :
    (scan.step line).2.length + (scan.step line).1.unfinished.toList.length =
      scan.unfinished.toList.length + if declares line then 1 else 0 := by
  cases declared : declared? line with
  | some name =>
    have yes : declares line = true := by rw [declares, declared]; rfl
    rw [Scan.step, docComment?_of_declared declared, declared, yes]
    dsimp only
    split <;> simp
  | none =>
    have no : declares line = false := by rw [declares, declared]; rfl
    rw [no]
    obtain ⟨docs, unfinished⟩ := scan
    cases ends : endsStruct line with
    | false =>
      obtain ⟨docs', step⟩ := step_passed ends { docs, unfinished }
      rw [step]
      cases unfinished <;> rfl
    | true =>
      have closes : Text.startsWith "\x7d" line = true := by
        rwa [endsStruct, no, Bool.false_or] at ends
      cases unfinished with
      | none =>
        rw [Scan.step, (of_closes closes).1, declared]
        rfl
      | some s =>
        rw [Scan.step, (of_closes closes).1, declared]
        dsimp only
        rw [closes]
        rfl

theorem Scan.length_run (scan : Scan) (ls : List Text) :
    (scan.run ls).2.length + (scan.run ls).1.unfinished.toList.length =
      scan.unfinished.toList.length + ls.countP declares := by
  induction ls generalizing scan with
  | nil => simp [Scan.run]
  | cons line ls ih =>
    have here := scan.length_step line
    have later := ih (scan.step line).1
    rw [Scan.run, List.countP_cons]
    simp only [List.length_append]
    omega

/-- The doc comments that wait for a declaration behind some lines. -/
def waiting (ls : List Text) : List Text := (Scan.run { docs := [], unfinished := none } ls).1.docs

/-- What is unfinished in front of a declaration is reported with its line, and then the structure that it declares. -/
theorem ofLines_declares {start name : Text} (declared : declared? start = some name) (docs : List Text)
    (unfinished : Option ConfigStruct) (rest : List Text) :
    ∃ later, ofLines { docs, unfinished } (start :: rest) =
      unfinished.toList ++ { declaration name docs with
        fieldCount := if Text.endsWith ";" (Text.trimEnd start) then 0 else ownFields rest } :: later := by
  cases single : Text.endsWith ";" (Text.trimEnd start) with
  | true =>
    have step : Scan.step { docs, unfinished } start =
        ({ docs := [], unfinished := none }, unfinished.toList ++ [declaration name docs]) := by
      rw [Scan.step, docComment?_of_declared declared, declared]
      dsimp only
      rw [if_pos single]
      rfl
    refine ⟨ofLines { docs := [], unfinished := none } rest, ?_⟩
    rw [ofLines_step step, List.append_assoc]
    rfl
  | false =>
    have step : Scan.step { docs, unfinished } start =
        ({ docs := [], unfinished := some (declaration name docs) }, unfinished.toList) := by
      rw [Scan.step, docComment?_of_declared declared, declared]
      dsimp only
      rw [if_neg (by rw [single]; exact Bool.false_ne_true)]
      rfl
    obtain ⟨later, below⟩ := ofLines_unfinished [] (declaration name docs) rest
    refine ⟨later, ?_⟩
    rw [ofLines_step step, below]
    simp [declaration]

/-- The structure that a line declares, whatever stands around it. -/
theorem extract_declared {text : Text} {before rest : List Text} {start name : Text}
    (split : Text.lines text = before ++ start :: rest) (declared : declared? start = some name) :
    (extract text)[before.countP declares]? = some { declaration name (waiting before) with
      fieldCount := if Text.endsWith ";" (Text.trimEnd start) then 0 else ownFields rest } := by
  have count := Scan.length_run { docs := [], unfinished := none } before
  rw [extract, split, ofLines_append, waiting]
  generalize Scan.run { docs := [], unfinished := none } before = seen at count ⊢
  obtain ⟨⟨docs, unfinished⟩, found⟩ := seen
  obtain ⟨later, reads⟩ := ofLines_declares declared docs unfinished rest
  have place : before.countP declares = (found ++ unfinished.toList).length := by
    rw [List.length_append]
    simpa using count.symm
  rw [reads, ← List.append_assoc, place, List.getElem?_append_right (Nat.le_refl _), Nat.sub_self]
  rfl

/-- A structure has its name, its sentence and its fields from the lines up to one that ends it, and nothing behind
that line changes them. Where the declaration leaves a brace open, the fields are the public ones of these lines. -/
theorem extract_own {before inside : List Text} {start name : Text} (declared : declared? start = some name)
    (ends : Text.endsWith ";" (Text.trimEnd start) = true ∨ ∃ line ∈ inside, endsStruct line = true) :
    ∃ own : ConfigStruct, own.name = name ∧
      own.sentence = firstSentence (Text.joinWith " " ((waiting before).filter (!·.isEmpty))) sentenceLimit ∧
      (Text.endsWith ";" (Text.trimEnd start) = true → own.fieldCount = 0) ∧
      (Text.endsWith ";" (Text.trimEnd start) = false → '{' ∈ start → '}' ∉ start →
        own.fieldCount = ownFields inside) ∧
      ∀ (text : Text) (behind : List Text), Text.lines text = before ++ start :: (inside ++ behind) →
        (extract text)[before.countP declares]? = some own := by
  refine ⟨{ declaration name (waiting before) with
    fieldCount := if Text.endsWith ";" (Text.trimEnd start) then 0 else ownFields inside }, rfl, rfl,
    fun single => if_pos single, fun unended _ _ => by rw [unended]; rfl, fun text behind split => ?_⟩
  rw [extract_declared split declared]
  cases single : Text.endsWith ";" (Text.trimEnd start) with
  | true => rfl
  | false =>
    have closed := ends.resolve_left (by rw [single]; exact Bool.false_ne_true)
    rw [if_neg Bool.false_ne_true, if_neg Bool.false_ne_true, ownFields_append closed]

/-- The lines above a declaration. -/
def poolRemarks : List Text := ["/// Sizes of the pool. Read once.", "#[derive(Debug)]"]

/-- The lines below it, with a brace inside that ends nothing. -/
def poolLines : List Text := ["    pub size: u32,", "    // \x7d", "    pub wait: u32,", "\x7d"]

def poolText : Text :=
  (poolRemarks ++ "pub struct Pool \x7b".toList :: (poolLines ++ ["pub mod other;".toList])).flatMap (· ++ ['\n'])

theorem extract_own_pool :
    declared? "pub struct Pool \x7b" = some "Pool".toList ∧ (∃ line ∈ poolLines, endsStruct line = true) ∧
      (extract poolText)[0]? = some ⟨"Pool", "Sizes of the pool.", 2⟩ := by
  have declared : declared? "pub struct Pool \x7b" = some "Pool".toList := by decide +kernel
  have ends : ∃ line ∈ poolLines, endsStruct line = true := by decide +kernel
  obtain ⟨⟨name, sentence, fields⟩, rfl, rfl, _, counts, reads⟩ :=
    @extract_own poolRemarks _ _ _ declared (.inr ends)
  obtain rfl := counts (by decide +kernel) (by decide) (by decide)
  exact ⟨declared, ends, (reads poolText ["pub mod other;".toList] (by decide +kernel)).trans (by decide +kernel)⟩

/-- A structure of which the last brace is indented. -/
def indentedStruct : List Text := ["pub struct Outer \x7b", "    pub size: u32,", "    \x7d"]

/-- A brace that closes the structure within a line does not keep a line behind it from being counted. -/
theorem indented_brace_runs_on :
    indentedStruct.flatten.count '{' = indentedStruct.flatten.count '}' ∧
      extract (Text.unlines (indentedStruct ++ ["\x7d".toList])) = [⟨"Outer", "", 1⟩] ∧
      extract (Text.unlines (indentedStruct ++ ["    pub extra: u32,".toList, "\x7d".toList])) =
        [⟨"Outer", "", 2⟩] := by
  decide +kernel

end ReferencePages.ConfigStruct
