import ReferencePages.ForeignKey
import ReferencePages.Proofs.Text.Phrase
import Mathlib.Data.List.Basic
/-!
The clauses of a constraints file as they are written: an alteration that names a table, the columns of a key,
and a reference to other columns. What is read of a line is what stands at the first place where such a clause
stands.
-/

namespace ReferencePages.ForeignKey

open Text (Keywords Names Qualifies Encloses Optionally IsGap)

/-- A name with an optional qualifier stands at the start of a text. -/
def NamesBare (s : Text) (found : Text × Text) : Prop :=
  Optionally Qualifies (fun s (found : Text × Text) => Names s found.1 found.2) s found

/-- An alteration of a table stands at the start of a text. Each of the words `ONLY`, `IF EXISTS` and
`ONLY`, and a qualifier, may be left out before the name of the table. -/
def Alters (s table : Text) : Prop :=
  ∃ statement rest, Keywords ["ALTER", "TABLE"] s statement ∧
    Optionally (Keywords ["ONLY"]) (Optionally (Keywords ["IF", "EXISTS"])
      (Optionally (Keywords ["ONLY"]) NamesBare)) statement (table, rest)

/-- The columns of a key stand at the start of a text. -/
def KeyColumns (s : Text) (found : Text × Text) : Prop :=
  ∃ gap list, IsGap gap ∧ Encloses list found.1 found.2 ∧ s = "FOREIGN" ++ (gap ++ ("KEY" ++ list))

/-- A reference to columns of a table stands at the start of a text. -/
def References (s : Text) (found : Text × Text) : Prop :=
  ∃ reference, Keywords ["REFERENCES"] s reference ∧
    Optionally Qualifies (fun s (found : Text × Text) =>
      ∃ list rest, Names s found.1 list ∧ Encloses list found.2 rest) reference found

theorem head?_qualifiedNames (s : Text) (found : Text × Text) :
    (Text.qualifiedNames s).head? = some found ↔ NamesBare s found := by
  have names (s : Text) (found : Text × Text) :
      (Text.quotableName? s).toList.head? = some found ↔ Names s found.1 found.2 := by
    rw [Option.head?_toList, ← Text.quotableName?_eq_some]
  rw [Text.qualifiedNames, List.filterMap_eq_flatMap_toList]
  exact Text.head?_withOrWithout Text.afterQualifier?_eq_some names s found

theorem readAlteredTable_eq_some (s table : Text) : readAlteredTable s = some table ↔ Alters s table := by
  have only := Text.afterKeywords?_eq_some ["ONLY"]
  have exist := Text.afterKeywords?_eq_some ["IF", "EXISTS"]
  have stated := Text.head?_withOrWithout only
    (Text.head?_withOrWithout exist (Text.head?_withOrWithout only head?_qualifiedNames))
  simp only [readAlteredTable, Alters, bind, Option.bind_eq_some_iff, Text.afterKeywords?_eq_some,
    List.flatMap_assoc, stated, Prod.exists, pure, Option.some.injEq]
  constructor
  · rintro ⟨statement, begins, _, rest, named, rfl⟩
    exact ⟨statement, rest, begins, named⟩
  · rintro ⟨statement, rest, begins, named⟩
    exact ⟨statement, begins, table, rest, named, rfl⟩

theorem readKeyColumns_eq_some (s : Text) (found : Text × Text) :
    readKeyColumns s = some found ↔ KeyColumns s found := by
  have filled (list : Text) : Text.IsFilled ("KEY" ++ list) := by
    intro c first
    cases first
    rfl
  simp only [readKeyColumns, KeyColumns, bind, Option.bind_eq_some_iff, Text.after?_eq_some,
    Text.afterBlanks?_eq_some, ← Text.encloses_iff]
  constructor
  · rintro ⟨_, rfl, _, ⟨gap, blank, rfl, _⟩, list, rfl, enclosed⟩
    exact ⟨gap, list, blank, enclosed, rfl⟩
  · rintro ⟨gap, list, blank, enclosed, rfl⟩
    exact ⟨_, rfl, _, ⟨gap, blank, rfl, filled list⟩, list, rfl, enclosed⟩

/-- The table that is named at the start of a text, with the list behind it. -/
def listedTable? (named : Text × Text) : Option (Text × Text) :=
  (Text.parenthesized? (Text.trimStart named.2)).map fun (columns, _) => (named.1, columns)

theorem head?_listedTable (s : Text) (found : Text × Text) :
    ((Text.quotableName? s).toList.filterMap listedTable?).head? = some found ↔
      ∃ list rest, Names s found.1 list ∧ Encloses list found.2 rest := by
  have bound : ((Text.quotableName? s).toList.filterMap listedTable?).head? =
      (Text.quotableName? s).bind listedTable? := by
    cases Text.quotableName? s with
    | none => rfl
    | some named => cases listed : listedTable? named <;> simp [listed]
  obtain ⟨table, targets⟩ := found
  simp only [bound, listedTable?, Option.bind_eq_some_iff, Prod.exists, Text.quotableName?_eq_some,
    Option.map_eq_some_iff, Text.encloses_iff, Prod.mk.injEq]
  constructor
  · rintro ⟨_, list, named, _, rest, enclosed, rfl, rfl⟩
    exact ⟨list, rest, named, enclosed⟩
  · rintro ⟨list, rest, named, enclosed⟩
    exact ⟨table, list, named, targets, rest, enclosed, rfl, rfl⟩

theorem readReference_eq_some (s : Text) (found : Text × Text) :
    readReference s = some found ↔ References s found := by
  have stated := Text.head?_withOrWithout Text.afterQualifier?_eq_some head?_listedTable
  simp only [readReference, References, bind, Option.bind_eq_some_iff, Text.afterKeywords?_eq_some]
  refine exists_congr fun reference => and_congr_right fun _ => ?_
  rw [← stated, ← List.filterMap_flatMap, ← List.filterMap_eq_flatMap_toList, List.head?_filterMap]
  rfl

theorem NamesBare.isWord {s : Text} {found : Text × Text} (bare : NamesBare s found) : Text.IsWord found.1 := by
  obtain ⟨_, named⟩ := Optionally.exists_next bare
  obtain ⟨_, _, _, _, word, _⟩ := named
  exact word

/-- An alteration names a table by a word. -/
theorem Alters.isWord {s table : Text} (alters : Alters s table) : Text.IsWord table := by
  obtain ⟨_, _, _, optional⟩ := alters
  obtain ⟨_, optional⟩ := optional.exists_next
  obtain ⟨_, optional⟩ := optional.exists_next
  obtain ⟨_, bare⟩ := optional.exists_next
  exact bare.isWord

theorem Alters.ne_nil {s table : Text} (alters : Alters s table) : table ≠ [] := alters.isWord.ne_nil

/-- A reference names a table by a word. -/
theorem References.isWord {s : Text} {found : Text × Text} (refers : References s found) :
    Text.IsWord found.1 := by
  obtain ⟨_, _, optional⟩ := refers
  obtain ⟨_, _, _, named, _⟩ := optional.exists_next
  obtain ⟨_, _, _, _, word, _⟩ := named
  exact word

/-- The columns of a reference stand behind it. -/
theorem References.subset {s : Text} {found : Text × Text} (refers : References s found) : found.2 ⊆ s := by
  obtain ⟨_, stated, optional⟩ := refers
  obtain ⟨rest, behind, list, _, named, _, _, _, _, split⟩ :=
    optional.exists_suffix fun _ _ qualified => Text.Qualifies.suffix qualified
  have within : list ⊆ s := (named.suffix.trans (behind.trans stated.suffix)).subset
  intro c member
  refine within ?_
  rw [split]
  simp [member]

/-- The columns of a key end at the first closing parenthesis. -/
theorem KeyColumns.split {s : Text} {found : Text × Text} (key : KeyColumns s found) :
    ∃ clause, ')' ∉ clause ∧ s = clause ++ ')' :: found.2 := by
  obtain ⟨gap, _, ⟨_, blank⟩, ⟨margin, blank', _, absent, rfl⟩, rfl⟩ := key
  have filled : Text.isBlank ')' = false := by decide
  refine ⟨"FOREIGN" ++ (gap ++ ("KEY" ++ (margin ++ '(' :: found.1))), ?_, by simp⟩
  simp only [List.mem_append, List.mem_cons, not_or]
  refine ⟨by decide, fun member => ?_, by decide, fun member => ?_, by decide, absent⟩
  · rw [blank _ member] at filled
    cases filled
  · rw [blank' _ member] at filled
    cases filled

/-- What is behind the columns of a key is within what is behind the columns of an earlier key. -/
theorem KeyColumns.suffix_behind {s other : Text} {found later : Text × Text} (key : KeyColumns s found)
    (key' : KeyColumns other later) (within : other <:+ s) : later.2 <:+ found.2 := by
  obtain ⟨clause, absent, split⟩ := key.split
  obtain ⟨clause', absent', split'⟩ := key'.split
  have last : ')' :: found.2 <:+ s := split ▸ List.suffix_append _ _
  rcases List.suffix_or_suffix_of_suffix within last with inner | outer
  · have behind : later.2 <:+ other := split' ▸ (List.suffix_cons _ _).trans (List.suffix_append _ _)
    rcases List.suffix_cons_iff.mp inner with same | deeper
    · rw [same] at split'
      cases clause' with
      | nil => exact (List.cons.inj split').2 ▸ List.suffix_rfl
      | cons c clause' =>
        rw [← (List.cons.inj split').1] at absent'
        exact absurd (List.mem_cons_self ..) absent'
    · exact behind.trans deeper
  · obtain ⟨front, here⟩ := outer
    obtain ⟨before, whole⟩ := within
    have free : ')' ∉ front := by
      rw [split, ← here, ← List.append_assoc, List.append_cancel_right_eq] at whole
      rw [← whole] at absent
      exact fun member => absent (List.mem_append_right _ member)
    have cut := Text.cutAt_append later.2 absent'
    rw [← split', ← here, Text.cutAt_append found.2 free] at cut
    exact Option.some.inj (Prod.mk.inj cut).2 ▸ List.suffix_rfl

end ReferencePages.ForeignKey
