import ReferencePages.ConfigStruct
import ReferencePages.Proofs.Path.Text
import ReferencePages.Proofs.Text.Lines
import Mathlib.Data.List.Forall2
import Mathlib.Data.List.Nodup
import Mathlib.Order.Basic
/-!
The sections of a configuration file. Each marker has a first line in which it stands, and its section runs from
there to the next such line of a marker. If these lines are distinct, the sections in the order of their lines are
the text from the earliest of them on.
-/

namespace ReferencePages.ConfigSection

/-- The lines of a section. An empty line at its end is one of them. -/
def sourceLines (s : ConfigSection) : List Text := Text.splitOnChar '\n' s.source

/-- Sections in the order of the places in the text that belong to them. -/
def inOrder (places : List Nat) (sections : List ConfigSection) : List ConfigSection :=
  ((places.zip sections).mergeSort fun a b => decide (a.1 ≤ b.1)).map (·.2)

/-- A marker that no line contains. -/
def IsMissing (ls : List Text) (m : Marker) : Prop := ∀ line ∈ ls, ¬ m.marker <:+: line

/-- The number of the first line that contains a marker. -/
def IsFirstLine (ls : List Text) (m : Marker) (i : Nat) : Prop :=
  (∃ line, ls[i]? = some line ∧ m.marker <:+: line) ∧
    ∀ j < i, ∀ line, ls[j]? = some line → ¬ m.marker <:+: line

instance (ls : List Text) (m : Marker) : Decidable (IsMissing ls m) :=
  inferInstanceAs (Decidable (∀ line ∈ ls, ¬ m.marker <:+: line))

/-! ### The search for the markers -/

theorem findIdx?_eq_none {ls : List Text} {m : Marker} :
    ls.findIdx? (Text.contains m.marker ·) = none ↔ IsMissing ls m := by
  simp only [List.findIdx?_eq_none_iff, Text.contains_eq_false, IsMissing]

theorem findIdx?_eq_some {ls : List Text} {m : Marker} {i : Nat} :
    ls.findIdx? (Text.contains m.marker ·) = some i ↔ IsFirstLine ls m i := by
  rw [List.findIdx?_eq_some_iff_getElem]
  constructor
  · rintro ⟨inside, here, above⟩
    refine ⟨⟨ls[i], List.getElem?_eq_getElem inside, Text.contains_iff.mp here⟩, fun j before line there within => ?_⟩
    obtain ⟨_, rfl⟩ := List.getElem?_eq_some_iff.mp there
    exact above j before (Text.contains_iff.mpr within)
  · rintro ⟨⟨line, there, within⟩, above⟩
    obtain ⟨inside, rfl⟩ := List.getElem?_eq_some_iff.mp there
    refine ⟨inside, Text.contains_iff.mpr within, fun j before found => ?_⟩
    exact above j before _ (List.getElem?_eq_getElem (before.trans inside)) (Text.contains_iff.mp found)

theorem IsFirstLine.lt_length {ls : List Text} {m : Marker} {i : Nat} (first : IsFirstLine ls m i) :
    i < ls.length := by
  obtain ⟨⟨_, there, _⟩, _⟩ := first
  exact (List.getElem?_eq_some_iff.mp there).1

/-- The search fails at the first marker that is missing. -/
theorem starts_eq_error {ls : List Text} {markers : List Marker} {m : Marker} :
    starts ls markers = .error m ↔
      ∃ a b, markers = a ++ m :: b ∧ IsMissing ls m ∧ ∀ other ∈ a, ¬ IsMissing ls other := by
  induction markers with
  | nil => simp [starts]
  | cons first markers ih =>
    cases found : ls.findIdx? (Text.contains first.marker ·) with
    | none =>
      have missing := findIdx?_eq_none.mp found
      have fails : starts ls (first :: markers) = .error first := by simp only [starts, found]
      rw [fails, Except.error.injEq]
      constructor
      · rintro rfl
        exact ⟨[], markers, rfl, missing, nofun⟩
      · rintro ⟨a, b, split, _, present⟩
        cases a with
        | nil => exact (List.cons.inj split).1
        | cons other a =>
          obtain rfl := (List.cons.inj split).1
          exact absurd missing (present first (List.mem_cons_self ..))
    | some i =>
      have present : ¬ IsMissing ls first := fun missing => by
        rw [findIdx?_eq_none.mpr missing] at found
        cases found
      have goes : starts ls (first :: markers) = .error m ↔ starts ls markers = .error m := by
        simp only [starts, found]
        cases starts ls markers <;> simp [Except.map]
      rw [goes, ih]
      constructor
      · rintro ⟨a, b, rfl, missing, before⟩
        exact ⟨first :: a, b, rfl, missing, List.forall_mem_cons.mpr ⟨present, before⟩⟩
      · rintro ⟨a, b, split, missing, before⟩
        cases a with
        | nil =>
          obtain rfl := (List.cons.inj split).1
          exact absurd missing present
        | cons other a =>
          exact ⟨a, b, (List.cons.inj split).2, missing, (List.forall_mem_cons.mp before).2⟩

theorem starts_eq_ok {ls : List Text} {markers : List Marker} {places : List Nat}
    (firsts : List.Forall₂ (IsFirstLine ls) markers places) : starts ls markers = .ok (markers.zip places) := by
  induction firsts with
  | nil => rfl
  | cons first _ ih =>
    simp only [starts, findIdx?_eq_some.mpr first, ih]
    rfl

/-! ### Where a section starts and stops -/

theorem foldl_max_le_iff {ns : List Nat} {b k : Nat} : ns.foldl max b ≤ k ↔ b ≤ k ∧ ∀ n ∈ ns, n ≤ k := by
  induction ns generalizing b with
  | nil => simp
  | cons n ns ih => rw [List.foldl_cons, ih, Nat.max_le, List.forall_mem_cons, and_assoc]

theorem le_foldl_min_iff {ns : List Nat} {b k : Nat} : k ≤ ns.foldl min b ↔ k ≤ b ∧ ∀ n ∈ ns, k ≤ n := by
  induction ns generalizing b with
  | nil => simp
  | cons n ns ih => rw [List.foldl_cons, ih, Nat.le_min, List.forall_mem_cons, and_assoc]

/-- With distinct titles a title stands for its own place. -/
theorem startOf_of_mem {placed : List (Marker × Nat)} (titles : (placed.map (·.1.title)).Nodup)
    {item : Marker × Nat} (member : item ∈ placed) : startOf item.1.title placed = item.2 := by
  refine eq_of_forall_ge_iff fun k => ?_
  rw [startOf, foldl_max_le_iff]
  constructor
  · rintro ⟨_, bound⟩
    refine bound item.2 (List.mem_map_of_mem (List.mem_filter.mpr ⟨member, ?_⟩))
    exact decide_eq_true rfl
  · intro bound
    refine ⟨Nat.zero_le k, fun n there => ?_⟩
    obtain ⟨other, inside, rfl⟩ := List.mem_map.mp there
    obtain ⟨inside, same⟩ := List.mem_filter.mp inside
    obtain rfl := List.inj_on_of_nodup_map titles inside member (of_decide_eq_true same)
    exact bound

theorem le_stopAfter_iff {start count k : Nat} {placed : List (Marker × Nat)} :
    k ≤ stopAfter start count placed ↔ k ≤ count ∧ ∀ i ∈ placed.map (·.2), start < i → k ≤ i := by
  simp only [stopAfter, le_foldl_min_iff, List.mem_filter, decide_eq_true_iff, and_imp]

theorem slice_ne_nil {ls : List Text} {start stop : Nat} (before : start < stop) (inside : start < ls.length) :
    slice start stop ls ≠ [] := by
  rw [slice, ne_eq, List.drop_eq_nil_iff, List.length_take]
  omega

theorem head?_slice {ls : List Text} {start stop : Nat} (before : start < stop) :
    (slice start stop ls).head? = ls[start]? := by
  rw [slice, List.head?_drop, List.getElem?_take_of_lt before]

theorem slice_append_drop {ls : List Text} {start stop : Nat} (before : start ≤ stop) :
    slice start stop ls ++ ls.drop stop = ls.drop start := by
  have rest : ls.drop stop = (ls.drop start).drop (stop - start) := by
    rw [List.drop_drop, Nat.add_sub_cancel' before]
  rw [slice, List.drop_take, rest, List.take_append_drop]

/-- Pieces of a list that each run to the next are the list from the first of them on. -/
theorem flatMap_slice {ls : List Text} {stop : Nat → Nat} {first : Nat} {later : List Nat}
    (ascending : (first :: later).Pairwise (· < ·)) (inside : ∀ i ∈ first :: later, i < ls.length)
    (stops : ∀ i ∈ first :: later, ∀ k, k ≤ stop i ↔ k ≤ ls.length ∧ ∀ j ∈ first :: later, i < j → k ≤ j) :
    (first :: later).flatMap (fun i => slice i (stop i) ls) = ls.drop first := by
  induction later generalizing first with
  | nil =>
    have last : stop first = ls.length := eq_of_forall_le_iff fun k => by
      rw [stops first (List.mem_cons_self ..)]
      simp
    simp [slice, last]
  | cons second later ih =>
    obtain ⟨below, ascending'⟩ := List.pairwise_cons.mp ascending
    have between := below second (List.mem_cons_self ..)
    -- The first piece runs to the second place, and the others do not see the first.
    have next : stop first = second := eq_of_forall_le_iff fun k => by
      rw [stops first (List.mem_cons_self ..)]
      constructor
      · rintro ⟨_, all⟩
        exact all second (List.mem_cons_of_mem _ (List.mem_cons_self ..)) between
      · intro bound
        refine ⟨?_, fun j member after => ?_⟩
        · have := inside second (List.mem_cons_of_mem _ (List.mem_cons_self ..))
          omega
        · rcases List.mem_cons.mp member with rfl | member
          · omega
          · rcases List.mem_cons.mp member with rfl | member
            · exact bound
            · have := (List.pairwise_cons.mp ascending').1 j member
              omega
    have rest := ih ascending' (fun i member => inside i (List.mem_cons_of_mem _ member)) fun i member k => by
      rw [stops i (List.mem_cons_of_mem _ member)]
      refine and_congr_right fun _ => ?_
      constructor
      · intro all j there after
        exact all j (List.mem_cons_of_mem _ there) after
      · intro all j there after
        rcases List.mem_cons.mp there with rfl | there
        · have := below i member
          omega
        · exact all j there after
    rw [List.flatMap_cons, rest, next, slice_append_drop between.le]

/-! ### The sections -/

theorem splitOnChar_unlines {ls : List Text} (filled : ls ≠ []) (single : ∀ line ∈ ls, Text.IsLine line) :
    Text.splitOnChar '\n' (Text.unlines ls) = ls := by
  cases ls with
  | nil => exact absurd rfl filled
  | cons line ls =>
    exact Text.splitOnChar_joinWith fun piece member within => absurd (single piece member '\n' within) (by decide)

/-- The section of a marker at a place, where all markers have theirs. -/
def placedSection (ls : List Text) (placed : List (Marker × Nat)) (item : Marker × Nat) : ConfigSection where
  title := item.1.title
  structs := []
  source := Text.unlines (slice item.2 (stopAfter item.2 ls.length placed) ls)

theorem split_eq_ok {text : Text} {placed : List (Marker × Nat)} (titles : (placed.map (·.1.title)).Nodup)
    (found : starts (Text.lines text) (placed.map (·.1)) = .ok placed) :
    split text (placed.map (·.1)) = .ok (placed.map (placedSection (Text.lines text) placed)) := by
  rw [split, found]
  refine congrArg Except.ok (List.map_map.trans (List.map_congr_left fun item member => ?_))
  rw [Function.comp_apply, startOf_of_mem titles member]
  rfl

section Placed

variable {text : Text} {placed : List (Marker × Nat)} {item : Marker × Nat}
  (firsts : ∀ item ∈ placed, IsFirstLine (Text.lines text) item.1 item.2) (member : item ∈ placed)

include firsts member in
theorem lt_stopAfter : item.2 < stopAfter item.2 (Text.lines text).length placed := by
  have inside := (firsts item member).lt_length
  exact le_stopAfter_iff.mpr ⟨inside, fun i _ after => after⟩

include firsts member in
/-- A section is read by its lines, and its first line is the place of its marker. -/
theorem sourceLines_placedSection :
    (placedSection (Text.lines text) placed item).sourceLines =
      slice item.2 (stopAfter item.2 (Text.lines text).length placed) (Text.lines text) := by
  have filled := slice_ne_nil (lt_stopAfter firsts member) (firsts item member).lt_length
  exact splitOnChar_unlines filled fun line within =>
    Text.isLine_of_mem_lines (List.mem_of_mem_take (List.mem_of_mem_drop within))

end Placed

theorem flatMap_inOrder {ls : List Text} {placed : List (Marker × Nat)}
    (read : ∀ item ∈ placed, (placedSection ls placed item).sourceLines =
      slice item.2 (stopAfter item.2 ls.length placed) ls) :
    ∃ numbers : List Nat, numbers.Perm (placed.map (·.2)) ∧ numbers.Pairwise (· ≤ ·) ∧
      (inOrder (placed.map (·.2)) (placed.map (placedSection ls placed))).flatMap sourceLines =
        numbers.flatMap fun i => slice i (stopAfter i ls.length placed) ls := by
  have pairs : (placed.map (·.2)).zip (placed.map (placedSection ls placed)) =
      placed.map fun item => (item.2, placedSection ls placed item) := List.zip_map'
  have same := List.mergeSort_perm (placed.map fun item => (item.2, placedSection ls placed item))
    fun a b => decide (a.1 ≤ b.1)
  have sorted : ((placed.map fun item => (item.2, placedSection ls placed item)).mergeSort
      fun a b => decide (a.1 ≤ b.1)).Pairwise fun a b => decide (a.1 ≤ b.1) = true :=
    List.pairwise_mergeSort (fun a b c first second => by
      rw [decide_eq_true_iff] at *
      exact first.trans second) (fun a b => by simp [Nat.le_total]) _
  rw [inOrder, pairs]
  generalize (placed.map fun item => (item.2, placedSection ls placed item)).mergeSort
    (fun a b => decide (a.1 ≤ b.1)) = ordered at same sorted
  refine ⟨ordered.map (·.1), ?_, ?_, ?_⟩
  · have numbers := same.map (·.1)
    rwa [List.map_map] at numbers
  · rw [List.pairwise_map]
    exact sorted.imp of_decide_eq_true
  · rw [List.flatMap_map, List.flatMap_map]
    refine List.flatMap_congr fun item member => ?_
    obtain ⟨item, within, rfl⟩ := List.mem_map.mp (same.mem_iff.mp member)
    exact read item within

/-- Sections at distinct places are together the lines from the first place on. -/
theorem flatMap_sections {text : Text} {placed : List (Marker × Nat)}
    (firsts : ∀ item ∈ placed, IsFirstLine (Text.lines text) item.1 item.2) (distinct : (placed.map (·.2)).Nodup)
    {first : Nat} (member : first ∈ placed.map (·.2)) (least : ∀ i ∈ placed.map (·.2), first ≤ i) :
    (inOrder (placed.map (·.2)) (placed.map (placedSection (Text.lines text) placed))).flatMap sourceLines =
      (Text.lines text).drop first := by
  obtain ⟨numbers, same, ascending, read⟩ := flatMap_inOrder fun item within =>
    sourceLines_placedSection firsts within
  have strict : numbers.Pairwise (· < ·) := by
    have apart : numbers.Pairwise (· ≠ ·) := same.nodup_iff.mpr distinct
    exact (ascending.and apart).imp fun ⟨le, ne⟩ => Nat.lt_of_le_of_ne le ne
  rw [read]
  cases numbers with
  | nil => cases same.mem_iff.mpr member
  | cons start later =>
    have isFirst : start = first := by
      have below := least start (same.mem_iff.mp (List.mem_cons_self ..))
      rcases List.mem_cons.mp (same.mem_iff.mpr member) with same | after
      · exact same.symm
      · have above := (List.pairwise_cons.mp ascending).1 first after
        omega
    rw [flatMap_slice strict (fun i there => ?_) fun i there k => ?_, isFirst]
    · obtain ⟨item, inside, rfl⟩ := List.mem_map.mp (same.mem_iff.mp there)
      exact (firsts item inside).lt_length
    · rw [le_stopAfter_iff]
      simp only [same.mem_iff]

/-- A file is cut into sections if no marker is missing, and otherwise the first that is missing is told. Where
the first lines of the markers are distinct, there is a section for each marker in their order, it begins with the
first line of its marker, and the sections in the order of these lines are the lines from the earliest of them on,
each once. -/
theorem split_partition (text : Text) (markers : List Marker) :
    (∀ m, split text markers = .error m ↔ ∃ a b, markers = a ++ m :: b ∧ IsMissing (Text.lines text) m ∧
      ∀ other ∈ a, ¬ IsMissing (Text.lines text) other) ∧
    ((∃ m, split text markers = .error m) ↔ ∃ m ∈ markers, IsMissing (Text.lines text) m) ∧
    ((markers.map (·.title)).Nodup → ∀ places,
      List.Forall₂ (IsFirstLine (Text.lines text)) markers places → places.Nodup →
      ∃ sections, split text markers = .ok sections ∧ sections.map (·.title) = markers.map (·.title) ∧
        List.Forall₂ (fun s i => s.sourceLines.head? = (Text.lines text)[i]?) sections places ∧
        ∀ first ∈ places, (∀ i ∈ places, first ≤ i) →
          (inOrder places sections).flatMap sourceLines = (Text.lines text).drop first) := by
  have fails (m : Marker) : split text markers = .error m ↔ ∃ a b, markers = a ++ m :: b ∧
      IsMissing (Text.lines text) m ∧ ∀ other ∈ a, ¬ IsMissing (Text.lines text) other := by
    rw [← starts_eq_error, split]
    cases starts (Text.lines text) markers <;> simp [Except.map]
  refine ⟨fails, ⟨?_, ?_⟩, fun titles places firsts distinct => ?_⟩
  · rintro ⟨m, failed⟩
    obtain ⟨a, b, rfl, missing, _⟩ := (fails m).mp failed
    exact ⟨m, List.mem_append_right _ (List.mem_cons_self ..), missing⟩
  · rintro ⟨m, member, missing⟩
    have some : (markers.find? fun m => decide (IsMissing (Text.lines text) m)).isSome = true :=
      List.find?_isSome.mpr ⟨m, member, decide_eq_true missing⟩
    obtain ⟨first, found⟩ := Option.isSome_iff_exists.mp some
    obtain ⟨missing', a, b, split, before⟩ := List.find?_eq_some_iff_append.mp found
    refine ⟨first, (fails first).mpr ⟨a, b, split, of_decide_eq_true missing', fun other within => ?_⟩⟩
    simpa using before other within
  · have count := firsts.length_eq
    have found := starts_eq_ok firsts
    have within {item : Marker × Nat} (member : item ∈ markers.zip places) := List.forall₂_zip firsts member
    have numbers : (markers.zip places).map (·.2) = places := List.map_snd_zip count.ge
    have names : (markers.zip places).map (·.1) = markers := List.map_fst_zip count.le
    generalize markers.zip places = placed at *
    subst numbers names
    rw [List.map_map] at titles
    refine ⟨_, split_eq_ok titles found, ?_, ?_, ?_⟩
    · rw [List.map_map, List.map_map]
      rfl
    · rw [List.forall₂_map_left_iff, List.forall₂_map_right_iff, List.forall₂_same]
      intro item member
      rw [sourceLines_placedSection (fun _ => within) member, head?_slice (lt_stopAfter (fun _ => within) member)]
    · intro first member least
      exact flatMap_sections (fun _ => within) distinct member least

/-- Two markers of which the second stands first, and again in a section. -/
theorem split_partition_swapped :
    ∃ sections, split "use a;\n// Web\nx\n\n// Core\n// Web\n" [⟨"Core", "// Core"⟩, ⟨"Web", "// Web"⟩] = .ok sections ∧
      sections.map (·.title) = (["Core", "Web"] : List Text) ∧
      (inOrder [4, 1] sections).flatMap sourceLines = (["// Web", "x", "", "// Core", "// Web"] : List Text) := by
  have distinct : ([⟨"Core", "// Core"⟩, ⟨"Web", "// Web"⟩] : List Marker).map (·.title) |>.Nodup := by
    decide +kernel
  have firsts : List.Forall₂ (IsFirstLine (Text.lines "use a;\n// Web\nx\n\n// Core\n// Web\n"))
      [⟨"Core", "// Core"⟩, ⟨"Web", "// Web"⟩] [4, 1] :=
    .cons (findIdx?_eq_some.mp (by decide +kernel)) (.cons (findIdx?_eq_some.mp (by decide +kernel)) .nil)
  obtain ⟨sections, found, titles, _, covered⟩ :=
    (split_partition _ [⟨"Core", "// Core"⟩, ⟨"Web", "// Web"⟩]).2.2 distinct [4, 1] firsts (by decide)
  refine ⟨sections, found, titles, ?_⟩
  rw [covered 1 (by decide) (by decide)]
  decide +kernel

end ReferencePages.ConfigSection
