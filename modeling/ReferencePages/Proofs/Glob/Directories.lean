import ReferencePages.Proofs.FileTree.Grown
import ReferencePages.Proofs.FileTree.Search
/-!
The directories of a tree that has grown. Below a directory that was there, those that were there are found
again in their order; what else is found is new.
-/

namespace ReferencePages

open FileTree (Grown IsSound)

/-! ### Branches of a tree -/

namespace FileTree

/-- The names directly below a place, each with whether a directory has it. -/
def branches (t : FileTree) (place : Place) : List (Text × Bool) :=
  (t.children place).map fun child => (child.1, decide (child.2 = .directory))

/-- The name of an entry that lies directly below a place. -/
def branchOf (place : Place) (entry : Place × Bool) : Option (Text × Bool) :=
  if entry.1.dropLast = place then entry.1.getLast?.map fun name => (name, entry.2) else none

theorem branchOf_eq_some {place : Place} {entry : Place × Bool} {branch : Text × Bool}
    (found : branchOf place entry = some branch) : entry = (place ++ [branch.1], branch.2) := by
  unfold branchOf at found
  split at found
  · rename_i above
    obtain ⟨name, last, same⟩ := Option.map_eq_some_iff.mp found
    obtain ⟨parts, form⟩ := List.getLast?_eq_some_iff.mp last
    rw [form, List.dropLast_concat] at above
    rw [← same, ← above, ← form]
  · cases found

theorem branches_eq (t : FileTree) (place : Place) :
    t.branches place = t.shape.filterMap (branchOf place) := by
  unfold branches children shape
  rw [List.map_filterMap, List.filterMap_map]
  congr 1
  funext entry
  obtain ⟨p, node⟩ := entry
  dsimp only [Function.comp_apply, branchOf]
  cases p.getLast? with
  | none => simp
  | some name =>
    dsimp only [Option.map_some]
    split
    · rfl
    · rfl

variable {hidden : Place → Prop} {t u : FileTree}

theorem IsSound.lookup_of_mem_branches (sound : t.IsSound) {place : Place} {branch : Text × Bool}
    (member : branch ∈ t.branches place) :
    ∃ node, t.lookup (place ++ [branch.1]) = some node ∧ decide (node = .directory) = branch.2 := by
  rw [branches_eq] at member
  obtain ⟨entry, listed, found⟩ := List.mem_filterMap.mp member
  obtain ⟨item, within, rfl⟩ := List.mem_map.mp listed
  have form := branchOf_eq_some found
  refine ⟨item.2, ?_, (Prod.mk.inj form).2⟩
  rw [← (Prod.mk.inj form).1]
  exact sound.lookup_of_mem within

/-- What is listed anew is new. -/
theorem Grown.lookup_of_mem_added {added : List (Place × Bool)} (sound' : u.IsSound)
    (shapes : u.shape = t.shape ++ added) {entry : Place × Bool} (member : entry ∈ added) :
    t.lookup entry.1 = none := by
  have places : u.entries.map Prod.fst = t.entries.map Prod.fst ++ added.map Prod.fst := by
    have firsts := congrArg (List.map Prod.fst) shapes
    rw [List.map_append, shape, shape, List.map_map, List.map_map] at firsts
    exact firsts
  have once := sound'.once
  rw [places] at once
  have fresh : entry.1 ∉ t.entries.map Prod.fst := fun listed =>
    (List.nodup_append.mp once).2.2 _ listed _ (List.mem_map_of_mem member) rfl
  have below : entry.1 ≠ [] := by
    have listed : entry.1 ∈ u.entries.map Prod.fst := by
      rw [places]
      exact List.mem_append_right _ (List.mem_map_of_mem member)
    obtain ⟨item, within, same⟩ := List.mem_map.mp listed
    obtain ⟨above, name, form, _⟩ := sound'.below item within
    rw [← same, form]
    simp
  cases found : t.lookup entry.1 with
  | none => rfl
  | some node => exact absurd (List.mem_map_of_mem (mem_of_lookup below found)) fresh

/-- The branches of a grown tree that were there are those of the earlier one. -/
theorem Grown.filter_branches (grown : Grown hidden t u) (sound : t.IsSound) (sound' : u.IsSound)
    (place : Place) :
    (u.branches place).filter (fun branch => (t.lookup (place ++ [branch.1])).isSome) =
      t.branches place := by
  obtain ⟨added, shapes⟩ := grown.listed
  rw [branches_eq, shapes, List.filterMap_append, List.filter_append, ← branches_eq]
  have all : (t.branches place).filter (fun branch => (t.lookup (place ++ [branch.1])).isSome) =
      t.branches place := by
    rw [List.filter_eq_self]
    intro branch member
    obtain ⟨node, found, _⟩ := sound.lookup_of_mem_branches member
    rw [found]
    rfl
  have none : (added.filterMap (branchOf place)).filter
      (fun branch => (t.lookup (place ++ [branch.1])).isSome) = [] := by
    rw [List.filter_eq_nil_iff]
    intro branch member
    obtain ⟨entry, listed, found⟩ := List.mem_filterMap.mp member
    have new := lookup_of_mem_added sound' shapes listed
    rw [branchOf_eq_some found] at new
    simp [new]
  rw [all, none, List.append_nil]

theorem Grown.length_le (grown : Grown hidden t u) : t.entries.length ≤ u.entries.length := by
  obtain ⟨added, shapes⟩ := grown.listed
  have sizes := congrArg List.length shapes
  rw [List.length_append, shape, shape, List.length_map, List.length_map] at sizes
  omega

end FileTree

namespace Glob

open FileTree

variable {hidden : Place → Prop} {t u : FileTree}

/-! ### Directories below a place -/

theorem directoriesBelow_succ (t : FileTree) (fuel : Nat) (place : Place) :
    directoriesBelow t (fuel + 1) place =
      [] :: (t.branches place).flatMap fun branch =>
        if branch.2 then (directoriesBelow t fuel (place ++ [branch.1])).map (branch.1 :: ·) else [] := by
  rw [directoriesBelow, branches, List.flatMap_map]
  congr 2
  funext child
  obtain ⟨name, node⟩ := child
  cases node with
  | directory => simp
  | file mode contents => simp

/-- The number of nodes below a place. -/
def countBelow (t : FileTree) (place : Place) : Nat :=
  (t.entries.filter fun entry => place.isPrefixOf entry.1 && decide (entry.1 ≠ place)).length

/-- There is less below a branch than below the place where it branches off. -/
theorem countBelow_lt {place : Place} {branch : Text × Bool} (member : branch ∈ t.branches place) :
    countBelow t (place ++ [branch.1]) < countBelow t place := by
  rw [branches_eq] at member
  obtain ⟨kind, listed, found⟩ := List.mem_filterMap.mp member
  obtain ⟨entry, within, same⟩ := List.mem_map.mp listed
  have form := branchOf_eq_some found
  rw [← same] at form
  have there : entry.1 = place ++ [branch.1] := (Prod.mk.inj form).1
  have nested : t.entries.filter (fun entry => (place ++ [branch.1]).isPrefixOf entry.1 &&
        decide (entry.1 ≠ place ++ [branch.1])) =
      (t.entries.filter fun entry => place.isPrefixOf entry.1 && decide (entry.1 ≠ place)).filter
        fun entry => (place ++ [branch.1]).isPrefixOf entry.1 &&
          decide (entry.1 ≠ place ++ [branch.1]) := by
    rw [List.filter_filter]
    refine List.filter_congr fun other _ => ?_
    by_cases deeper : (place ++ [branch.1]).isPrefixOf other.1
    · obtain ⟨rest, split⟩ := List.isPrefixOf_iff_prefix.mp deeper
      have above : place.isPrefixOf other.1 = true := by
        rw [List.isPrefixOf_iff_prefix, ← split, List.append_assoc]
        exact List.prefix_append _ _
      have ne : other.1 ≠ place := by
        intro same
        have sizes := congrArg List.length (split.trans same)
        simp at sizes
      simp [above, ne]
    · simp [deeper]
  rw [countBelow, countBelow, nested, List.length_filter_lt_length_iff_exists]
  refine ⟨entry, List.mem_filter.mpr ⟨within, ?_⟩, by simp [there]⟩
  simp [there, List.isPrefixOf_iff_prefix]

/-- More fuel than there are nodes finds nothing more. -/
theorem directoriesBelow_of_countBelow {fuel more : Nat} {place : Place}
    (enough : countBelow t place < fuel) (le : fuel ≤ more) :
    directoriesBelow t more place = directoriesBelow t fuel place := by
  induction fuel generalizing more place with
  | zero => omega
  | succ fuel ih =>
    obtain ⟨rest, rfl⟩ : ∃ rest, more = rest + 1 := ⟨more - 1, by omega⟩
    rw [directoriesBelow_succ, directoriesBelow_succ, List.flatMap_def, List.flatMap_def]
    have each : (t.branches place).map (fun branch => if branch.2 then
          (directoriesBelow t rest (place ++ [branch.1])).map (branch.1 :: ·) else []) =
        (t.branches place).map fun branch => if branch.2 then
          (directoriesBelow t fuel (place ++ [branch.1])).map (branch.1 :: ·) else [] := by
      refine List.map_congr_left fun branch member => ?_
      have fewer := countBelow_lt member
      rw [ih (by omega) (by omega)]
    rw [each]

/-- The directories below a place are reached by names alone. -/
theorem mem_directoriesBelow (sound : t.IsSound) {fuel : Nat} {place : Place} {names : List Text}
    (member : names ∈ directoriesBelow t fuel place) :
    names.foldl onward place = place ++ names ∧
      (t.lookup place = some .directory →
        t.walk place names = .ok (place ++ names) ∧ t.lookup (place ++ names) = some .directory) := by
  induction fuel generalizing place names with
  | zero => cases member
  | succ fuel ih =>
    rw [directoriesBelow_succ] at member
    rcases List.mem_cons.mp member with rfl | later
    · rw [List.append_nil]
      exact ⟨rfl, fun there => ⟨rfl, there⟩⟩
    · obtain ⟨branch, listed, within⟩ := List.mem_flatMap.mp later
      obtain ⟨node, found, kind⟩ := sound.lookup_of_mem_branches listed
      obtain ⟨_, isName, short⟩ := sound.parent (by rw [found]; rfl)
      split at within
      · rename_i directory
        rw [directory, decide_eq_true_iff] at kind
        obtain ⟨rest, deeper, rfl⟩ := List.mem_map.mp within
        obtain ⟨leads, reached⟩ := ih deeper
        obtain ⟨walked, last⟩ := reached (kind ▸ found)
        rw [List.append_assoc, List.singleton_append] at walked leads last
        refine ⟨?_, fun there => ⟨?_, last⟩⟩
        · rw [List.foldl_cons, onward, if_neg isName.noDots, leads]
        · rw [walk, there]
          dsimp only
          rw [if_neg isName.noDots, short, if_neg Bool.false_ne_true, found]
          exact walked
      · cases within

/-- Whether names lead from a place to something in a tree. -/
def standsAt (t : FileTree) (place : Place) (names : List Text) : Bool :=
  (t.lookup (names.foldl onward place)).isSome

theorem filter_standsAt_append (t : FileTree) (place : Place) (names : List Text)
    (found : List (List Text)) :
    (found.map (names ++ ·)).filter (standsAt t place) =
      (found.filter (standsAt t (names.foldl onward place))).map (names ++ ·) := by
  rw [List.filter_map]
  refine congrArg _ (List.filter_congr fun rest _ => ?_)
  rw [Function.comp_apply, standsAt, standsAt, List.foldl_append]

theorem filter_standsAt_cons {t : FileTree} {place : Place} {name : Text} (forward : name ≠ "..")
    (found : List (List Text)) :
    (found.map (name :: ·)).filter (standsAt t place) =
      (found.filter (standsAt t (place ++ [name]))).map (name :: ·) := by
  have single := filter_standsAt_append t place [name] found
  rwa [List.foldl_cons, onward, if_neg forward] at single

/-- What is kept of all that is found for a list is found for those of its members that count. -/
theorem filter_flatMap_eq {α β : Type} {keep : β → Bool} {counts : α → Bool} {f g : α → List β}
    {xs : List α} (old : ∀ x ∈ xs, counts x = true → (f x).filter keep = g x)
    (new : ∀ x ∈ xs, counts x = false → (f x).filter keep = []) :
    (xs.flatMap f).filter keep = (xs.filter counts).flatMap g := by
  induction xs with
  | nil => rfl
  | cons x xs ih =>
    have rest := ih (fun y member => old y (List.mem_cons_of_mem _ member))
      (fun y member => new y (List.mem_cons_of_mem _ member))
    rw [List.flatMap_cons, List.filter_append, rest]
    cases known : counts x with
    | true =>
      rw [List.filter_cons_of_pos known, List.flatMap_cons, old x (List.mem_cons_self ..) known]
    | false =>
      rw [List.filter_cons_of_neg (by simp [known]), new x (List.mem_cons_self ..) known,
        List.nil_append]

/-- Below a directory that was there, the directories that were there are found again. -/
theorem filter_directoriesBelow (grown : Grown hidden t u) (sound : t.IsSound) (sound' : u.IsSound)
    (fuel : Nat) {place : Place} (there : t.lookup place = some .directory) :
    (directoriesBelow u fuel place).filter (standsAt t place) = directoriesBelow t fuel place := by
  induction fuel generalizing place with
  | zero => rfl
  | succ fuel ih =>
    have here : standsAt t place [] = true := by
      rw [standsAt, List.foldl_nil, there]
      rfl
    rw [directoriesBelow_succ, directoriesBelow_succ, List.filter_cons_of_pos here,
      ← grown.filter_branches sound sound' place]
    refine congrArg (List.cons []) (filter_flatMap_eq ?_ ?_)
    · intro branch member old
      obtain ⟨node, found, kind⟩ := sound'.lookup_of_mem_branches member
      obtain ⟨_, isName, _⟩ := sound'.parent (by rw [found]; rfl)
      split
      · rename_i directory
        rw [directory, decide_eq_true_iff] at kind
        rw [filter_standsAt_cons isName.noDots, ih (grown.directory_of_isSome (kind ▸ found) old)]
      · rfl
    · intro branch member new
      obtain ⟨node, found, kind⟩ := sound'.lookup_of_mem_branches member
      obtain ⟨_, isName, _⟩ := sound'.parent (by rw [found]; rfl)
      split
      · rename_i directory
        rw [directory, decide_eq_true_iff] at kind
        rw [filter_standsAt_cons isName.noDots, List.map_eq_nil_iff, List.filter_eq_nil_iff]
        intro names within stands
        rw [standsAt, (mem_directoriesBelow sound' within).1] at stands
        have before := sound.isSome_of_append names stands
        rw [new] at before
        cases before
      · rfl

end Glob
end ReferencePages
