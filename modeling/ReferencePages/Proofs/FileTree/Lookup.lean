import ReferencePages.FileTree
/-!
What stands where after a change to a tree. Every change names one place, and a fresh name is the name
of nothing in the tree, so that the node made under it can be taken away again without a trace.
-/

namespace ReferencePages.FileTree

theorem find?_replaceAt_self (place : Place) (node : Node) (entries : List (Place × Node)) :
    find? place (replaceAt place node entries) = some node := by
  induction entries with
  | nil => simp [replaceAt, find?]
  | cons entry rest ih =>
    obtain ⟨p, n⟩ := entry
    by_cases same : p = place
    · simp [replaceAt, find?, same]
    · simp [replaceAt, find?, same, ih]

theorem find?_replaceAt_of_ne {place other : Place} (ne : other ≠ place) (node : Node)
    (entries : List (Place × Node)) :
    find? other (replaceAt place node entries) = find? other entries := by
  induction entries with
  | nil => simp [replaceAt, find?, ne.symm]
  | cons entry rest ih =>
    obtain ⟨p, n⟩ := entry
    by_cases same : p = place
    · subst same
      simp [replaceAt, find?, ne.symm]
    · simp only [replaceAt, if_neg same, find?, ih]

theorem find?_filter_of_ne {place other : Place} (ne : other ≠ place) (entries : List (Place × Node)) :
    find? other (entries.filter (·.1 ≠ place)) = find? other entries := by
  induction entries with
  | nil => rfl
  | cons entry rest ih =>
    obtain ⟨p, n⟩ := entry
    by_cases same : p = place
    · subst same
      simpa [find?, ne.symm] using ih
    · have kept : decide (p ≠ place) = true := by simpa using same
      simp only [List.filter_cons, kept, if_true, find?, ih]

/-- Nothing is found at a place that is not listed. -/
theorem find?_eq_none {place : Place} {entries : List (Place × Node)}
    (unlisted : ∀ entry ∈ entries, entry.1 ≠ place) : find? place entries = none := by
  induction entries with
  | nil => rfl
  | cons entry rest ih =>
    obtain ⟨p, n⟩ := entry
    have ne : p ≠ place := unlisted (p, n) (List.mem_cons_self ..)
    rw [find?, if_neg ne]
    exact ih fun entry member => unlisted entry (List.mem_cons_of_mem _ member)

theorem lookup_set_self {place : Place} (below : place ≠ []) (t : FileTree) (node : Node) :
    (t.set place node).lookup place = some node := by
  rw [lookup, if_neg below]
  exact find?_replaceAt_self place node t.entries

theorem lookup_set_of_ne {place other : Place} (ne : other ≠ place) (t : FileTree) (node : Node) :
    (t.set place node).lookup other = t.lookup other := by
  unfold lookup
  split
  · rfl
  · exact find?_replaceAt_of_ne ne node t.entries

/-- A node that is set costs no directory, unless a file takes the place of one. -/
theorem lookup_set_directory {t : FileTree} {place other : Place} {node : Node} (below : place ≠ [])
    (kept : node = .directory ∨ t.lookup place ≠ some .directory)
    (there : t.lookup other = some .directory) : (t.set place node).lookup other = some .directory := by
  by_cases same : other = place
  · subst same
    rw [lookup_set_self below]
    exact congrArg some (kept.resolve_right fun gone => gone there)
  · rw [lookup_set_of_ne same, there]

theorem lookup_erase_self {place : Place} (below : place ≠ []) (t : FileTree) :
    (t.erase place).lookup place = none := by
  rw [lookup, if_neg below]
  apply find?_eq_none
  intro entry member
  simpa using (List.mem_filter.mp member).2

theorem lookup_erase_of_ne {place other : Place} (ne : other ≠ place) (t : FileTree) :
    (t.erase place).lookup other = t.lookup other := by
  unfold lookup
  split
  · rfl
  · exact find?_filter_of_ne ne t.entries

theorem lookup_root (t : FileTree) : t.lookup [] = some .directory := if_pos rfl

theorem lookup_setMode_of_ne {place other : Place} (ne : other ≠ place) (t : FileTree) (mode : Nat) :
    (t.setMode place mode).lookup other = t.lookup other := by
  unfold setMode
  split
  · exact lookup_set_of_ne ne t _
  · rfl

theorem lookup_setMode_self {t : FileTree} {place : Place} {old mode : Nat} {contents : Bytes}
    (below : place ≠ []) (found : t.lookup place = some (.file old contents)) :
    (t.setMode place mode).lookup place = some (.file mode contents) := by
  unfold setMode
  rw [found]
  exact lookup_set_self below t _

theorem fileAt_congr {t u : FileTree} {place : Place} (same : t.lookup place = u.lookup place) :
    t.fileAt place = u.fileAt place := by
  rw [fileAt, fileAt, same]

/-- Permission bits are changed of files that are there, so no file comes or goes. -/
theorem isSome_fileAt_setMode (t : FileTree) (changed place : Place) (mode : Nat) :
    ((t.setMode changed mode).fileAt place).isSome = (t.fileAt place).isSome := by
  by_cases same : place = changed
  · subst same
    cases found : t.lookup place with
    | none =>
      have kept : t.setMode place mode = t := by rw [setMode, found]
      rw [kept]
    | some node =>
      cases node with
      | directory =>
        have kept : t.setMode place mode = t := by rw [setMode, found]
        rw [kept]
      | file old contents =>
        have below : place ≠ [] := by
          intro root
          rw [root, lookup_root] at found
          cases found
        rw [fileAt, fileAt, lookup_setMode_self below found, found]
        rfl
  · rw [fileAt_congr (lookup_setMode_of_ne same t mode)]

/-! ### Fresh names -/

theorem length_le_longestName {t : FileTree} {entry : Place × Node} {name : Text}
    (member : entry ∈ t.entries) (last : entry.1.getLast? = some name) :
    name.length ≤ t.longestName := by
  have listed : name.length ∈ t.entries.map fun entry => (entry.1.getLast?.getD []).length :=
    List.mem_map.mpr ⟨entry, member, by simp [last]⟩
  rw [longestName, List.foldl_max]
  exact Nat.le_trans (List.le_max?_getD_of_mem listed) (Nat.le_max_right _ _)

/-- A fresh name is the name of no node. -/
theorem getLast?_ne_freshName (t : FileTree) (first last : Text) {entry : Place × Node}
    (member : entry ∈ t.entries) : entry.1.getLast? ≠ some (t.freshName first last) := by
  intro taken
  unfold freshName at taken
  simp only at taken
  split at taken
  · have bound := length_le_longestName member taken
    simp only [List.length_append, List.length_replicate] at bound
    omega
  · rename_i free
    apply free
    rw [List.any_eq_true]
    exact ⟨entry, member, decide_eq_true taken⟩

theorem lookup_freshName (t : FileTree) (above : Place) (first last : Text) :
    t.lookup (above ++ [t.freshName first last]) = none := by
  rw [lookup, if_neg (by simp)]
  apply find?_eq_none
  intro entry member same
  apply t.getLast?_ne_freshName first last member
  rw [same, List.getLast?_concat]

/-- A fresh name consists of its beginning, zeros and its end. -/
theorem freshName_form (t : FileTree) (first last : Text) :
    ∃ n, 0 < n ∧ t.freshName first last = first ++ List.replicate n '0' ++ last := by
  unfold freshName
  simp only
  split
  · exact ⟨t.longestName + 1, Nat.succ_pos _, rfl⟩
  · exact ⟨8, by decide, rfl⟩

end ReferencePages.FileTree
