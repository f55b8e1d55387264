import ReferencePages.Proofs.ErrorEnum.Body
/-!
How far an enumeration reaches. Once a brace is open, only the depth after each line counts: an enumeration
takes the lines up to the first after which no brace is open. Lines that open as many braces as they close
never end it.
-/

namespace ReferencePages.ErrorEnum

theorem braceBalance_append (a b : Text) : braceBalance (a ++ b) = braceBalance a + braceBalance b := by
  simp only [braceBalance, List.count_append]
  omega

theorem braceBalance_of_not_mem {s : Text} (opening : '{' ∉ s) (closing : '}' ∉ s) : braceBalance s = 0 := by
  rw [braceBalance, List.count_eq_zero.mpr opening, List.count_eq_zero.mpr closing]
  rfl

theorem braceBalance_flatten_cons (line : Text) (ls : List Text) :
    braceBalance (line :: ls).flatten = braceBalance line + braceBalance ls.flatten := by
  rw [List.flatten_cons, braceBalance_append]

/-- How many lines an enumeration of this depth takes. -/
def bodyLength (depth : Int) : List Text → Nat
  | [] => 0
  | line :: ls =>
    if depth + braceBalance line ≤ 0 then 1 else bodyLength (depth + braceBalance line) ls + 1

theorem bodyLength_of_closing {depth : Int} {line : Text} (closes : depth + braceBalance line ≤ 0)
    (ls : List Text) : bodyLength depth (line :: ls) = 1 := if_pos closes

theorem exists_bodyLength_cons (depth : Int) (line : Text) (ls : List Text) :
    ∃ n, bodyLength depth (line :: ls) = n + 1 := by
  rw [bodyLength]
  split
  · exact ⟨0, rfl⟩
  · exact ⟨_, rfl⟩

/-- Of each line only its balance counts. -/
theorem bodyLength_congr {depth : Int} {ls ls' : List Text}
    (same : ls.map braceBalance = ls'.map braceBalance) : bodyLength depth ls = bodyLength depth ls' := by
  induction ls generalizing depth ls' with
  | nil =>
    obtain rfl := List.map_eq_nil_iff.mp same.symm
    rfl
  | cons line ls ih =>
    cases ls' with
    | nil => cases same
    | cons line' ls' =>
      rw [List.map_cons, List.map_cons, List.cons.injEq] at same
      rw [bodyLength, bodyLength, same.1, ih same.2]

/-- From this depth on a brace stays open, in front of the lines and after each of them. -/
def StaysOpen : Int → List Text → Prop
  | depth, [] => 0 < depth
  | depth, line :: ls => 0 < depth ∧ StaysOpen (depth + braceBalance line) ls

theorem StaysOpen.pos {depth : Int} {ls : List Text} (stays : StaysOpen depth ls) : 0 < depth := by
  cases ls with
  | nil => exact stays
  | cons line ls => exact stays.1

theorem StaysOpen.append {depth : Int} {a b : List Text} (first : StaysOpen depth a)
    (next : StaysOpen (depth + braceBalance a.flatten) b) : StaysOpen depth (a ++ b) := by
  induction a generalizing depth with
  | nil =>
    have same : depth + braceBalance ([] : List Text).flatten = depth := by simp [braceBalance]
    rwa [same] at next
  | cons line a ih =>
    rw [braceBalance_flatten_cons, ← Int.add_assoc] at next
    exact ⟨first.1, ih first.2 next⟩

/-- Whether each line opens as many braces as it closes. -/
def IsLevel (ls : List Text) : Prop := ∀ line ∈ ls, braceBalance line = 0

theorem IsLevel.flatten {ls : List Text} (level : IsLevel ls) : braceBalance ls.flatten = 0 := by
  induction ls with
  | nil => rfl
  | cons line ls ih =>
    have here := level line (List.mem_cons_self ..)
    have later := ih fun other member => level other (List.mem_cons_of_mem _ member)
    rw [braceBalance_flatten_cons, here, later]
    rfl

theorem IsLevel.staysOpen {depth : Int} {ls : List Text} (level : IsLevel ls) (opened : 0 < depth) :
    StaysOpen depth ls := by
  induction ls with
  | nil => exact opened
  | cons line ls ih =>
    have here := level line (List.mem_cons_self ..)
    have later := ih fun other member => level other (List.mem_cons_of_mem _ member)
    refine ⟨opened, ?_⟩
    rwa [here, Int.add_zero]

theorem IsLevel.append {a : List Text} (level : IsLevel a) {depth : Int} {b : List Text}
    (next : StaysOpen depth b) : StaysOpen depth (a ++ b) := by
  refine (level.staysOpen next.pos).append ?_
  rwa [level.flatten, Int.add_zero]

theorem bodyLength_append {depth : Int} {ls : List Text} (stays : StaysOpen depth ls) (rest : List Text) :
    bodyLength depth (ls ++ rest) = ls.length + bodyLength (depth + braceBalance ls.flatten) rest := by
  induction ls generalizing depth with
  | nil => simp [braceBalance]
  | cons line ls ih =>
    have later := ih stays.2
    have opened := stays.2.pos
    rw [List.cons_append, bodyLength, if_neg (by omega), later, braceBalance_flatten_cons, List.length_cons,
      Int.add_assoc]
    omega

theorem bodyLength_of_staysOpen {depth : Int} {ls : List Text} (stays : StaysOpen depth ls) :
    bodyLength depth ls = ls.length := by
  have whole := bodyLength_append stays []
  rwa [List.append_nil] at whole

theorem staysOpen_closing {depth : Int} {ls : List Text} (stays : StaysOpen depth ls) :
    StaysOpen (depth + 1) (("\x7d" : Text) :: ls) := by
  have brace : braceBalance ("\x7d" : Text) = -1 := by simp [braceBalance]
  have opened := stays.pos
  have back : depth + 1 + -1 = depth := by omega
  refine ⟨by omega, ?_⟩
  rwa [brace, back]

/-- The enumeration with these lines below those it has. -/
def Unfinished.closedAfter (e : Unfinished) (ls : List Text) : ErrorEnum :=
  { e with body := e.body ++ ls }.finish

/-- An enumeration in which a brace has been opened takes the lines up to the first that closes all, and the
scan goes on behind them. -/
theorem ofLines_opened {e : Unfinished} (opened : e.opened = true) (ls : List Text) :
    ofLines (.inside e) ls =
      e.closedAfter (ls.take (bodyLength e.depth ls)) ::
        ofLines (.outside []) (ls.drop (bodyLength e.depth ls)) := by
  induction ls generalizing e with
  | nil =>
    rw [List.take_nil, List.drop_nil, Unfinished.closedAfter, List.append_nil]
    rfl
  | cons line ls ih =>
    have still : (e.add line).opened = true := by simp [Unfinished.add, opened]
    have depth : (e.add line).depth = e.depth + braceBalance line := rfl
    have added (taken : List Text) : (e.add line).closedAfter taken = e.closedAfter (line :: taken) := by
      simp [Unfinished.closedAfter, Unfinished.add, Unfinished.finish]
    by_cases closes : e.depth + braceBalance line ≤ 0
    · have closed : (e.add line).isClosed = true := by simp [Unfinished.isClosed, still, depth, closes]
      have found := added []
      rw [Unfinished.closedAfter, List.append_nil] at found
      rw [bodyLength_of_closing closes, List.take_succ_cons, List.take_zero, List.drop_succ_cons, List.drop_zero,
        ← found]
      simp [ofLines, Scan.step, Unfinished.next, closed]
    · have unclosed : (e.add line).isClosed = false := by
        simp [Unfinished.isClosed, still, depth]
        omega
      have rest := ih still
      rw [depth, added] at rest
      rw [bodyLength, if_neg closes, List.take_succ_cons, List.drop_succ_cons, ← rest]
      simp [ofLines, Scan.step, Unfinished.next, unclosed]

/-- A declaration that opens a brace takes its own line and those that its depth reaches. -/
theorem ofLines_declaring {line name : Text} (declared : declared? line = some name) (opened : '{' ∈ line)
    {ls : List Text} {n : Nat} (length : bodyLength 0 (line :: ls) = n + 1) (docs : List Text) :
    ofLines (.outside docs) (line :: ls) =
      (Unfinished.start name docs line).closedAfter (ls.take n) :: ofLines (.outside []) (ls.drop n) := by
  have step : Scan.step (.outside docs) line = (Unfinished.start name docs line).next := by
    rw [Scan.step, docComment?_of_declared declared, declared]
  have start : (Unfinished.start name docs line).opened = true := by simp [Unfinished.start, opened]
  have depth : (Unfinished.start name docs line).depth = braceBalance line := rfl
  rw [bodyLength, Int.zero_add] at length
  split at length
  · rename_i closes
    obtain rfl : n = 0 := by omega
    have closed : (Unfinished.start name docs line).isClosed = true := by
      simp [Unfinished.isClosed, start, depth, closes]
    simp [ofLines, step, Unfinished.next, closed, Unfinished.closedAfter]
  · rename_i stays
    obtain rfl : bodyLength (braceBalance line) ls = n := by omega
    have unclosed : (Unfinished.start name docs line).isClosed = false := by
      simp [Unfinished.isClosed, start, depth]
      omega
    have rest := ofLines_opened start ls
    rw [depth] at rest
    rw [← rest]
    simp [ofLines, step, Unfinished.next, unclosed]

end ReferencePages.ErrorEnum
