import ReferencePages.Proofs.Program.Files
import ReferencePages.Proofs.FileTree.Search
/-!
Programs that read. They ask about files and write to the log, so that whatever is true of these steps
is true of everything that is read for a page. The contents of a file are seen at certain paths alone.
-/

namespace ReferencePages.Program

/-- A question about the files that the contents of a file have no part in. -/
def Blind {α : Type} (question : FileTree → Place → α) : Prop :=
  ∀ place t u directory, FileTree.SameBut place t u → question u directory = question t directory

/-- A program that is put together of questions about files and entries in the log, and may fail. It reads
the contents of files at paths that are `sources`. -/
inductive Reads (sources : Path → Prop) : {α : Type} → Program α → Prop
  | pure {α : Type} (a : α) : Reads sources (Pure.pure a : Program α)
  | throw {α : Type} (failure : Failure) : Reads sources (MonadExcept.throw failure : Program α)
  | log (level : LogLevel) (logger text : Text) : Reads sources (Program.log level logger text)
  | asks {α : Type} {question : FileTree → Place → α} (blind : Blind question) :
    Reads sources (Program.asks question)
  | isFile (p : Path) : Reads sources (Program.isFile p)
  | isDirectory (p : Path) : Reads sources (Program.isDirectory p)
  | isReadable (p : Path) : Reads sources (Program.isReadable p)
  | contents {p : Path} (source : sources p) : Reads sources (Program.asks fun t d => t.read d p)
  | bind_of {α β : Type} {p : Program α} {f : α → Program β} (first : Reads sources p)
      (next : ∀ s a t, p.outcome s = (.ok a, t) → Reads sources (f a)) : Reads sources (p >>= f)

namespace Reads

variable {α β ι ε : Type} {sources : Path → Prop}

theorem bind {p : Program α} {f : α → Program β} (first : Reads sources p)
    (next : ∀ a, Reads sources (f a)) : Reads sources (p >>= f) := first.bind_of fun _ a _ _ => next a

theorem ofExcept (failure : ε → Failure) (result : Except ε α) :
    Reads sources (Program.ofExcept failure result) := by
  cases result with
  | ok a => exact .pure a
  | error e => exact .throw (failure e)

theorem readBytes {p : Path} (source : sources p) : Reads sources (Program.readBytes p) :=
  .bind (.contents source) fun _ => ofExcept _ _

theorem readSource {p : Path} (source : sources p) : Reads sources (Program.readSource p) :=
  .bind (readBytes source) fun _ => .pure _

theorem readText {p : Path} (source : sources p) : Reads sources (Program.readText p) :=
  .bind (readBytes source) fun _ => .bind (ofExcept _ _) fun _ => .pure _

theorem forM {f : ι → Program PUnit} (each : ∀ x, Reads sources (f x)) (xs : List ι) :
    Reads sources (xs.forM f) := by
  induction xs with
  | nil => exact .pure _
  | cons x xs ih => exact .bind (each x) fun _ => ih

theorem mapM {f : ι → Program α} {xs : List ι} (each : ∀ x ∈ xs, Reads sources (f x)) :
    Reads sources (xs.mapM f) := by
  induction xs with
  | nil => exact .pure _
  | cons x xs ih =>
    rw [List.mapM_cons]
    exact .bind (each x (List.mem_cons_self ..)) fun _ =>
      .bind (ih fun y member => each y (List.mem_cons_of_mem _ member)) fun _ => .pure _

theorem filterM {f : ι → Program Bool} (each : ∀ x, Reads sources (f x)) (xs : List ι) :
    Reads sources (xs.filterM f) := by
  have collected (acc : List ι) : Reads sources (List.filterAuxM f xs acc) := by
    induction xs generalizing acc with
    | nil => exact .pure _
    | cons x xs ih => exact .bind (each x) fun _ => ih _
  exact .bind (collected []) fun _ => .pure _

/-- A relation between states that every entry in the log keeps is kept by a program that reads. -/
theorem moves {R : Session → Session → Prop} [Steady R]
    (records : ∀ s level logger text, R s (record s level logger text)) {p : Program α}
    (reads : Reads sources p) : Moves R p := by
  induction reads with
  | pure a => exact .pure a
  | throw failure => exact .throw failure
  | log level logger text => exact fun s => records s level logger text
  | asks _ => exact fun s => Steady.refl s
  | isFile p =>
    intro s
    rw [isFile_outcome]
    exact Steady.refl s
  | isDirectory p =>
    intro s
    rw [isDirectory_outcome]
    exact Steady.refl s
  | isReadable p =>
    intro s
    rw [isReadable_outcome]
    exact Steady.refl s
  | contents _ => exact fun s => Steady.refl s
  | bind_of _ _ first next => exact first.bind_of next

end Reads

theorem ofExcept_eq_ok {α ε : Type} {failure : ε → Failure} {result : Except ε α} {a : α} {s t : Session}
    (run : (ofExcept failure result).outcome s = (.ok a, t)) : result = .ok a :=
  (outcome_ofExcept_eq_ok.mp run).1

/-- What is left of a list after a question about each of its members has been in it. -/
theorem mem_of_filterM {ι : Type} {f : ι → Program Bool} {xs kept : List ι} {s t : Session}
    (run : (xs.filterM f).outcome s = (.ok kept, t)) {x : ι} (member : x ∈ kept) : x ∈ xs := by
  have collected {xs acc kept : List ι} {s t : Session}
      (run : (List.filterAuxM f xs acc).outcome s = (.ok kept, t)) : ∀ x ∈ kept, x ∈ xs ∨ x ∈ acc := by
    induction xs generalizing acc s with
    | nil =>
      cases run
      exact fun x member => .inr member
    | cons y ys ih =>
      obtain ⟨holds, u, _, rest⟩ := outcome_bind_eq_ok run
      intro x member
      rcases ih rest x member with later | before
      · exact .inl (List.mem_cons_of_mem _ later)
      · cases holds with
        | false => exact .inr before
        | true =>
          rcases List.mem_cons.mp before with same | before
          · exact .inl (same ▸ List.mem_cons_self ..)
          · exact .inr before
  obtain ⟨reversed, u, first, last⟩ := outcome_bind_eq_ok run
  cases last
  rcases collected first x (List.mem_reverse.mp member) with there | none
  · exact there
  · cases none

end ReferencePages.Program
