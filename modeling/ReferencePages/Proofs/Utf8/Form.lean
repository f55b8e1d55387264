import ReferencePages.Utf8
import Mathlib.Data.List.TakeWhile
/-!
The byte form of characters. Each character has one form, a lead byte that says how many continuation bytes follow;
reading bytes as pieces is the inverse of writing the form, and the beginning of a form is a single piece that cannot
go on.
-/

namespace ReferencePages.Utf8

theorem isContinuation_iff {b : UInt8} : isContinuation b = true ↔ 0x80 ≤ b.toNat ∧ b.toNat < 0xc0 := by
  simp [isContinuation, UInt8.le_iff_toNat_le, UInt8.lt_iff_toNat_lt]

theorem isSecond_iff {first b : UInt8} : isSecond first b = true ↔ isContinuation b = true ∧
    (first.toNat = 0xe0 → 0xa0 ≤ b.toNat) ∧ (first.toNat = 0xed → b.toNat < 0xa0) ∧
    (first.toNat = 0xf0 → 0x90 ≤ b.toNat) ∧ (first.toNat = 0xf4 → b.toNat < 0x90) := by
  simp only [isSecond, Bool.and_eq_true, Bool.not_eq_true', Bool.or_eq_false_iff, Bool.and_eq_false_imp,
    beq_iff_eq, decide_eq_false_iff_not, UInt8.le_iff_toNat_le, UInt8.lt_iff_toNat_lt, ← UInt8.toNat_inj,
    UInt8.reduceToNat, not_le, not_lt, and_assoc]

/-- A lead byte with the bits that it holds and the continuation bytes that it asks for. -/
structure IsForm (first : UInt8) (bits : Nat) (more : Bytes) : Prop where
  lead : leadByte? first = some (more.length, bits)
  second : ∀ b ∈ more.head?, isSecond first b = true
  later : ∀ b ∈ more, isContinuation b = true

variable {first : UInt8} {bits : Nat} {more : Bytes} {c : Char}

/-- What a lead byte says: the number of bytes behind it, and its bits. -/
theorem leadByte?_eq_some_iff {count : Nat} : leadByte? first = some (count, bits) ↔
    count = 0 ∧ bits < 0x80 ∧ first.toNat = bits ∨
    count = 1 ∧ 2 ≤ bits ∧ bits < 0x20 ∧ first.toNat = bits + 0xc0 ∨
    count = 2 ∧ bits < 0x10 ∧ first.toNat = bits + 0xe0 ∨
    count = 3 ∧ bits < 5 ∧ first.toNat = bits + 0xf0 := by
  unfold leadByte?
  dsimp only
  split <;> [skip; split <;> [skip; split <;> [skip; split <;> [skip; split]]]] <;>
    simp only [Option.some.injEq, Prod.mk.injEq, reduceCtorEq, false_iff] <;> omega

/-! ### Reading a form -/

theorem continuations_eq {part bytes : Bytes} {count : Nat} (taken : bytes.take count = part)
    (second : ∀ b ∈ part.head?, isSecond first b = true) (later : ∀ b ∈ part, isContinuation b = true) :
    continuations first count bytes = part := by
  unfold continuations
  rw [taken]
  cases part with
  | nil => rfl
  | cons b part =>
    obtain ⟨_, rest⟩ := List.forall_mem_cons.mp later
    dsimp only
    rw [if_pos (second b rfl), List.takeWhile_eq_self_iff.mpr rest]

/-- The continuation bytes that are found are a beginning of the bytes, each in its range. -/
theorem continuations_found (first : UInt8) (count : Nat) (bytes : Bytes) :
    (continuations first count bytes <+: bytes) ∧
      (∀ b ∈ (continuations first count bytes).head?, isSecond first b = true) ∧
      ∀ b ∈ continuations first count bytes, isContinuation b = true := by
  unfold continuations
  split
  · exact ⟨List.nil_prefix, nofun, nofun⟩
  · rename_i b more taken
    split
    · rename_i second
      refine ⟨?_, ?_, List.forall_mem_cons.mpr ⟨(isSecond_iff.mp second).1, fun d => List.mem_takeWhile_imp⟩⟩
      · refine List.IsPrefix.trans ?_ (List.take_prefix count bytes)
        rw [taken]
        exact (List.prefix_cons_inj b).mpr (List.takeWhile_prefix _)
      · rintro _ ⟨⟩
        exact second
    · exact ⟨List.nil_prefix, nofun, nofun⟩

/-- A form is read whole, whatever follows it. -/
theorem IsForm.readPiece (form : IsForm first bits more) (rest : Bytes) :
    readPiece first (more ++ rest) = .char (assemble bits more) := by
  rw [Utf8.readPiece, form.lead]
  dsimp only
  rw [continuations_eq List.take_left form.second form.later, if_pos rfl]

/-- The beginning of a form is one piece. -/
theorem IsForm.readPiece_part (form : IsForm first bits more) {part : Bytes} (starts : part <+: more)
    (short : part.length < more.length) :
    Utf8.readPiece first part = .invalid first (part.length + 1) .endOfData := by
  have found : continuations first more.length part = part := by
    refine continuations_eq (List.take_of_length_le short.le) (fun b head => ?_) fun b member =>
      form.later b (starts.subset member)
    obtain ⟨behind, same⟩ := starts
    refine form.second b ?_
    rw [← same, List.head?_append, head]
    rfl
  rw [Utf8.readPiece, form.lead]
  dsimp only
  rw [found, if_neg short.ne, if_pos rfl]

/-- What is read as a character has a form. -/
theorem exists_form_of_readPiece {rest : Bytes} (read : Utf8.readPiece first rest = .char c) :
    ∃ bits more behind, rest = more ++ behind ∧ IsForm first bits more ∧ assemble bits more = c := by
  unfold Utf8.readPiece at read
  split at read
  · cases read
  · rename_i count bits lead
    obtain ⟨⟨behind, split⟩, second, later⟩ := continuations_found first count rest
    dsimp only at read
    split at read
    · rename_i whole
      rw [← whole] at lead
      exact ⟨bits, _, behind, split.symm, ⟨lead, second, later⟩, Piece.char.inj read⟩
    · split at read <;> cases read

/-! ### Characters and their forms -/

/-- The number of an assembled character. -/
theorem toNat_assemble (valid : (more.foldl (fun n b => n * 64 + (b.toNat - 0x80)) bits).isValidChar) :
    (assemble bits more).val.toNat = more.foldl (fun n b => n * 64 + (b.toNat - 0x80)) bits := by
  rw [assemble, Char.ofNat, dif_pos valid]
  rfl

/-- Writing the character of a form gives the form. -/
theorem IsForm.encode (form : IsForm first bits more) :
    String.utf8EncodeChar (assemble bits more) = first :: more := by
  obtain ⟨lead, second, later⟩ := form
  have range (b : UInt8) (member : b ∈ more) : 0x80 ≤ b.toNat ∧ b.toNat < 0xc0 :=
    isContinuation_iff.mp (later b member)
  -- In each of the four lengths the bounds on the second byte are those of the numbers written in it.
  rcases leadByte?_eq_some_iff.mp lead with ⟨count, small, same⟩ | ⟨count, low, high, same⟩ |
    ⟨count, high, same⟩ | ⟨count, high, same⟩
  · obtain rfl := List.eq_nil_of_length_eq_zero count
    have value : (assemble bits []).val.toNat = bits := toNat_assemble (.inl (by rw [List.foldl_nil]; omega))
    unfold String.utf8EncodeChar
    rw [value]
    dsimp only
    rw [if_pos (by omega), ← same, UInt8.ofNat_toNat]
  · obtain ⟨x, rfl⟩ := List.length_eq_one_iff.mp count
    have := range x (by simp)
    have value : (assemble bits [x]).val.toNat = bits * 64 + (x.toNat - 0x80) := by
      rw [toNat_assemble] <;> simp only [List.foldl_cons, List.foldl_nil]
      exact .inl (by omega)
    unfold String.utf8EncodeChar
    rw [value]
    dsimp only
    rw [if_neg (by omega), if_pos (by omega)]
    simp only [List.cons.injEq, ← UInt8.toNat_inj, UInt8.toNat_ofNat', and_true]
    omega
  · match more, count with
    | [x, y], _ =>
    have := range x (by simp)
    have := range y (by simp)
    obtain ⟨_, least, surrogate, _, _⟩ := isSecond_iff.mp (second x rfl)
    have value : (assemble bits [x, y]).val.toNat = (bits * 64 + (x.toNat - 0x80)) * 64 + (y.toNat - 0x80) := by
      rw [toNat_assemble] <;> simp only [List.foldl_cons, List.foldl_nil]
      unfold Nat.isValidChar
      omega
    unfold String.utf8EncodeChar
    rw [value]
    dsimp only
    rw [if_neg (by omega), if_neg (by omega), if_pos (by omega)]
    simp only [List.cons.injEq, ← UInt8.toNat_inj, UInt8.toNat_ofNat', and_true]
    omega
  · match more, count with
    | [x, y, z], _ =>
    have := range x (by simp)
    have := range y (by simp)
    have := range z (by simp)
    obtain ⟨_, _, _, least, greatest⟩ := isSecond_iff.mp (second x rfl)
    have value : (assemble bits [x, y, z]).val.toNat =
        ((bits * 64 + (x.toNat - 0x80)) * 64 + (y.toNat - 0x80)) * 64 + (z.toNat - 0x80) := by
      rw [toNat_assemble] <;> simp only [List.foldl_cons, List.foldl_nil]
      unfold Nat.isValidChar
      omega
    unfold String.utf8EncodeChar
    rw [value]
    dsimp only
    rw [if_neg (by omega), if_neg (by omega), if_neg (by omega)]
    simp only [List.cons.injEq, ← UInt8.toNat_inj, UInt8.toNat_ofNat', and_true]
    omega

/-- Every character is written as a form of it. -/
theorem exists_form (c : Char) : ∃ first bits more,
    String.utf8EncodeChar c = first :: more ∧ IsForm first bits more ∧ assemble bits more = c := by
  have valid : c.val.toNat.isValidChar := c.valid
  have ofNumber {bits : Nat} {more : Bytes}
      (value : more.foldl (fun n b => n * 64 + (b.toNat - 0x80)) bits = c.val.toNat) : assemble bits more = c := by
    rw [assemble, value]
    exact Char.ofNat_toNat c
  unfold String.utf8EncodeChar
  dsimp only
  generalize c.val.toNat = v at valid ofNumber ⊢
  unfold Nat.isValidChar at valid
  have tail (n : Nat) : (UInt8.ofNat (n % 0x40 + 0x80)).toNat = n % 0x40 + 0x80 :=
    UInt8.toNat_ofNat_of_lt' (by simp only [UInt8.size]; omega)
  split <;> [skip; split <;> [skip; split]]
  · have lead : (UInt8.ofNat v).toNat = v := UInt8.toNat_ofNat_of_lt' (by simp only [UInt8.size]; omega)
    exact ⟨_, v, _, rfl, ⟨leadByte?_eq_some_iff.mpr (.inl ⟨rfl, by omega, lead⟩), nofun, nofun⟩, ofNumber rfl⟩
  · have lead : (UInt8.ofNat (v / 64 % 0x20 + 0xc0)).toNat = v / 64 + 0xc0 := by
      rw [UInt8.toNat_ofNat_of_lt' (by simp only [UInt8.size]; omega)]
      omega
    refine ⟨_, v / 64, _, rfl,
      ⟨leadByte?_eq_some_iff.mpr (.inr (.inl ⟨rfl, by omega, by omega, lead⟩)), ?_, ?_⟩, ofNumber ?_⟩
    · rintro _ ⟨⟩
      rw [isSecond_iff, isContinuation_iff, lead, tail]
      omega
    · simp only [List.forall_mem_singleton, isContinuation_iff, tail]
      omega
    · simp only [List.foldl_cons, List.foldl_nil, tail]
      omega
  · have lead : (UInt8.ofNat (v / 4096 % 0x10 + 0xe0)).toNat = v / 4096 + 0xe0 := by
      rw [UInt8.toNat_ofNat_of_lt' (by simp only [UInt8.size]; omega)]
      omega
    refine ⟨_, v / 4096, _, rfl,
      ⟨leadByte?_eq_some_iff.mpr (.inr (.inr (.inl ⟨rfl, by omega, lead⟩))), ?_, ?_⟩, ofNumber ?_⟩
    · rintro _ ⟨⟩
      rw [isSecond_iff, isContinuation_iff, lead, tail]
      omega
    · simp only [List.forall_mem_cons, List.not_mem_nil, false_implies, implies_true, and_true, isContinuation_iff,
        tail]
      omega
    · simp only [List.foldl_cons, List.foldl_nil, tail]
      omega
  · have lead : (UInt8.ofNat (v / 262144 % 0x08 + 0xf0)).toNat = v / 262144 + 0xf0 := by
      rw [UInt8.toNat_ofNat_of_lt' (by simp only [UInt8.size]; omega)]
      omega
    refine ⟨_, v / 262144, _, rfl,
      ⟨leadByte?_eq_some_iff.mpr (.inr (.inr (.inr ⟨rfl, by omega, lead⟩))), ?_, ?_⟩, ofNumber ?_⟩
    · rintro _ ⟨⟩
      rw [isSecond_iff, isContinuation_iff, lead, tail]
      omega
    · simp only [List.forall_mem_cons, List.not_mem_nil, false_implies, implies_true, and_true, isContinuation_iff,
        tail]
      omega
    · simp only [List.foldl_cons, List.foldl_nil, tail]
      omega

end ReferencePages.Utf8
