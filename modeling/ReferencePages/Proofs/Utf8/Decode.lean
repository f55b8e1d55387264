import ReferencePages.Proofs.Utf8.Form
/-!
Texts and their bytes. Bytes are decoded exactly where they are those of a text, and then to that text. Where the
bytes of a text are cut off, dropping what is no character gives the longest beginning of the text that still fits.
-/

namespace ReferencePages.Utf8

variable {c : Char} {s : Text} {bytes : Bytes}

/-! ### Pieces -/

theorem pieces_eq_drop (skipped : Nat) (bytes : Bytes) : pieces skipped bytes = pieces 0 (bytes.drop skipped) := by
  induction bytes generalizing skipped with
  | nil => cases skipped <;> rfl
  | cons b rest ih =>
    cases skipped with
    | zero => rfl
    | succ skipped => rw [pieces, ih, List.drop_succ_cons]

theorem pieces_cons (b : UInt8) (rest : Bytes) :
    pieces 0 (b :: rest) = readPiece b rest :: pieces 0 (rest.drop ((readPiece b rest).size - 1)) := by
  rw [pieces, pieces_eq_drop]

theorem encode_cons (c : Char) (s : Text) : encode (c :: s) = String.utf8EncodeChar c ++ encode s :=
  List.flatMap_cons ..

/-- The bytes of a character are one piece, whatever follows them. -/
theorem pieces_char (c : Char) (rest : Bytes) :
    pieces 0 (String.utf8EncodeChar c ++ rest) = .char c :: pieces 0 rest := by
  obtain ⟨first, bits, more, bytes, form, same⟩ := exists_form c
  have size : c.utf8Size - 1 = more.length := by
    rw [← String.length_utf8EncodeChar, bytes, List.length_cons, Nat.add_sub_cancel]
  rw [bytes, List.cons_append, pieces_cons, form.readPiece, same, Piece.size, size, List.drop_left]

/-- Some of the bytes of a character, but not all of them, are one piece that is no character. -/
theorem pieces_part {part : Bytes} (starts : part <+: String.utf8EncodeChar c) (some : part ≠ [])
    (short : part.length < c.utf8Size) : ∃ first, pieces 0 part = [.invalid first part.length .endOfData] := by
  obtain ⟨first, bits, more, bytes, form, same⟩ := exists_form c
  obtain ⟨b, part, rfl⟩ := List.exists_cons_of_ne_nil some
  rw [bytes] at starts
  obtain ⟨rfl, begins⟩ := List.cons_prefix_cons.mp starts
  have fewer : part.length < more.length := by
    rw [← String.length_utf8EncodeChar, bytes] at short
    simpa using short
  refine ⟨b, ?_⟩
  rw [pieces_cons, form.readPiece_part begins fewer, Piece.size, Nat.add_sub_cancel, List.drop_length]
  rfl

/-! ### Decoding -/

theorem pieces_encode (s : Text) : pieces 0 (encode s) = s.map .char := by
  induction s with
  | nil => rfl
  | cons c s ih => rw [encode_cons, pieces_char, ih, List.map_cons]

/-- Bytes all of whose pieces are characters are the bytes of these. -/
theorem eq_encode_of_pieces (read : pieces 0 bytes = s.map .char) : bytes = encode s := by
  induction s generalizing bytes with
  | nil =>
    cases bytes with
    | nil => rfl
    | cons b rest => cases read
  | cons c s ih =>
    cases bytes with
    | nil => cases read
    | cons b rest =>
      rw [pieces_cons, List.map_cons] at read
      obtain ⟨first, later⟩ := List.cons.inj read
      obtain ⟨bits, more, behind, rfl, form, same⟩ := exists_form_of_readPiece first
      have written : String.utf8EncodeChar c = b :: more := same ▸ form.encode
      have size : c.utf8Size - 1 = more.length := by
        rw [← String.length_utf8EncodeChar, written, List.length_cons, Nat.add_sub_cancel]
      rw [first, Piece.size, size, List.drop_left] at later
      rw [encode_cons, written, ← ih later, List.cons_append]

/-- Pieces are read as a text where all of them are characters. -/
theorem characters_eq_ok_iff {position : Nat} {found : List Piece} :
    characters position found = .ok s ↔ found = s.map .char := by
  induction found generalizing position s with
  | nil => cases s <;> simp [characters]
  | cons piece found ih =>
    cases piece with
    | invalid first length fault => cases s <;> simp [characters]
    | char c =>
      have first : characters position (.char c :: found) = .ok s ↔
          ∃ rest, characters (position + c.utf8Size) found = .ok rest ∧ c :: rest = s := by
        rw [characters]
        cases characters (position + c.utf8Size) found <;> simp [Except.map]
      rw [first]
      constructor
      · rintro ⟨rest, read, rfl⟩
        rw [ih.mp read, List.map_cons]
      · intro same
        cases s with
        | nil => cases same
        | cons d rest =>
          obtain ⟨⟨⟩, later⟩ := List.cons.inj same
          exact ⟨rest, ih.mpr later, rfl⟩

/-- Bytes are decoded to a text where they are its bytes, and else not at all. -/
theorem decode_eq_ok_iff : decode bytes = .ok s ↔ bytes = encode s := by
  rw [decode, characters_eq_ok_iff]
  refine ⟨eq_encode_of_pieces, ?_⟩
  rintro rfl
  exact pieces_encode s

/-! ### Cutting -/

/-- The longest beginning of a text that takes at most so many bytes. -/
structure IsLongest (limit : Nat) (s kept : Text) : Prop where
  starts : kept <+: s
  fits : (encode kept).length ≤ limit
  longest : ∀ other, other <+: s → (encode other).length ≤ limit → other <+: kept

theorem isLongest_self {limit : Nat} (fits : (encode s).length ≤ limit) : IsLongest limit s s :=
  ⟨List.prefix_rfl, fits, fun _ starts _ => starts⟩

/-- There is one longest beginning. -/
theorem IsLongest.unique {limit : Nat} {kept kept' : Text} (first : IsLongest limit s kept)
    (second : IsLongest limit s kept') : kept = kept' :=
  List.IsPrefix.eq_of_length_le (second.longest kept first.starts first.fits)
    (first.longest kept' second.starts second.fits).length_le

theorem decodeDropping_char (c : Char) (rest : Bytes) :
    decodeDropping (String.utf8EncodeChar c ++ rest) = c :: decodeDropping rest := by
  rw [decodeDropping, pieces_char]
  rfl

/-- Of a character that is cut nothing is left. -/
theorem decodeDropping_part {limit : Nat} (short : limit < c.utf8Size) :
    decodeDropping ((String.utf8EncodeChar c).take limit) = [] := by
  by_cases none : (String.utf8EncodeChar c).take limit = []
  · rw [none]
    rfl
  · have length : ((String.utf8EncodeChar c).take limit).length < c.utf8Size := by
      rw [List.length_take, String.length_utf8EncodeChar]
      omega
    obtain ⟨first, single⟩ := pieces_part (List.take_prefix limit _) none length
    rw [decodeDropping, single]
    rfl

/-- The characters that are left of the first bytes of a text are as many as fit. -/
theorem isLongest_decodeDropping (limit : Nat) (s : Text) :
    IsLongest limit s (decodeDropping ((encode s).take limit)) := by
  induction s generalizing limit with
  | nil =>
    rw [encode, List.flatMap_nil, List.take_nil]
    exact isLongest_self (Nat.zero_le limit)
  | cons c s ih =>
    rw [encode_cons, List.take_append, String.length_utf8EncodeChar]
    by_cases fits : c.utf8Size ≤ limit
    · obtain ⟨starts, within, longest⟩ := ih (limit - c.utf8Size)
      have whole : (String.utf8EncodeChar c).take limit = String.utf8EncodeChar c :=
        List.take_of_length_le (by rwa [String.length_utf8EncodeChar])
      rw [whole, decodeDropping_char]
      refine ⟨(List.prefix_cons_inj c).mpr starts, ?_, fun other begins short => ?_⟩
      · rw [encode_cons, List.length_append, String.length_utf8EncodeChar]
        omega
      · cases other with
        | nil => exact List.nil_prefix
        | cons d other =>
          obtain ⟨rfl, later⟩ := List.cons_prefix_cons.mp begins
          rw [encode_cons, List.length_append, String.length_utf8EncodeChar] at short
          exact (List.prefix_cons_inj d).mpr (longest other later (by omega))
    · -- The cut is within this character, and nothing comes after it.
      have short : limit < c.utf8Size := Nat.lt_of_not_le fits
      have gone : limit - c.utf8Size = 0 := by omega
      rw [gone, List.take_zero, List.append_nil, decodeDropping_part short]
      refine ⟨List.nil_prefix, Nat.zero_le limit, fun other begins within => ?_⟩
      cases other with
      | nil => exact List.nil_prefix
      | cons d other =>
        obtain ⟨rfl, _⟩ := List.cons_prefix_cons.mp begins
        rw [encode_cons, List.length_append, String.length_utf8EncodeChar] at within
        omega

end ReferencePages.Utf8
