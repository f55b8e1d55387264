import ReferencePages.Text
/-!
Text as UTF-8 bytes. Bytes are read as a row of pieces, each a character or the longest part of one that
cannot go on; the readers differ only in what they make of such a part.
-/

namespace ReferencePages

/-- The contents of a file. -/
abbrev Bytes := List UInt8

namespace Utf8

/-- The bytes of a text. -/
def encode (s : Text) : Bytes := s.flatMap String.utf8EncodeChar

/-- Why some bytes are no character. -/
inductive Fault
  | start | continuation | endOfData
  deriving DecidableEq, Repr

/-- What some bytes at the start of a text stand for. -/
inductive Piece
  | char (c : Char)
  | invalid (first : UInt8) (length : Nat) (fault : Fault)
  deriving DecidableEq, Repr

/-- The number of bytes of a piece. -/
def Piece.size : Piece → Nat
  | char c => c.utf8Size
  | invalid _ n _ => n

/-- A byte that goes on with a character. -/
def isContinuation (b : UInt8) : Bool := 0x80 ≤ b && b < 0xc0

/-- A byte that may stand second after `first`: some lead bytes allow only a part of the continuation
bytes, so that each character has one form and no form leaves the range of characters. -/
def isSecond (first b : UInt8) : Bool :=
  isContinuation b &&
    !((first == 0xe0 && b < 0xa0) || (first == 0xed && 0xa0 ≤ b) ||
      (first == 0xf0 && b < 0x90) || (first == 0xf4 && 0x90 ≤ b))

/-- The character of a lead byte's bits and of the continuation bytes after it. -/
def assemble (lead : Nat) (continuations : List UInt8) : Char :=
  Char.ofNat (continuations.foldl (fun n b => n * 64 + (b.toNat - 0x80)) lead)

/-- How many continuation bytes follow a lead byte, and the bits that the lead byte holds. -/
def leadByte? (b : UInt8) : Option (Nat × Nat) :=
  let n := b.toNat
  if n < 0x80 then some (0, n)
  else if n < 0xc2 then none
  else if n < 0xe0 then some (1, n - 0xc0)
  else if n < 0xf0 then some (2, n - 0xe0)
  else if n < 0xf5 then some (3, n - 0xf0)
  else none

/-- The continuation bytes after a lead byte, at most `count`; the first one is held to its range. -/
def continuations (first : UInt8) (count : Nat) (bytes : Bytes) : Bytes :=
  match bytes.take count with
  | [] => []
  | b :: more => if isSecond first b then b :: more.takeWhile isContinuation else []

/-- The piece that begins with a byte. -/
def readPiece (first : UInt8) (rest : Bytes) : Piece :=
  match leadByte? first with
  | none => .invalid first 1 .start
  | some (count, bits) =>
    let found := continuations first count rest
    if found.length = count then .char (assemble bits found)
    else if found.length = rest.length then .invalid first (found.length + 1) .endOfData
    else .invalid first (found.length + 1) .continuation

/-- The pieces of the bytes; `skipped` counts the bytes that belong to the piece before. -/
def pieces : (skipped : Nat) → Bytes → List Piece
  | _, [] => []
  | skipped + 1, _ :: rest => pieces skipped rest
  | 0, b :: rest =>
    let piece := readPiece b rest
    piece :: pieces (piece.size - 1) rest

/-- Each invalid piece becomes one replacement character. -/
def decodeReplacing (bytes : Bytes) : Text :=
  (pieces 0 bytes).map fun
    | .char c => c
    | .invalid .. => '\ufffd'

/-- Each invalid piece is left out. -/
def decodeDropping (bytes : Bytes) : Text :=
  (pieces 0 bytes).filterMap fun
    | .char c => some c
    | .invalid .. => none

/-- The first invalid piece and its position. -/
structure DecodeError where
  position : Nat
  first : UInt8
  length : Nat
  fault : Fault
  deriving DecidableEq, Repr

/-- The characters of the pieces from a position on, if none is invalid. -/
def characters : (position : Nat) → List Piece → Except DecodeError Text
  | _, [] => .ok []
  | position, .char c :: rest => (characters (position + c.utf8Size) rest).map (c :: ·)
  | position, .invalid first length fault :: _ => .error { position, first, length, fault }

/-- The text of the bytes, if they are one. -/
def decode (bytes : Bytes) : Except DecodeError Text := characters 0 (pieces 0 bytes)

/-- The reason in words. -/
def Fault.text : Fault → Text
  | start => "invalid start byte"
  | continuation => "invalid continuation byte"
  | endOfData => "unexpected end of data"

/-- Two hexadecimal digits. -/
def hexByte (b : UInt8) : Text :=
  [Nat.digitChar (b.toNat / 16), Nat.digitChar (b.toNat % 16)]

/-- The error in words: which byte or bytes, where, and why. -/
def DecodeError.message (e : DecodeError) : Text :=
  "'utf-8' codec can't decode " ++
    (if e.length = 1 then "byte 0x" ++ hexByte e.first ++ " in position " ++ Text.ofNat e.position
      else "bytes in position " ++ Text.ofNat e.position ++ "-" ++
        Text.ofNat (e.position + e.length - 1)) ++
    ": " ++ e.fault.text

end Utf8
end ReferencePages
