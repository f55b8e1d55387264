/-!
Text as a list of characters. Every reader and writer of the library works on this type, so that
scanning is recursion on the text itself and a statement about all texts is an induction.

The operations here are independent of any character class: joining, splitting at a character or at
a word, looking for a word inside a text, and cutting at either end.
-/

namespace ReferencePages

/-- A text is the list of its characters, so positions and lengths count characters. -/
abbrev Text := List Char

instance : Coe String Text := ⟨String.toList⟩

namespace Text

/-- The decimal digits of a natural number. -/
def ofNat (n : Nat) : Text := Nat.toDigits 10 n

/-- The decimal digits of an integer, with a minus sign where it is negative. -/
def ofInt : Int → Text
  | .ofNat n => ofNat n
  | .negSucc n => '-' :: ofNat (n + 1)

/-- The string with these characters. -/
def toString (s : Text) : String := String.ofList s

/-- Drops the characters at the end for which `drop` holds. -/
def trimEndWhile (drop : Char → Bool) : Text → Text
  | [] => []
  | c :: rest =>
    match trimEndWhile drop rest with
    | [] => if drop c then [] else [c]
    | kept => c :: kept

/-- Drops the characters at both ends for which `drop` holds. -/
def trimWhile (drop : Char → Bool) (s : Text) : Text :=
  trimEndWhile drop (s.dropWhile drop)

/-- What follows `word` at the start of the text, if the text starts with it. -/
def after? : (word s : Text) → Option Text
  | [], s => some s
  | _ :: _, [] => none
  | a :: word, c :: s => if a = c then after? word s else none

/-- The text without `word` at its start, or the text itself. -/
def skip (word s : Text) : Text := (after? word s).getD s

/-- Whether the text starts with `word`. -/
def startsWith (word s : Text) : Bool := (after? word s).isSome

/-- Whether the text ends with `word`. -/
def endsWith (word s : Text) : Bool := startsWith word.reverse s.reverse

/-- The text before and after the first place where `word` stands. -/
def splitAtFirst? (word : Text) : Text → Option (Text × Text)
  | [] => (after? word []).map fun rest => ([], rest)
  | c :: s =>
    match after? word (c :: s) with
    | some rest => some ([], rest)
    | none => (splitAtFirst? word s).map fun (before, rest) => (c :: before, rest)

/-- Whether `word` stands anywhere in the text. -/
def contains (word s : Text) : Bool := (splitAtFirst? word s).isSome

/-- What follows the first place from which `read` can read, together with what it read. -/
def findRead? {α : Type} (read : Text → Option α) : Text → Option α
  | [] => read []
  | c :: s =>
    match read (c :: s) with
    | some found => some found
    | none => findRead? read s

/-- The pieces between the occurrences of a character; there is always at least one. -/
def splitOnChar (sep : Char) : Text → List Text
  | [] => [[]]
  | c :: s =>
    if c = sep then [] :: splitOnChar sep s
    else
      match splitOnChar sep s with
      | [] => [[c]]
      | piece :: pieces => (c :: piece) :: pieces

/-- The text before and after the first occurrence of a character. -/
def cutAt (sep : Char) (s : Text) : Text × Option Text :=
  match s.span (· != sep) with
  | (before, []) => (before, none)
  | (before, _ :: rest) => (before, some rest)

/-- The text before and after the last occurrence of a character. -/
def cutAtLast? (sep : Char) (s : Text) : Option (Text × Text) :=
  match s.reverse.span (· != sep) with
  | (_, []) => none
  | (rest, _ :: before) => some (before.reverse, rest.reverse)

/-- The pieces with `sep` between each two neighbours. -/
def joinWith (sep : Text) (pieces : List Text) : Text := List.intercalate sep pieces

/-- Every occurrence of a character exchanged for a text. -/
def replaceChar (old : Char) (new : Text) (s : Text) : Text :=
  s.flatMap fun c => if c = old then new else [c]

/-- The text itself and each shorter end of it. -/
def suffixes : Text → List Text
  | [] => [[]]
  | c :: s => (c :: s) :: suffixes s

/-- The first `n` characters; a negative `n` leaves out that many at the end. -/
def takeSigned (n : Int) (s : Text) : Text :=
  if 0 ≤ n then s.take n.toNat else s.take (s.length - n.natAbs)

/-- The same text with the 26 capital letters made small. The sign of the kelvin is the one other
character whose small form is one of these letters. -/
def lowerCase (s : Text) : Text :=
  s.map fun c => if c = '\u212a' then 'k' else c.toLower

/-- Whether one text comes before another in the order of character numbers. -/
def precedes : Text → Text → Bool
  | _, [] => false
  | [], _ :: _ => true
  | a :: s, b :: t => if a = b then precedes s t else decide (a.toNat < b.toNat)

/-- The texts in the order of character numbers. -/
def sort (texts : List Text) : List Text := texts.mergeSort fun a b => !precedes b a

end Text
end ReferencePages
