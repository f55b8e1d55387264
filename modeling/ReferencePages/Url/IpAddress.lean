import ReferencePages.Text.Digit
import ReferencePages.Json.Reader
/-!
Internet addresses in their text forms: four numbers with points between them, or up to eight
hexadecimal groups with colons between them, of which one row of zeros may be left out.
-/

namespace ReferencePages

/-- An address of either version. -/
inductive IpAddress
  | v4 (octets : List Nat)
  | v6 (groups : List Nat)
  deriving DecidableEq, Repr

namespace IpAddress

/-- One of the four numbers: at most three digits, no zero in front, at most 255. -/
def octet? (s : Text) : Option Nat := do
  let n ← Text.toNat? s
  if 3 < s.length || (s ≠ "0" && s.head? = some '0') || 255 < n then none else some n

/-- The four numbers of an address. -/
def octets? (s : Text) : Option (List Nat) := do
  let octets ← (Text.splitOnChar '.' s).mapM octet?
  if octets.length = 4 then some octets else none

/-- One group: at most four hexadecimal digits. -/
def group? (s : Text) : Option Nat := do
  let digits ← s.mapM Json.hexDigit?
  if 4 < s.length || s.isEmpty then none else some (digits.foldl (fun n d => 16 * n + d) 0)

/-- The pieces between colons, a last piece with points in it written as two groups. -/
def pieces? (s : Text) : Option (List (Option Nat)) := do
  let parts := Text.splitOnChar ':' s
  let last ← parts.getLast?
  if parts.length < 3 then none
  else
    let readPiece (part : Text) : Option (Option Nat) :=
      if part.isEmpty then some none else (group? part).map some
    if last.elem '.' then
      match ← octets? last with
      | [a, b, c, d] =>
        (parts.dropLast.mapM readPiece).map (· ++ [some (256 * a + b), some (256 * c + d)])
      | _ => none
    else parts.mapM readPiece

/-- The groups before and after the place where a row of zeros is left out. -/
def groups? (pieces : List (Option Nat)) : Option (List Nat) := do
  if 9 < pieces.length then none
  else
    let inner := (pieces.drop 1).dropLast
    match inner.findIdx? (·.isNone) with
    | none =>
      let groups ← pieces.mapM id
      if groups.length = 8 then some groups else none
    | some i =>
      let before := pieces.take (i + 1)
      let after := pieces.drop (i + 2)
      let before := if before = [none] then [] else before
      let after := if after = [none] then [] else after
      let high ← before.mapM id
      let low ← after.mapM id
      if 8 ≤ high.length + low.length then none
      else some (high ++ List.replicate (8 - high.length - low.length) 0 ++ low)

/-- The address without the name of a zone behind a percent sign, which may not be empty. -/
def withoutZone? (s : Text) : Option Text :=
  match Text.cutAt '%' s with
  | (address, none) => some address
  | (address, some zone) => if zone.isEmpty || zone.elem '%' then none else some address

/-- The address that a text denotes. -/
def ofText? (s : Text) : Option IpAddress :=
  match octets? s with
  | some octets => some (v4 octets)
  | none =>
    if s.elem '/' then none
    else (withoutZone? s).bind fun address => (pieces? address).bind fun p => (groups? p).map v6

/-- Whether an address stands for the machine itself. -/
def isLoopback : IpAddress → Bool
  | v4 octets => octets.head? = some 127
  | v6 groups => groups = [0, 0, 0, 0, 0, 0, 0, 1]

end IpAddress
end ReferencePages
