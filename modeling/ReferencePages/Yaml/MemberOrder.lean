import ReferencePages.Yaml.Scalar
/-!
The order in which the members of a set are shown. A set of numbers is a table of places: a number stands
at the place of its remainder, or at the next place that is tried and free, and the members are shown from
the first place to the last. A set with members that are no numbers keeps the order of its text.
-/

namespace ReferencePages.Yaml

namespace MemberOrder

/-- The prime modulo which remainders are taken; the sixty-first power of two leaves one. -/
def modulus : Nat := Binary64.pow2 61 - 1

/-- A remainder with the sign of its number; that of minus one is minus two. -/
def signed (negative : Bool) (n : Nat) : Int :=
  let r : Int := n % modulus
  if negative then (if r = 1 then -2 else -r) else r

/-- The remainder of a number. Powers of two count by their exponents modulo sixty-one, so a fraction has
a remainder too. -/
def remainder? : Scalar → Option Int
  | .boolean b => some (if b then 1 else 0)
  | .integer n => some (signed (n < 0) n.natAbs)
  | .float (.finite negative m e) => some (signed negative (m * Binary64.pow2 (e % 61).toNat))
  | .float (.infinite negative) => some (signed negative 314159)
  | _ => none

/-- The number of places for so many members: more than twice as many from five on. -/
def placeCount (members : Nat) : Nat :=
  if members < 5 then 8 else Binary64.pow2 (Nat.log2 (2 * members) + 1)

/-- The first free place that is tried, beginning with `place`: with it the nine behind it, if there are
so many, and then a place that depends on what is left of the remainder. The fuel bounds the number of
tries. -/
def freePlace (taken : List Nat) (count : Nat) : (fuel : Nat) → (left place : Nat) → Nat
  | 0, _, place => place
  | fuel + 1, left, place =>
    let near := if place + 9 < count then List.range' place 10 else [place]
    match near.find? fun p => !taken.contains p with
    | some p => p
    | none => freePlace taken count fuel (left / 32) ((place * 5 + 1 + left / 32) % count)

/-- Members with their places. -/
def placed (count : Nat) (members : List (Int × Scalar)) : List (Nat × Scalar) :=
  members.foldl (fun table (remainder, member) =>
    let start := (remainder % (Binary64.pow2 64 : Int)).toNat
    (freePlace (table.map (·.1)) count (count + 64) start (start % count), member) :: table) []

/-- The members of a set in the order in which they are shown. -/
def shown (members : List Scalar) : List Scalar :=
  match members.mapM fun m => (remainder? m).map fun r => (r, m) with
  | none => members
  | some numbers =>
    ((placed (placeCount members.length) numbers).mergeSort fun a b => a.1 ≤ b.1).map (·.2)

end MemberOrder
end ReferencePages.Yaml
