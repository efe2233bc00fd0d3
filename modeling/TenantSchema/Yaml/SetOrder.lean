import TenantSchema.Yaml.Value

/-!
# The order of sets

A set has no order of its own; its members are shown in the order of the places that they take in
a table.  A number takes the place of its code, which is the same for equal numbers of any kind:
the remainder of its size by a prime.  Where that place is taken, the places behind it are tried,
and then places farther away.  A set in which something else than numbers lies is shown in the
order in which it was written.
-/

namespace TenantSchema.Yaml.SetOrder

/-- The prime that sizes of numbers are divided by. -/
def modulus : Nat :=
  Nat.pow 2 61 - 1

/-- The size of the code of the two infinities. -/
def infiniteCode : Nat :=
  314159

/-- The code of a sign and a size, in sixty-four bits; minus one shares the code of minus two. -/
def signedCode (negative : Bool) (size : Nat) : Nat :=
  if negative ∧ size ≠ 0 then Nat.pow 2 64 - (if size = 1 then 2 else size) else size

/--
The code of a number.  As the prime is one below the sixty-first power of two, an exponent of two
counts by its remainder by sixty-one.
-/
def code? : Value → Option Nat
  | .bool value =>
      some (if value then 1 else 0)
  | .int value =>
      some (signedCode (value < 0) (value.natAbs % modulus))
  | .float (.finite negative significand exponent) =>
      let shift := (exponent % 61).toNat
      some (signedCode negative (significand * Nat.pow 2 shift % modulus))
  | .float (.infinite negative) =>
      some (signedCode negative infiniteCode)
  | _ =>
      none

/-- The places of a table, each with the member that takes it. -/
abbrev Table := Array (Option Value)

/-- The count of places of the smallest table. -/
def smallestTable : Nat :=
  8

/-- The most members that lie in the smallest table. -/
def fewMembers : Nat :=
  4

/-- Double a size until it is greater than a bound.  The fuel bounds the doublings. -/
def doubleBeyond (bound : Nat) : Nat → (size : Nat) → Nat
  | 0, size =>
      size
  | fuel + 1, size =>
      if size ≤ bound then doubleBeyond bound fuel (size * 2) else size

/-- The count of places of a table for a count of members: more than two for each of them. -/
def tableSize (members : Nat) : Nat :=
  if members ≤ fewMembers then
    smallestTable
  else
    doubleBeyond (members * 2) members smallestTable

/-- The count of places that are tried behind a place. -/
def runLength : Nat :=
  9

/-- The places that are tried together: some that follow each other, or one at the end. -/
def run (size place : Nat) : List Nat :=
  if place + runLength < size then List.range' place (runLength + 1) else [place]

/--
The free place for a member of which `rest` is the part of the code that has not yet counted.  The
fuel bounds the jumps.
-/
def freePlace? (table : Table) : Nat → (place rest : Nat) → Option Nat
  | 0, _, _ =>
      none
  | fuel + 1, place, rest =>
      match (run table.size place).find? fun tried => (table.getD tried none).isNone with
      | some free =>
          some free
      | none =>
          let rest := rest / 32
          freePlace? table fuel ((place * 5 + 1 + rest) % table.size) rest

/-- The bits of a code. -/
def codeBits : Nat :=
  64

/-- Put a member with a code into a table. -/
def put (table : Table) (code : Nat) (member : Value) : Table :=
  match freePlace? table (table.size + codeBits) (code % table.size) code with
  | some place =>
      table.setIfInBounds place (some member)
  | none =>
      table

/-- The members of a set in the order in which they are shown. -/
def arrange (members : List Value) : List Value :=
  match members.mapM code? with
  | none =>
      members
  | some codes =>
      let table : Table := Array.replicate (tableSize members.length) none
      let filled :=
        (codes.zip members).foldl (fun table (code, member) => put table code member) table
      filled.toList.filterMap id

end TenantSchema.Yaml.SetOrder
