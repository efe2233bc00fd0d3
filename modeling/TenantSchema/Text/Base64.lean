import TenantSchema.Text.Basic

/-!
# Base sixty-four

Four digits of base sixty-four write three bytes.  Characters that are no digits are passed over.
Equals signs fill up the last four; what follows them is not read.
-/

namespace TenantSchema.Text.Base64

/-- The digits of base sixty-four. -/
def alphabet : Text :=
  "ABCDEFGHIJKLMNOPQRSTUVWXYZabcdefghijklmnopqrstuvwxyz0123456789+/".toList

/-- The value of a digit. -/
def value? (character : Char) : Option Nat :=
  alphabet.idxOf? character

/-- The whole bytes that two or more digits write. -/
def bytesOf : List Nat → List UInt8
  | first :: second :: rest =>
      let lead := UInt8.ofNat (first * 4 + second / 16)
      match rest with
      | [] =>
          [lead]
      | third :: last =>
          let middle := UInt8.ofNat (second % 16 * 16 + third / 4)
          lead :: middle :: last.map fun fourth => UInt8.ofNat (third % 4 * 64 + fourth)
  | _ =>
      []

/--
The bytes that a text writes.  `digits` holds the digits since the last whole group, and `filled`
counts the signs that fill it up.
-/
def decodeFrom? (digits : List Nat) (filled : Nat) : Text → Option (List UInt8)
  | [] =>
      if digits.isEmpty then some [] else none
  | character :: rest =>
      if character = '=' then
        if digits.length < 2 then
          decodeFrom? digits filled rest
        else if 4 ≤ digits.length + filled + 1 then
          some (bytesOf digits)
        else
          decodeFrom? digits (filled + 1) rest
      else
        match value? character with
        | none =>
            decodeFrom? digits filled rest
        | some value =>
            let group := digits ++ [value]
            if group.length = 4 then
              (decodeFrom? [] 0 rest).map (bytesOf group ++ ·)
            else
              decodeFrom? group 0 rest

/-- The bytes that a text writes, unless its last group is not filled up. -/
def decode? (text : Text) : Option (List UInt8) :=
  decodeFrom? [] 0 text

end TenantSchema.Text.Base64
