import Mathlib.Tactic.IntervalCases
import TenantSchema.Text.Utf8

namespace TenantSchema.Text.Utf8

/-!
# Encoded texts

Decoding takes the bytes of one character after the other.  The first byte of a character tells
how many bytes follow; each of these adds six bits, and the last one completes the character.  What
is encoded in UTF-8 is therefore decoded again.
-/

/-- The least second byte of a character whose first byte promises two or three others. -/
def leastSecond (bits least : Nat) : Nat :=
  if bits = 0 then least else 0x80

/-- The greatest second byte of a character whose first byte promises two or three others. -/
def greatestSecond (bits lastBits greatest : Nat) : Nat :=
  if bits = lastBits then greatest else 0xBF

/-- A first byte between `C2` and `DF` promises one more. -/
theorem lead?_of_two
    {bits : Nat}
    (least : 2 ≤ bits)
    (bounded : bits < 32) :
    lead? (UInt8.ofNat (bits + 0xC0)).toNat = some ⟨1, bits, 0x80, 0xBF⟩ := by
  interval_cases bits <;> rfl

/-- A first byte between `E0` and `EF` promises two more. -/
theorem lead?_of_three
    {bits : Nat}
    (bounded : bits < 16) :
    lead? (UInt8.ofNat (bits + 0xE0)).toNat =
      some ⟨2, bits, leastSecond bits 0xA0, greatestSecond bits 13 0x9F⟩ := by
  interval_cases bits <;> rfl

/-- A first byte between `F0` and `F4` promises three more. -/
theorem lead?_of_four
    {bits : Nat}
    (bounded : bits < 5) :
    lead? (UInt8.ofNat (bits + 0xF0)).toNat =
      some ⟨3, bits, leastSecond bits 0x90, greatestSecond bits 4 0x8F⟩ := by
  interval_cases bits <;> rfl

section

variable
  {byte : UInt8}
  {rest read : List UInt8}
  {text : Text}
  {owed bits lowest highest position : Nat}

/-- A byte of the seven-bit range is a character. -/
theorem decodeFrom_single
    (plain : byte.toNat < 0x80)
    (decodes : decodeFrom .start (position + 1) rest = .ok text) :
    decodeFrom .start position (byte :: rest) = .ok (Char.ofNat byte.toNat :: text) := by
  have promised : lead? byte.toNat = some ⟨0, byte.toNat, 0x80, 0xBF⟩ :=
    if_pos plain
  simp only [decodeFrom, promised, decodes]

/-- A first byte that promises others opens a character. -/
theorem decodeFrom_opening
    (promised : lead? byte.toNat = some ⟨owed + 1, bits, lowest, highest⟩) :
    decodeFrom .start position (byte :: rest) =
      decodeFrom (.inside (owed + 1) bits lowest highest [byte]) (position + 1) rest := by
  simp only [decodeFrom, promised]

/-- A byte with others to follow adds six bits. -/
theorem decodeFrom_continuing
    (atLeast : lowest ≤ byte.toNat)
    (atMost : byte.toNat ≤ highest) :
    decodeFrom (.inside (owed + 2) bits lowest highest read) position (byte :: rest) =
      decodeFrom
        (.inside (owed + 1) (bits * 64 + (byte.toNat - 0x80)) 0x80 0xBF (read ++ [byte]))
        (position + 1) rest := by
  simp [decodeFrom, atLeast, atMost]

/-- The last byte completes the character. -/
theorem decodeFrom_completing
    (atLeast : lowest ≤ byte.toNat)
    (atMost : byte.toNat ≤ highest)
    (decodes : decodeFrom .start (position + 1) rest = .ok text) :
    decodeFrom (.inside 1 bits lowest highest read) position (byte :: rest) =
      .ok (Char.ofNat (bits * 64 + (byte.toNat - 0x80)) :: text) := by
  simp [decodeFrom, atLeast, atMost, decodes]

end

/-- Six bits of a code make a byte that may continue a character. -/
theorem toNat_continuation (number : Nat) :
    (UInt8.ofNat (number % 64 + 128)).toNat = number % 64 + 128 := by
  have bounded : number % 64 + 128 < 256 := by
    omega
  exact UInt8.toNat_ofNat_of_lt bounded

section

variable
  {rest : List UInt8}
  {text : Text}
  {code position : Nat}
  (decodes : ∀ position, decodeFrom .start position rest = .ok text)

include decodes

theorem decodeFrom_one
    (bounded : code ≤ 0x7F) :
    decodeFrom .start position (UInt8.ofNat code :: rest) = .ok (Char.ofNat code :: text) := by
  have small : code < 256 := by
    omega
  have byte : (UInt8.ofNat code).toNat = code := UInt8.toNat_ofNat_of_lt small
  rw [decodeFrom_single (by omega) (decodes _), byte]

theorem decodeFrom_two
    (least : 0x80 ≤ code)
    (bounded : code ≤ 0x7FF) :
    decodeFrom .start position
        (UInt8.ofNat (code / 64 % 32 + 192) :: UInt8.ofNat (code % 64 + 128) :: rest) =
      .ok (Char.ofNat code :: text) := by
  have bits : code / 64 % 32 = code / 64 := by
    omega
  have last := toNat_continuation code
  have assembled : code / 64 * 64 + (code % 64 + 128 - 0x80) = code := by
    omega
  rw [bits, decodeFrom_opening (lead?_of_two (by omega) (by omega)),
    decodeFrom_completing (by omega) (by omega) (decodes _), last, assembled]

/-- The bounds of the second byte leave out the halves of pairs, from `D800` to `DFFF`. -/
theorem decodeFrom_three
    (least : 0x800 ≤ code)
    (bounded : code ≤ 0xFFFF)
    (whole : code < 0xD800 ∨ 0xDFFF < code) :
    decodeFrom .start position
        (UInt8.ofNat (code / 4096 % 16 + 224) :: UInt8.ofNat (code / 64 % 64 + 128) ::
          UInt8.ofNat (code % 64 + 128) :: rest) =
      .ok (Char.ofNat code :: text) := by
  have bits : code / 4096 % 16 = code / 4096 := by
    omega
  have second := toNat_continuation (code / 64)
  have last := toNat_continuation code
  have atLeast :
      leastSecond (code / 4096) 0xA0 ≤ (UInt8.ofNat (code / 64 % 64 + 128)).toNat := by
    unfold leastSecond
    split <;> omega
  have atMost :
      (UInt8.ofNat (code / 64 % 64 + 128)).toNat ≤ greatestSecond (code / 4096) 13 0x9F := by
    unfold greatestSecond
    split <;> omega
  have assembled :
      (code / 4096 * 64 + (code / 64 % 64 + 128 - 0x80)) * 64 + (code % 64 + 128 - 0x80) =
        code := by
    omega
  rw [bits, decodeFrom_opening (lead?_of_three (by omega)),
    decodeFrom_continuing atLeast atMost,
    decodeFrom_completing (by omega) (by omega) (decodes _), second, last, assembled]

/-- The bounds of the second byte keep to the codes from `10000` to `10FFFF`. -/
theorem decodeFrom_four
    (least : 0x10000 ≤ code)
    (bounded : code < 0x110000) :
    decodeFrom .start position
        (UInt8.ofNat (code / 262144 % 8 + 240) :: UInt8.ofNat (code / 4096 % 64 + 128) ::
          UInt8.ofNat (code / 64 % 64 + 128) :: UInt8.ofNat (code % 64 + 128) :: rest) =
      .ok (Char.ofNat code :: text) := by
  have bits : code / 262144 % 8 = code / 262144 := by
    omega
  have second := toNat_continuation (code / 4096)
  have third := toNat_continuation (code / 64)
  have last := toNat_continuation code
  have atLeast :
      leastSecond (code / 262144) 0x90 ≤ (UInt8.ofNat (code / 4096 % 64 + 128)).toNat := by
    unfold leastSecond
    split <;> omega
  have atMost :
      (UInt8.ofNat (code / 4096 % 64 + 128)).toNat ≤ greatestSecond (code / 262144) 4 0x8F := by
    unfold greatestSecond
    split <;> omega
  have assembled :
      ((code / 262144 * 64 + (code / 4096 % 64 + 128 - 0x80)) * 64 +
          (code / 64 % 64 + 128 - 0x80)) * 64 + (code % 64 + 128 - 0x80) =
        code := by
    omega
  rw [bits, decodeFrom_opening (lead?_of_four (by omega)),
    decodeFrom_continuing atLeast atMost, decodeFrom_continuing (by omega) (by omega),
    decodeFrom_completing (by omega) (by omega) (decodes _), second, third, last, assembled]

/-- The bytes of one character are decoded to it, whatever follows. -/
theorem decodeFrom_utf8EncodeChar_append
    (character : Char)
    (position : Nat) :
    decodeFrom .start position (String.utf8EncodeChar character ++ rest) =
      .ok (character :: text) := by
  have valid : character.toNat < 0xD800 ∨ 0xDFFF < character.toNat ∧ character.toNat < 0x110000 :=
    character.valid
  have kept : Char.ofNat character.toNat = character := Char.ofNat_toNat character
  have code : character.val.toNat = character.toNat := rfl
  rw [String.utf8EncodeChar, code]
  split_ifs with one two three
  · rw [List.singleton_append, decodeFrom_one decodes one, kept]
  · rw [List.cons_append, List.singleton_append, decodeFrom_two decodes (by omega) two, kept]
  · rw [List.cons_append, List.cons_append, List.singleton_append,
      decodeFrom_three decodes (by omega) three (by omega), kept]
  · rw [List.cons_append, List.cons_append, List.cons_append, List.singleton_append,
      decodeFrom_four decodes (by omega) (by omega), kept]

end

/-- What is encoded is decoded again. -/
theorem decode?_encode (text : Text) :
    decode? (encode text) = .ok text := by
  have anywhere (position : Nat) : decodeFrom .start position (encode text) = .ok text := by
    induction text generalizing position with
    | nil =>
        rfl
    | cons character rest inductionHypothesis =>
        rw [encode, List.flatMap_cons, ← encode]
        exact decodeFrom_utf8EncodeChar_append inductionHypothesis character position
  exact anywhere 0

end TenantSchema.Text.Utf8
