import TenantSchema.Text.Quoted

/-!
# UTF-8

Decoding is strict.  The first sequence that is not the encoding of a character ends it; the
fault tells where the sequence starts, how many of its bytes were read, and why it cannot
be continued.
-/

namespace TenantSchema.Text.Utf8

/-- Why a sequence of bytes is not the encoding of a character. -/
inductive Reason where
  | invalidStart
  | invalidContinuation
  | unexpectedEnd
  deriving Repr, DecidableEq

/-- The first fault of an undecodable sequence of bytes. -/
structure Fault where
  position : Nat
  bytes : List UInt8
  reason : Reason
  deriving Repr, DecidableEq

/-- The words for a reason. -/
def Reason.message : Reason → String
  | .invalidStart =>
      "invalid start byte"
  | .invalidContinuation =>
      "invalid continuation byte"
  | .unexpectedEnd =>
      "unexpected end of data"

/-- One faulty byte is shown by value and position, several by their positions. -/
def Fault.message (fault : Fault) : String :=
  match fault.bytes with
  | [byte] =>
      let value := toOutput (hexDigits 2 byte.toNat)
      s!"'utf-8' codec can't decode byte 0x{value} in position {fault.position}: " ++
        fault.reason.message
  | bytes =>
      let last := fault.position + bytes.length - 1
      s!"'utf-8' codec can't decode bytes in position {fault.position}-{last}: " ++
        fault.reason.message

/-- What the first byte of a character promises. -/
structure Lead where
  /-- The bytes that have to follow. -/
  following : Nat
  /-- The bits that the first byte carries. -/
  bits : Nat
  /-- The least value of the second byte. -/
  lowest : Nat
  /-- The greatest value of the second byte. -/
  highest : Nat

/-- The promise of a first byte, if a character can start with it. -/
def lead? (byte : Nat) : Option Lead :=
  if byte < 0x80 then
    some ⟨0, byte, 0x80, 0xBF⟩
  else if 0xC2 ≤ byte && byte ≤ 0xDF then
    some ⟨1, byte - 0xC0, 0x80, 0xBF⟩
  else if byte = 0xE0 then
    some ⟨2, 0, 0xA0, 0xBF⟩
  else if byte = 0xED then
    some ⟨2, 0xD, 0x80, 0x9F⟩
  else if 0xE1 ≤ byte && byte ≤ 0xEF then
    some ⟨2, byte - 0xE0, 0x80, 0xBF⟩
  else if byte = 0xF0 then
    some ⟨3, 0, 0x90, 0xBF⟩
  else if byte = 0xF4 then
    some ⟨3, 4, 0x80, 0x8F⟩
  else if 0xF1 ≤ byte && byte ≤ 0xF3 then
    some ⟨3, byte - 0xF0, 0x80, 0xBF⟩
  else
    none

/-- Where decoding stands between two bytes. -/
inductive State where
  | start
  /-- Inside a character: bytes owed, bits so far, bounds of the next byte, bytes read. -/
  | inside (owed bits lowest highest : Nat) (read : List UInt8)

/--
Decode from a state; `position` is the offset of the next byte.  A byte that cannot continue
a character is not part of the fault.
-/
def decodeFrom (state : State) (position : Nat) : List UInt8 → Except Fault Text
  | [] =>
      match state with
      | .start =>
          .ok []
      | .inside _ _ _ _ read =>
          .error ⟨position - read.length, read, .unexpectedEnd⟩
  | byte :: rest =>
      match state with
      | .start =>
          match lead? byte.toNat with
          | none =>
              .error ⟨position, [byte], .invalidStart⟩
          | some ⟨0, bits, _, _⟩ =>
              match decodeFrom .start (position + 1) rest with
              | .ok text =>
                  .ok (Char.ofNat bits :: text)
              | .error fault =>
                  .error fault
          | some ⟨owed + 1, bits, lowest, highest⟩ =>
              decodeFrom (.inside (owed + 1) bits lowest highest [byte]) (position + 1) rest
      | .inside owed bits lowest highest read =>
          if lowest ≤ byte.toNat && byte.toNat ≤ highest then
            let bits := bits * 64 + (byte.toNat - 0x80)
            if owed ≤ 1 then
              match decodeFrom .start (position + 1) rest with
              | .ok text =>
                  .ok (Char.ofNat bits :: text)
              | .error fault =>
                  .error fault
            else
              decodeFrom (.inside (owed - 1) bits 0x80 0xBF (read ++ [byte]))
                (position + 1) rest
          else
            .error ⟨position - read.length, read, .invalidContinuation⟩

/-- The text that the bytes encode, or the first fault. -/
def decode? (bytes : List UInt8) : Except Fault Text :=
  decodeFrom .start 0 bytes

/--
Whether a fault may go away when more bytes follow: a character is unfinished at the end.  The
first two bytes of what would encode half a character count as unfinished, too.
-/
def Fault.isUnfinished (fault : Fault) (fromFault : List UInt8) : Bool :=
  match fault.reason, fromFault with
  | .unexpectedEnd, _ =>
      true
  | .invalidContinuation, [first, second] =>
      first == 0xED && 0xA0 ≤ second && second ≤ 0xBF
  | _, _ =>
      false

/-- The text that the bytes of a piece encode, and the bytes of an unfinished character. -/
def decodePiece? (bytes : List UInt8) : Except Fault (Text × List UInt8) :=
  match decode? bytes with
  | .ok text =>
      .ok (text, [])
  | .error fault =>
      let unfinished := bytes.drop fault.position
      if fault.isUnfinished unfinished then
        (decode? (bytes.take fault.position)).map fun text => (text, unfinished)
      else
        .error fault

/-- The bytes that encode a text. -/
def encode (text : Text) : List UInt8 :=
  text.flatMap String.utf8EncodeChar

end TenantSchema.Text.Utf8
