/-!
# UTF-8

`Utf8.encode` writes a text as bytes.  `Utf8.decode` reads any bytes, one at a time: a sequence of two to
four bytes is opened by its first byte, which says how many are still owed and between what bounds the
next one lies.  The bytes of a sequence that breaks off are one ill-formed chunk, and each byte that can
open none is another; the byte at which a sequence breaks off is looked at again.
-/

namespace ReviewAssignment.Text.Utf8

def encodeChar (c : Char) : List UInt8 :=
  let n := c.toNat
  let tail (n : Nat) : UInt8 := (0x80 + n % 0x40).toUInt8
  if n < 0x80 then [n.toUInt8]
  else if n < 0x800 then [(0xC0 + n / 0x40).toUInt8, tail n]
  else if n < 0x10000 then [(0xE0 + n / 0x1000).toUInt8, tail (n / 0x40), tail n]
  else [(0xF0 + n / 0x40000).toUInt8, tail (n / 0x1000), tail (n / 0x40), tail n]

def encode (text : String) : List UInt8 :=
  text.toList.flatMap encodeChar

inductive Chunk where
  | char (c : Char)
  /-- So many bytes that are no UTF-8. -/
  | illFormed (length : Nat)
deriving DecidableEq, Repr, Inhabited

/-- A sequence that is not complete yet.  After the next byte, which lies between the bounds, `owed` more
are due. -/
structure Sequence where
  length : Nat
  bits : Nat
  owed : Nat
  low : Nat
  high : Nat
deriving DecidableEq, Repr, Inhabited

/-- The sequence that a byte opens.  The bounds on the second byte keep out numbers that have a shorter
form, surrogates and numbers beyond the last character. -/
def opened? (byte : Nat) : Option Sequence :=
  if 0xC2 ≤ byte ∧ byte ≤ 0xDF then some ⟨1, byte - 0xC0, 0, 0x80, 0xBF⟩
  else if 0xE0 ≤ byte ∧ byte ≤ 0xEF then
    some
      ⟨1, byte - 0xE0, 1, if byte = 0xE0 then 0xA0 else 0x80, if byte = 0xED then 0x9F else 0xBF⟩
  else if 0xF0 ≤ byte ∧ byte ≤ 0xF4 then
    some
      ⟨1, byte - 0xF0, 2, if byte = 0xF0 then 0x90 else 0x80, if byte = 0xF4 then 0x8F else 0xBF⟩
  else none

/-- How far some bytes have been read: what they stand for, last first, and the sequence that is
open. -/
structure Progress where
  read : List Chunk
  pending : Option Sequence
deriving Inhabited

def begin (read : List Chunk) (byte : Nat) : Progress :=
  if byte < 0x80 then ⟨.char (Char.ofNat byte) :: read, none⟩
  else
    match opened? byte with
    | some sequence => ⟨read, some sequence⟩
    | none => ⟨.illFormed 1 :: read, none⟩

def Progress.step (progress : Progress) (byte : UInt8) : Progress :=
  let byte := byte.toNat
  match progress.pending with
  | none => begin progress.read byte
  | some sequence =>
    if sequence.low ≤ byte ∧ byte ≤ sequence.high then
      let bits := 0x40 * sequence.bits + (byte - 0x80)
      match sequence.owed with
      | 0 => ⟨.char (Char.ofNat bits) :: progress.read, none⟩
      | owed + 1 => ⟨progress.read, some ⟨sequence.length + 1, bits, owed, 0x80, 0xBF⟩⟩
    -- The byte that breaks the sequence off may open another one.
    else begin (.illFormed sequence.length :: progress.read) byte

def Progress.finish (progress : Progress) : List Chunk :=
  match progress.pending with
  | none => progress.read.reverse
  | some sequence => (.illFormed sequence.length :: progress.read).reverse

def decode (bytes : List UInt8) : List Chunk :=
  (bytes.foldl Progress.step ⟨[], none⟩).finish

/-- A character; ill-formed bytes are replaced by one replacement character. -/
def Chunk.lossy : Chunk → Char
  | .char c => c
  | .illFormed _ => '\uFFFD'

/-- The text of some bytes, with the replacement character where the bytes are no UTF-8. -/
def decodeLossy (bytes : List UInt8) : String :=
  String.ofList ((decode bytes).map Chunk.lossy)

def Chunk.exact : Chunk → List (Option Char)
  | .char c => [some c]
  | .illFormed length => List.replicate length none

/-- The characters of some bytes, with `none` for each byte that belongs to none. -/
def decodeExact (bytes : List UInt8) : List (Option Char) :=
  (decode bytes).flatMap Chunk.exact

example : decodeExact (encode "aé€😀") = ['a', 'é', '€', '😀'].map some := by decide +kernel

example : decode [0xE2, 0x82, 0x22, 0xED, 0xA0, 0xC3] =
    [.illFormed 2, .char '"', .illFormed 1, .illFormed 1, .illFormed 1] := by
  decide +kernel

end ReviewAssignment.Text.Utf8
