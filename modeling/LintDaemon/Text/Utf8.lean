/-!
# UTF-8

Text as bytes and back. A byte sequence is cut into *pieces*: whole characters, and the longest
runs that begin like a character and then break off.

* `encode`: the bytes of a text.
* `pieces`: the characters and the faults of a byte sequence.
* `decodeLossy`: each fault becomes one replacement character.
* `decode`: the first fault is an error.
* `decodeHeldBack`: as `decodeLossy`, but what is still open at the end is left out, since more
  bytes may come: an incomplete character, and the first two bytes of a surrogate.

Scope: the strict form of UTF-8, without overlong forms, surrogates and values above 10FFFF. The
bytes of a stream are taken as one whole. The decoder that is modelled gets them in pieces and holds
the same bytes back between two pieces, so that where a stream is cut does not matter.
-/

namespace LintDaemon.Text.Utf8

/-- The bytes of a text. -/
def encode (s : List Char) : List UInt8 :=
  s.flatMap String.utf8EncodeChar

/-- Why bytes are no character. -/
inductive FaultKind
  /-- The byte begins no character. -/
  | invalidStart
  /-- The byte after these does not continue the character they begin. -/
  | invalidContinuation
  /-- The bytes end inside a character. -/
  | unexpectedEnd
  deriving DecidableEq, Repr

/-- A piece of a byte sequence. -/
inductive Piece
  /-- A whole character. -/
  | char (c : Char)
  /-- Bytes that are no character. -/
  | fault (kind : FaultKind) (bytes : List UInt8)
  deriving DecidableEq, Repr

/-- A character whose bytes have been read in part: the value of the bits so far, the bytes, and
the ranges in which the bytes still owed must lie. -/
structure Partial where
  /-- The bits read so far. -/
  value : Nat
  /-- The bytes read so far, the last one first. -/
  taken : List UInt8
  /-- The range of the next byte. -/
  next : Nat × Nat
  /-- How many bytes of the range 80 to BF follow that one. -/
  more : Nat
  deriving DecidableEq, Repr

/-- What a first byte says: a whole character, a partial one, or nothing. The narrowed ranges
keep out overlong forms, surrogates, and values above 10FFFF. -/
def lead (b : UInt8) : Piece ⊕ Partial :=
  let n := b.toNat
  if n < 0x80 then .inl (.char (Char.ofNat n))
  else if n < 0xC2 then .inl (.fault .invalidStart [b])
  else if n < 0xE0 then .inr ⟨n - 0xC0, [b], (0x80, 0xBF), 0⟩
  else if n = 0xE0 then .inr ⟨0, [b], (0xA0, 0xBF), 1⟩
  else if n = 0xED then .inr ⟨0xD, [b], (0x80, 0x9F), 1⟩
  else if n < 0xF0 then .inr ⟨n - 0xE0, [b], (0x80, 0xBF), 1⟩
  else if n = 0xF0 then .inr ⟨0, [b], (0x90, 0xBF), 2⟩
  else if n < 0xF4 then .inr ⟨n - 0xF0, [b], (0x80, 0xBF), 2⟩
  else if n = 0xF4 then .inr ⟨4, [b], (0x80, 0x8F), 2⟩
  else .inl (.fault .invalidStart [b])

/-- A partial character with one more byte, if that byte continues it. -/
def Partial.push? (p : Partial) (b : UInt8) : Option (Piece ⊕ Partial) :=
  if p.next.1 ≤ b.toNat ∧ b.toNat ≤ p.next.2 then
    let value := p.value * 64 + (b.toNat - 0x80)
    match p.more with
    | 0 => some (.inl (.char (Char.ofNat value)))
    | k + 1 => some (.inr ⟨value, b :: p.taken, (0x80, 0xBF), k⟩)
  else none

/-- The pieces of a byte sequence read after a partial character, and the partial character left
at the end. -/
def scan : Option Partial → List UInt8 → List Piece × Option Partial
  | p, [] => ([], p)
  | none, b :: rest =>
    match lead b with
    | .inl piece => let (out, last) := scan none rest; (piece :: out, last)
    | .inr p => scan (some p) rest
  | some p, b :: rest =>
    match p.push? b with
    | some (.inl piece) => let (out, last) := scan none rest; (piece :: out, last)
    | some (.inr q) => scan (some q) rest
    | none =>
      let broken := Piece.fault .invalidContinuation p.taken.reverse
      match lead b with
      | .inl piece => let (out, last) := scan none rest; (broken :: piece :: out, last)
      | .inr q => let (out, last) := scan (some q) rest; (broken :: out, last)

/-- The pieces of a byte sequence that has ended. -/
def pieces (bytes : List UInt8) : List Piece :=
  match scan none bytes with
  | (out, none) => out
  | (out, some p) => out ++ [.fault .unexpectedEnd p.taken.reverse]

/-- The character shown for a piece: a fault is shown as one replacement character. -/
def Piece.shown : Piece → Char
  | .char c => c
  | .fault _ _ => '\ufffd'

/-- How many bytes a piece takes. -/
def Piece.size : Piece → Nat
  | .char c => (String.utf8EncodeChar c).length
  | .fault _ bytes => bytes.length

/-- The text of a byte sequence, each fault replaced. -/
def decodeLossy (bytes : List UInt8) : List Char :=
  (pieces bytes).map Piece.shown

/-- Whether two pieces are the first two bytes of a surrogate. They belong to no character, whatever
follows. -/
def isSurrogateStart : Piece → Piece → Bool
  | .fault .invalidContinuation [first], .fault .invalidStart [second] =>
    first == 0xED && 0xA0 ≤ second.toNat && second.toNat ≤ 0xBF
  | _, _ => false

/-- Pieces without the first two bytes of a surrogate at their end: these are given up only when a
third byte comes. -/
def withoutSurrogateStart : List Piece → List Piece
  | [] => []
  | [p] => [p]
  | [p, q] => if isSurrogateStart p q then [] else [p, q]
  | p :: q :: r :: rest => p :: withoutSurrogateStart (q :: r :: rest)

/-- The pieces of a byte sequence that goes on: what is still open at its end is left out. -/
def settledPieces (bytes : List UInt8) : List Piece :=
  match scan none bytes with
  | (out, none) => withoutSurrogateStart out
  | (out, some _) => out

/-- The pieces of what is still open at the end of a byte sequence. -/
def openPieces (bytes : List UInt8) : List Piece :=
  (pieces bytes).drop (settledPieces bytes).length

/-- The text of a byte sequence that goes on. -/
def decodeHeldBack (bytes : List UInt8) : List Char :=
  (settledPieces bytes).map Piece.shown

/-- A fault and where it begins. -/
structure DecodeError where
  /-- The offset of the first byte at fault. -/
  position : Nat
  /-- What is wrong. -/
  kind : FaultKind
  /-- The bytes at fault. -/
  bytes : List UInt8
  deriving DecidableEq, Repr

/-- The characters of pieces that begin at an offset, or the first fault. -/
def charsFrom (position : Nat) : List Piece → Except DecodeError (List Char)
  | [] => .ok []
  | .char c :: rest => do
    let cs ← charsFrom (position + (String.utf8EncodeChar c).length) rest
    return c :: cs
  | .fault kind bytes :: _ => .error ⟨position, kind, bytes⟩

/-- The text of a byte sequence, or its first fault. -/
def decode (bytes : List UInt8) : Except DecodeError (List Char) :=
  charsFrom 0 (pieces bytes)

/-- A byte as two hexadecimal digits. -/
def hexByte (b : UInt8) : String :=
  String.ofList [Nat.digitChar (b.toNat / 16), Nat.digitChar (b.toNat % 16)]

/-- The wording of a kind of fault. -/
def FaultKind.message : FaultKind → String
  | .invalidStart => "invalid start byte"
  | .invalidContinuation => "invalid continuation byte"
  | .unexpectedEnd => "unexpected end of data"

/-- The wording of a decoding error. -/
def DecodeError.message (e : DecodeError) : String :=
  let place :=
    match e.bytes with
    | [b] => "byte 0x" ++ hexByte b ++ " in position " ++ toString e.position
    | bytes =>
      "bytes in position " ++ toString e.position ++ "-" ++
        toString (e.position + bytes.length - 1)
  "'utf-8' codec can't decode " ++ place ++ ": " ++ e.kind.message

end LintDaemon.Text.Utf8
