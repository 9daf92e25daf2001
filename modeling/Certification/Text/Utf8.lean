/-!
# UTF-8

Decoding of bytes into text, one byte at a time. The decoder yields a character for every well
formed sequence and a gap for every maximal piece that no well formed sequence continues, so that
strict decoding (no gap allowed) and lossy decoding (a gap becomes U+FFFD) are two readings of one
result.
-/

namespace Certification.Text.Utf8

/-- Where decoding stands between two bytes. -/
inductive State where
  /-- Between two characters. -/
  | start
  /-- Inside a character: bytes still owed, the range of the next one, and the bits so far. -/
  | owing (left : Nat) (low high : Nat) (bits : Nat)
  deriving DecidableEq, Repr

/-- A decoded character, or `none` for bytes that form none. -/
abbrev Piece := Option Char

/-- Reads the first byte of a character. -/
def first (b : Nat) : List Piece × State :=
  if b < 0x80 then ([some (Char.ofNat b)], .start)
  else if 0xC2 ≤ b ∧ b ≤ 0xDF then ([], .owing 1 0x80 0xBF (b - 0xC0))
  else if b = 0xE0 then ([], .owing 2 0xA0 0xBF 0)
  else if b = 0xED then ([], .owing 2 0x80 0x9F 0xD)
  else if 0xE1 ≤ b ∧ b ≤ 0xEF then ([], .owing 2 0x80 0xBF (b - 0xE0))
  else if b = 0xF0 then ([], .owing 3 0x90 0xBF 0)
  else if 0xF1 ≤ b ∧ b ≤ 0xF3 then ([], .owing 3 0x80 0xBF (b - 0xF0))
  else if b = 0xF4 then ([], .owing 3 0x80 0x8F 4)
  else ([none], .start)

/-- Reads one byte. A byte that cannot continue the open character ends it as a gap and is read
again as a first byte. -/
def step : State → Nat → List Piece × State
  | .start, b => first b
  | .owing left low high bits, b =>
    if low ≤ b ∧ b ≤ high then
      let bits := bits * 64 + (b - 0x80)
      if left ≤ 1 then ([some (Char.ofNat bits)], .start)
      else ([], .owing (left - 1) 0x80 0xBF bits)
    else
      let next := first b
      (none :: next.1, next.2)

/-- What the end of the bytes adds: a gap when a character is still open. -/
def finish : State → List Piece
  | .start => []
  | .owing .. => [none]

/-- Pieces of the bytes that follow a state. -/
def piecesFrom : State → List UInt8 → List Piece
  | s, [] => finish s
  | s, b :: bs =>
    let next := step s b.toNat
    next.1 ++ piecesFrom next.2 bs

/-- Pieces of a sequence of bytes. -/
def pieces (bytes : List UInt8) : List Piece := piecesFrom .start bytes

/-- Text of a sequence of bytes, if every piece is a character. -/
def decode (bytes : List UInt8) : Option String :=
  let ps := pieces bytes
  if ps.all Option.isSome then some (String.ofList (ps.filterMap id)) else none

/-- Text of a sequence of bytes in which every gap becomes the replacement character
(`from_utf8_lossy`). -/
def decodeLossy (bytes : List UInt8) : List Char :=
  (pieces bytes).map (·.getD '\uFFFD')

/-- Characters before the first gap, and whether there is one. -/
def decodeUntilGap (bytes : List UInt8) : List Char × Bool :=
  let ps := pieces bytes
  ((ps.takeWhile Option.isSome).filterMap id, ps.any Option.isNone)

/-- Bytes of a text. -/
def encode (s : String) : List UInt8 := s.toUTF8.toList

/-- No bytes decode to no pieces. -/
theorem pieces_nil : pieces [] = [] := rfl

end Certification.Text.Utf8
