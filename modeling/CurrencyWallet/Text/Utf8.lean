/-!
# Characters as bytes

UTF-8 writes a character as one to four bytes. Bytes that are read back fall into pieces:
a piece is a character, or as few bytes as show that no character begins here, or the
beginning of a character at the very end. A strict reader stops at the first piece that is
no character; a lenient one puts the replacement character in its place.
-/

namespace CurrencyWallet

namespace Text

def encodeUtf8 (cs : List Char) : List UInt8 :=
  cs.flatMap String.utf8EncodeChar

/-- What some bytes in a row are. -/
inductive Utf8Piece where
  /-- The bytes are a character. -/
  | char (c : Char)
  /-- No character begins with this number of bytes and the byte that follows them. -/
  | invalid (length : Nat)
  /-- A character begins, but there are no more bytes. -/
  | incomplete
deriving DecidableEq

/-- What the first byte of a character says about it. -/
structure Utf8Lead where
  /-- The highest bits of the character's number. -/
  value : Nat
  tail : Nat
  /-- The least next byte. -/
  low : Nat := 0x80
  /-- The greatest next byte. -/
  high : Nat := 0xbf

/-- What a byte says about the character that begins with it. The bounds on the next byte
keep out longer spellings than needed, surrogates, and numbers that are too large. -/
def lead? (byte : UInt8) : Option Utf8Lead :=
  let b := byte.toNat
  if b < 0x80 then some ⟨b, 0, 0x80, 0xbf⟩
  else if b < 0xc2 then none
  else if b < 0xe0 then some ⟨b - 0xc0, 1, 0x80, 0xbf⟩
  else if b = 0xe0 then some ⟨0, 2, 0xa0, 0xbf⟩
  else if b = 0xed then some ⟨0xd, 2, 0x80, 0x9f⟩
  else if b < 0xf0 then some ⟨b - 0xe0, 2, 0x80, 0xbf⟩
  else if b = 0xf0 then some ⟨0, 3, 0x90, 0xbf⟩
  else if b < 0xf4 then some ⟨b - 0xf0, 3, 0x80, 0xbf⟩
  else if b = 0xf4 then some ⟨4, 3, 0x80, 0x8f⟩
  else none

/-- Takes `n` more bytes of a character. `value` is what the `seen` bytes before them say,
and the next byte lies between `low` and `high`. -/
def takeTail (value seen low high : Nat) : Nat → List UInt8 → Utf8Piece × List UInt8
  | 0, bs => (.char (Char.ofNat value), bs)
  | _ + 1, [] => (.incomplete, [])
  | n + 1, b :: bs =>
      if low ≤ b.toNat ∧ b.toNat ≤ high then
        takeTail (64 * value + b.toNat % 64) (seen + 1) 0x80 0xbf n bs
      else (.invalid seen, b :: bs)

theorem length_takeTail_le (value seen low high n : Nat) (bs : List UInt8) :
    (takeTail value seen low high n bs).2.length ≤ bs.length := by
  induction n generalizing value seen low high bs with
  | zero => simp [takeTail]
  | succ n ih =>
    cases bs with
    | nil => simp [takeTail]
    | cons b bs =>
      rw [takeTail]
      split
      · exact Nat.le_succ_of_le (ih _ _ _ _ bs)
      · exact Nat.le_refl _

/-- The first piece of some bytes, and the bytes after it. -/
def takePiece (b : UInt8) (bs : List UInt8) : Utf8Piece × List UInt8 :=
  match lead? b with
  | some l => takeTail l.value 1 l.low l.high l.tail bs
  | none => (.invalid 1, bs)

theorem length_takePiece_le (b : UInt8) (bs : List UInt8) :
    (takePiece b bs).2.length ≤ bs.length := by
  unfold takePiece
  split
  · exact length_takeTail_le _ _ _ _ _ bs
  · exact Nat.le_refl _

def utf8Pieces : List UInt8 → List Utf8Piece
  | [] => []
  | b :: bs =>
      (takePiece b bs).1 :: utf8Pieces (takePiece b bs).2
termination_by bs => bs.length
decreasing_by exact Nat.lt_succ_of_le (length_takePiece_le b bs)

/-- Why bytes are no text. -/
inductive Utf8Fault where
  /-- From `index` on there are `length` bytes with which no character begins. -/
  | invalid (length index : Nat)
  /-- The last character, from `index` on, lacks bytes. -/
  | incomplete (index : Nat)
deriving DecidableEq

def Utf8Fault.message : Utf8Fault → String
  | invalid length index => s!"invalid utf-8 sequence of {length} bytes from index {index}"
  | incomplete index => s!"incomplete utf-8 byte sequence from index {index}"

/-- The characters of pieces that begin at `index`. -/
def joinPieces (index : Nat) : List Utf8Piece → Except Utf8Fault (List Char)
  | [] => .ok []
  | .char c :: ps => (joinPieces (index + c.utf8Size) ps).map (c :: ·)
  | .invalid length :: _ => .error (.invalid length index)
  | .incomplete :: _ => .error (.incomplete index)

def decodeUtf8 (bs : List UInt8) : Except Utf8Fault (List Char) :=
  joinPieces 0 (utf8Pieces bs)

/-- The characters written by some bytes, with the replacement character for each piece
that is none. -/
def decodeUtf8Lenient (bs : List UInt8) : List Char :=
  (utf8Pieces bs).map fun
    | .char c => c
    | _ => '\ufffd'

end Text

end CurrencyWallet
