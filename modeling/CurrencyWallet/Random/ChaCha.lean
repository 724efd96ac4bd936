import CurrencyWallet.Power
import CurrencyWallet.Random.Source

/-!
# The key stream of ChaCha

A source of random words: the key stream of ChaCha with twelve rounds, a block
counter of 64 bits that starts at zero, and no nonce. A key of 256 bits is made
from a seed of 64 bits by a congruential generator whose output is permuted.
-/

namespace CurrencyWallet

namespace ChaCha

def rotateLeft (x : UInt32) (n : UInt32) : UInt32 :=
  (x <<< n) ||| (x >>> (32 - n))

/-- The state of the cipher, four words in each of four rows. -/
abbrev Block := Vector UInt32 16

def quarterRound (s : Block) (a b c d : Fin 16) : Block :=
  let s := s.set a (s[a] + s[b])
  let s := s.set d (rotateLeft (s[d] ^^^ s[a]) 16)
  let s := s.set c (s[c] + s[d])
  let s := s.set b (rotateLeft (s[b] ^^^ s[c]) 12)
  let s := s.set a (s[a] + s[b])
  let s := s.set d (rotateLeft (s[d] ^^^ s[a]) 8)
  let s := s.set c (s[c] + s[d])
  s.set b (rotateLeft (s[b] ^^^ s[c]) 7)

def doubleRound (s : Block) : Block :=
  let s := quarterRound s 0 4 8 12
  let s := quarterRound s 1 5 9 13
  let s := quarterRound s 2 6 10 14
  let s := quarterRound s 3 7 11 15
  let s := quarterRound s 0 5 10 15
  let s := quarterRound s 1 6 11 12
  let s := quarterRound s 2 7 8 13
  quarterRound s 3 4 9 14

/-- The state before the rounds: four constants, the key, the block counter and an empty
nonce. -/
def initial (key : Vector UInt32 8) (counter : Nat) : Block :=
  #v[0x61707865, 0x3320646e, 0x79622d32, 0x6b206574,
    key[0], key[1], key[2], key[3], key[4], key[5], key[6], key[7],
    UInt32.ofNat counter, UInt32.ofNat (counter / 2 ^ (32 : Nat)), 0, 0]

def block (key : Vector UInt32 8) (counter : Nat) : Block :=
  let start := initial key counter
  (Nat.repeat doubleRound 6 start).zipWith (· + ·) start

/-- A key stream that has been read up to some point. -/
structure Stream where
  key : Vector UInt32 8
  counter : Nat
  /-- The words of the last block that have not been read yet. -/
  pending : List UInt32

/-- The next word of a stream. There are `2 ^ 64` blocks. -/
def Stream.next? (s : Stream) : Option (UInt32 × Stream) :=
  match s.pending with
  | w :: ws => some (w, { s with pending := ws })
  | [] =>
      if s.counter < 2 ^ (64 : Nat) then
        let words := block s.key s.counter
        some (words[0], { s with counter := s.counter + 1, pending := words.toList.tail })
      else none

/-- The number of words that have not been read yet. -/
def Stream.remaining (s : Stream) : Nat :=
  s.pending.length + 16 * (2 ^ (64 : Nat) - s.counter)

theorem Stream.remaining_lt {s s' : Stream} {w : UInt32} (h : s.next? = some (w, s')) :
    s'.remaining < s.remaining := by
  unfold next? at h
  split at h
  · next a ws hp =>
      simp only [Option.some.injEq, Prod.mk.injEq] at h
      simp [remaining, ← h.2, hp]
  · next hp =>
      split at h
      · next hc =>
          simp only [Option.some.injEq, Prod.mk.injEq] at h
          simp only [remaining, ← h.2, hp, List.length_tail, Vector.length_toList,
            List.length_nil]
          omega
      · simp at h

instance : WordSource Stream where
  next? := Stream.next?
  remaining := Stream.remaining
  remaining_lt := Stream.remaining_lt

/-- One step of the generator of key words: its new state, and the word that
the state stands for. -/
def keyStep (state : UInt64) : UInt64 × UInt32 :=
  let state := state * 6364136223846793005 + 11634580027462260723
  let mixed := (((state >>> 18) ^^^ state) >>> 27).toUInt32
  let turn := (state >>> 59).toUInt32
  (state, (mixed >>> turn) ||| (mixed <<< ((32 - turn) % 32)))

def keyWords (state : UInt64) : Nat → List UInt32
  | 0 => []
  | n + 1 =>
      let (state, word) := keyStep state
      word :: keyWords state n

theorem length_keyWords (state : UInt64) (n : Nat) : (keyWords state n).length = n := by
  induction n generalizing state with
  | zero => rfl
  | succ n ih => simp [keyWords, ih]

def Stream.ofSeed (seed : UInt64) : Stream where
  key := ⟨(keyWords seed 8).toArray, by simp [length_keyWords]⟩
  counter := 0
  pending := []

end ChaCha

end CurrencyWallet
