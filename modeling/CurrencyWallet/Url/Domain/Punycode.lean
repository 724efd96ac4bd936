import CurrencyWallet.Power
import CurrencyWallet.Text.Split

/-!
# Letters in digits of base 36

A part of a domain name may give its letters beyond ASCII in letters and digits of ASCII. The
characters of ASCII come first. Each number behind them says which character is added next and
where, the characters in ascending order; the digits of a number have weights that depend on
the numbers before it.
-/

namespace CurrencyWallet

namespace Url

/-- The value of a digit of base 36: the letters come first. -/
def digit36? (c : Char) : Option Nat :=
  if 'a' ≤ c ∧ c ≤ 'z' then some (c.toNat - 'a'.toNat)
  else if 'A' ≤ c ∧ c ≤ 'Z' then some (c.toNat - 'A'.toNat)
  else if '0' ≤ c ∧ c ≤ '9' then some (c.toNat - '0'.toNat + 26)
  else none

/-- From which value on a digit is followed by another one. -/
def threshold (bias position : Nat) : Nat :=
  max 1 (min 26 (position - bias))

/-- Reads one number of variable length. `weight` is what a one in the next digit counts. -/
def takeNumber? (bias : Nat) (position weight value : Nat) :
    List Char → Option (Nat × List Char)
  | [] => none
  | c :: cs => do
      let d ← digit36? c
      let t := threshold bias position
      if d < t then some (value + d * weight, cs)
      else takeNumber? bias (position + 36) (weight * (36 - t)) (value + d * weight) cs

theorem length_takeNumber?_lt {bias position weight value n : Nat} {cs rest : List Char}
    (h : takeNumber? bias position weight value cs = some (n, rest)) :
    rest.length < cs.length := by
  induction cs generalizing position weight value with
  | nil => simp [takeNumber?] at h
  | cons c cs ih =>
    rw [takeNumber?] at h
    cases hd : digit36? c with
    | none => simp [hd] at h
    | some d =>
      simp only [hd, Option.bind_eq_bind, Option.bind_some] at h
      split at h
      · simp only [Option.some.injEq, Prod.mk.injEq] at h
        simp [← h.2]
      · exact Nat.lt_succ_of_lt (ih h)

/-- Divides by 35 until the number is small enough, and counts 36 for each time. -/
def damp (position delta : Nat) : Nat × Nat :=
  if 455 < delta then damp (position + 36) (delta / 35) else (position, delta)
termination_by delta
decreasing_by omega

/-- The bias for the next number, after one that has added a character. -/
def nextBias (delta count : Nat) (first : Bool) : Nat :=
  let delta := if first then delta / 700 else delta / 2
  let (position, delta) := damp 0 (delta + delta / count)
  position + 36 * delta / (delta + 38)

/-- Puts the characters in that the digits say. `bound` is the number of the last one. -/
def insertChars? (bound index bias : Nat) (cs : List Char) :
    List Char → Option (List Char)
  | [] => some cs
  | d :: ds =>
      match h : takeNumber? bias 36 1 0 (d :: ds) with
      | none => none
      | some (delta, rest) =>
          have := length_takeNumber?_lt h
          let count := cs.length + 1
          let n := bound + (index + delta) / count
          let i := (index + delta) % count
          if n.isValidChar then
            insertChars? n (i + 1) (nextBias delta count (index = 0))
              (cs.take i ++ Char.ofNat n :: cs.drop i) rest
          else none
termination_by ds => ds.length
decreasing_by assumption

/-- The letters that are given in digits. Those of ASCII come first, up to the last hyphen;
where there are none, there is no hyphen. -/
def decodeLabel? (cs : List Char) : Option (List Char) :=
  let digits := (cs.reverse.takeWhile (· ≠ '-')).reverse
  match cs.take (cs.length - digits.length) with
  | ['-'] => none
  | letters => insertChars? 128 0 72 letters.dropLast digits

end Url

end CurrencyWallet
