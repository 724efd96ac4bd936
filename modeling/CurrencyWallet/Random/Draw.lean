import CurrencyWallet.Power
import CurrencyWallet.Random.Source

/-!
# Uniform draws

A number below a bound is drawn by multiplying a random number of some width
by the bound: the upper half of the product is the result, and the lower half says
whether to accept it. Random numbers for which the lower half is too large are rejected, so
that all results are equally likely.
-/

namespace CurrencyWallet

/-- How many words make up a random number. -/
inductive DrawWidth where
  | single
  | double
deriving DecidableEq

namespace DrawWidth

def bits : DrawWidth → Nat
  | single => 32
  | double => 64

end DrawWidth

variable {σ : Type} [WordSource σ]

/-- A random number of some width. Of two words the first is the lower one. -/
def drawNumber? (width : DrawWidth) (s : σ) : Option (Nat × σ) :=
  match width with
  | .single =>
      match WordSource.next? s with
      | some (w, s) => some (w.toNat, s)
      | none => none
  | .double =>
      match WordSource.next? s with
      | some (low, s) =>
          match WordSource.next? s with
          | some (high, s) => some (low.toNat + 2 ^ (32 : Nat) * high.toNat, s)
          | none => none
      | none => none

theorem remaining_lt_of_drawNumber? {width : DrawWidth} {s s' : σ} {v : Nat}
    (h : drawNumber? width s = some (v, s')) :
    WordSource.remaining s' < WordSource.remaining s := by
  unfold drawNumber? at h
  split at h
  · split at h
    · next hw =>
        simp only [Option.some.injEq, Prod.mk.injEq] at h
        exact h.2 ▸ WordSource.remaining_lt hw
    · simp at h
  · split at h
    · next hlow =>
        split at h
        · next hhigh =>
            simp only [Option.some.injEq, Prod.mk.injEq] at h
            exact h.2 ▸
              Nat.lt_trans (WordSource.remaining_lt hhigh) (WordSource.remaining_lt hlow)
        · simp at h
    · simp at h

/-- The largest lower half that is accepted: the bound with zeros behind it up to the
width, less one. -/
def acceptanceZone (width : DrawWidth) (n : Nat) : Nat :=
  n * 2 ^ (width.bits - 1 - Nat.log2 n) - 1

def drawAccepted? (width : DrawWidth) (n : Nat) (s : σ) : Option (Nat × σ) :=
  match h : drawNumber? width s with
  | none => none
  | some (v, s') =>
      if v * n % 2 ^ width.bits ≤ acceptanceZone width n then some (v * n / 2 ^ width.bits, s')
      else drawAccepted? width n s'
termination_by WordSource.remaining s
decreasing_by exact remaining_lt_of_drawNumber? h

theorem remaining_lt_of_drawAccepted? {width : DrawWidth} {n v : Nat} {s s' : σ}
    (h : drawAccepted? width n s = some (v, s')) :
    WordSource.remaining s' < WordSource.remaining s := by
  fun_induction drawAccepted? width n s with
  | case1 s hs => simp at h
  | case2 s u t hs hu =>
      simp only [Option.some.injEq, Prod.mk.injEq] at h
      exact h.2 ▸ remaining_lt_of_drawNumber? hs
  | case3 s u t hs hu ih =>
      exact Nat.lt_trans (ih h) (remaining_lt_of_drawNumber? hs)

/-- A number below `n`. There is none when `n` is zero or the source is exhausted. -/
def drawBelow? (width : DrawWidth) (n : Nat) (s : σ) : Option (Nat × σ) :=
  if n = 0 then none else drawAccepted? width n s

theorem remaining_lt_of_drawBelow? {width : DrawWidth} {n v : Nat} {s s' : σ}
    (h : drawBelow? width n s = some (v, s')) :
    WordSource.remaining s' < WordSource.remaining s := by
  unfold drawBelow? at h
  split at h
  · simp at h
  · exact remaining_lt_of_drawAccepted? h

end CurrencyWallet
