/-!
# Sources of random words

A source gives words of 32 bits one after the other until it is exhausted. How
many words are left at most is known, so whoever draws until a word is good
enough comes to an end.
-/

namespace CurrencyWallet

/-- A type of sources of random words. -/
class WordSource (σ : Type) where
  /-- The next word and the source after it, unless there are no more. -/
  next? : σ → Option (UInt32 × σ)
  /-- A bound for the number of words left. -/
  remaining : σ → Nat
  /-- Every word makes the source smaller. -/
  remaining_lt : ∀ {s s' : σ} {w : UInt32}, next? s = some (w, s') → remaining s' < remaining s

def nextOfList? : List UInt32 → Option (UInt32 × List UInt32)
  | [] => none
  | w :: ws => some (w, ws)

instance : WordSource (List UInt32) where
  next? := nextOfList?
  remaining := List.length
  remaining_lt {s s' w} h := by
    cases s with
    | nil => simp [nextOfList?] at h
    | cons a as =>
        simp only [nextOfList?, Option.some.injEq, Prod.mk.injEq] at h
        simp [← h.2]

end CurrencyWallet
