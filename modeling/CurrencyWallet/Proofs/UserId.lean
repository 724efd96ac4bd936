import CurrencyWallet.UserId
import Mathlib.Tactic.IntervalCases

/-!
# Ids are read as they are written
-/

namespace CurrencyWallet

/-!
## Hexadecimal digits
-/

theorem hexDigit?_digitChar {n : Nat} (h : n < 16) : hexDigit? n.digitChar = some n := by
  interval_cases n <;> rfl

theorem natOfHex?_append {cs cs' : List Char} : natOfHex? (cs ++ cs') =
    (natOfHex? cs).bind (fun n => cs'.foldlM (fun n c => (hexDigit? c).map (16 * n + ·)) n) :=
  List.foldlM_append

theorem natOfHex?_toDigits (n : Nat) : natOfHex? (Nat.toDigits 16 n) = some n := by
  induction n using Nat.base_induction 16 (by decide) with
  | single m hm =>
      rw [Nat.toDigits_of_lt_base hm, natOfHex?, List.foldlM_cons, hexDigit?_digitChar hm,
        Option.map_some, Nat.mul_zero, Nat.zero_add]
      rfl
  | digit m k hk hm ih =>
      rw [← Nat.toDigits_append_toDigits (by decide) hm hk, Nat.toDigits_of_lt_base hk,
        natOfHex?_append, ih, Option.bind_some, List.foldlM_cons, hexDigit?_digitChar hk]
      rfl

theorem natOfHex?_zeros (k : Nat) : natOfHex? (List.replicate k '0') = some 0 := by
  induction k with
  | zero =>
      rfl
  | succ k ih =>
      rw [List.replicate_succ', natOfHex?_append, ih]
      rfl

theorem natOfHex?_hexDigits (width n : Nat) : natOfHex? (hexDigits width n) = some n := by
  rw [hexDigits, natOfHex?_append, natOfHex?_zeros]
  exact natOfHex?_toDigits n

theorem length_hexDigits {width n : Nat} (hpos : 0 < width) (h : n < 16 ^ width) :
    (hexDigits width n).length = width := by
  have hle := (Nat.length_toDigits_le_iff (b := 16) (by decide) hpos).mpr h
  rw [hexDigits, List.length_append, List.length_replicate, Nat.sub_add_cancel hle]

theorem isSome_hexDigit?_of_natOfHex? {cs : List Char} {n : Nat} (h : natOfHex? cs = some n)
    {c : Char} (hc : c ∈ cs) : (hexDigit? c).isSome := by
  rcases List.append_of_mem hc with ⟨before, after, rfl⟩
  rw [natOfHex?_append, Option.bind_eq_some_iff] at h
  rcases h with ⟨m, _hbefore, hrest⟩
  cases hdigit : hexDigit? c with
  | none =>
      rw [List.foldlM_cons, hdigit] at hrest
      cases hrest
  | some d =>
      rfl

namespace UserId

/-!
## Groups of digits
-/

theorem filter_group {digits : List Char} (h : '-' ∉ digits) :
    (group digits).filter (· ≠ '-') = digits := by
  have hjoined : digits.take 8 ++ (digits.drop 8).take 4 ++ (digits.drop 12).take 4 ++
      (digits.drop 16).take 4 ++ digits.drop 20 = digits := by
    rw [← List.take_add, ← List.take_add, ← List.take_add, List.take_append_drop]
  calc
    (group digits).filter (· ≠ '-') =
        (digits.take 8 ++ (digits.drop 8).take 4 ++ (digits.drop 12).take 4 ++
          (digits.drop 16).take 4 ++ digits.drop 20).filter (· ≠ '-') := by simp [group]
    _ = digits.filter (· ≠ '-') := by rw [hjoined]
    _ = digits := by
      rw [List.filter_eq_self]
      intro c hc
      apply decide_eq_true
      rintro rfl
      exact h hc

theorem length_group {digits : List Char} (h : digits.length = 32) :
    (group digits).length = 36 := by
  simp [group, h]

theorem ofDigits?_hexDigits (id : UserId) : ofDigits? (hexDigits 32 id.value) = some id := by
  have hvalue : ofNat id.value = id := by
    rcases id with ⟨value, hlt⟩
    simp only [ofNat, Nat.mod_eq_of_lt hlt]
  rw [ofDigits?, if_pos (length_hexDigits (by decide) id.value_lt), natOfHex?_hexDigits,
    Option.map_some, hvalue]

theorem parse?_toString (id : UserId) : parse? (toString id) = some id := by
  have hlength : (hexDigits 32 id.value).length = 32 := length_hexDigits (by decide) id.value_lt
  have hnone : '-' ∉ hexDigits 32 id.value := fun hmem =>
    absurd (isSome_hexDigit?_of_natOfHex? (natOfHex?_hexDigits 32 id.value) hmem) (by decide)
  have hchars : (toString id).toList = group (hexDigits 32 id.value) := String.toList_ofList
  rw [parse?, hchars, ofChars?, if_neg (by rw [length_group hlength]; decide),
    if_pos (length_group hlength), ofGrouped?, filter_group hnone,
    if_pos rfl, ofDigits?_hexDigits]

end UserId

end CurrencyWallet
