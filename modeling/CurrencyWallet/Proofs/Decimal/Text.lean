import CurrencyWallet.Decimal.Parser
import CurrencyWallet.Decimal.Printer

/-!
# Decimals are read as they are written

The text of a decimal has all its digits, so reading it gives the same digits and the same number
of fractional ones. Only the sign of a zero is lost.
-/

namespace CurrencyWallet

/-!
## Digits
-/

theorem digit?_of_isDigit {c : Char} (h : c.isDigit) : digit? c = some (c.toNat - '0'.toNat) := by
  have hrange : '0' ≤ c ∧ c ≤ '9' := by
    simpa [Char.isDigit, Char.le_def, UInt32.le_iff_toNat_le] using h
  rw [digit?, if_pos hrange]

theorem ne_of_isDigit {c c' : Char} (h : c.isDigit) (h' : c'.isDigit = false) : c ≠ c' := by
  rintro rfl
  rw [h] at h'
  cases h'

theorem isSome_digit? {c : Char} : (digit? c).isSome = c.isDigit := by
  by_cases h : c.isDigit
  · rw [digit?_of_isDigit h, h, Option.isSome_some]
  · have hrange : ¬ ('0' ≤ c ∧ c ≤ '9') := by
      simpa [Char.isDigit, Char.le_def, UInt32.le_iff_toNat_le] using h
    rw [digit?, if_neg hrange, Option.isSome_none, eq_false_of_ne_true h]

theorem natOfDigits?_of_isDigit {cs : List Char} (hne : cs ≠ [])
    (h : forall c, c ∈ cs -> c.isDigit) : natOfDigits? cs = some (Nat.ofDigitChars 10 cs 0) := by
  have hfold : forall start, cs.foldlM (fun n c => (digit? c).map (10 * n + ·)) start =
      some (Nat.ofDigitChars 10 cs start) := by
    clear hne
    induction cs with
    | nil =>
        intro start
        rfl
    | cons c cs ih =>
        intro start
        rw [List.foldlM_cons, digit?_of_isDigit (h c List.mem_cons_self), Nat.ofDigitChars_cons]
        exact ih (fun c' hc' => h c' (List.mem_cons_of_mem c hc')) _
  rw [natOfDigits?, if_neg (by rw [List.isEmpty_iff]; exact hne), hfold]

theorem isDigit_of_mem_toDigits {n : Nat} {c : Char} (h : c ∈ Nat.toDigits 10 n) : c.isDigit :=
  Nat.isDigit_of_mem_toDigits (by decide) (by decide) h

theorem natOfDigits?_toDigits (n : Nat) : natOfDigits? (Nat.toDigits 10 n) = some n := by
  rw [natOfDigits?_of_isDigit Nat.toDigits_ne_nil (fun _ => isDigit_of_mem_toDigits),
    Nat.ofDigitChars_ten_toDigits]

theorem le_ofDigitChars {cs : List Char} {n : Nat} : n ≤ Nat.ofDigitChars 10 cs n := by
  rw [Nat.ofDigitChars_eq_ofDigitChars_zero]
  have hpos : 0 < 10 ^ cs.length := Nat.pow_pos (by decide)
  have hgrow := Nat.le_mul_of_pos_left n hpos
  omega

namespace Decimal

/-!
## Reading digits that fit
-/

theorem readFraction_of_isDigit {cs : List Char} {m s : Nat} (h : forall c, c ∈ cs -> c.isDigit)
    (hfits : Nat.ofDigitChars 10 cs m < 2 ^ (96 : Nat)) (hplaces : s + cs.length ≤ 28) :
    readFraction true m s cs = some (Nat.ofDigitChars 10 cs m, s + cs.length) := by
  induction cs generalizing m s with
  | nil =>
      rfl
  | cons c cs ih =>
      rw [List.length_cons] at hplaces
      rw [Nat.ofDigitChars_cons] at hfits
      have hroom := Nat.lt_of_le_of_lt le_ofDigitChars hfits
      rw [readFraction, digit?_of_isDigit (h c List.mem_cons_self)]
      dsimp only
      rw [if_pos ⟨hroom, by omega⟩, ih (fun c' hc' => h c' (List.mem_cons_of_mem c hc')) hfits
        (by omega), Nat.ofDigitChars_cons, List.length_cons]
      congr 2
      omega

theorem readWhole_append {c : Char} {cs rest : List Char} {started : Bool} {m : Nat}
    (h : forall c', c' ∈ c :: cs -> c'.isDigit)
    (hfits : Nat.ofDigitChars 10 (c :: cs) m < 2 ^ (96 : Nat)) :
    readWhole started m (c :: cs ++ rest) =
      readWhole true (Nat.ofDigitChars 10 (c :: cs) m) rest := by
  induction cs generalizing c started m with
  | nil =>
      rw [Nat.ofDigitChars_cons, Nat.ofDigitChars_nil] at hfits ⊢
      rw [List.cons_append, readWhole, digit?_of_isDigit (h c List.mem_cons_self)]
      dsimp only
      rw [if_pos hfits, List.nil_append]
  | cons c' cs ih =>
      rw [Nat.ofDigitChars_cons] at hfits ⊢
      have hroom := Nat.lt_of_le_of_lt le_ofDigitChars hfits
      rw [List.cons_append, readWhole, digit?_of_isDigit (h c List.mem_cons_self)]
      dsimp only
      rw [if_pos hroom]
      exact ih (fun c'' hc'' => h c'' (List.mem_cons_of_mem c hc'')) hfits

/-!
## The digits of a decimal
-/

theorem exists_digits (mantissa scale : Nat) :
    exists c whole fraction,
      digits mantissa scale = c :: whole ++ (if scale = 0 then [] else '.' :: fraction) ∧
      (forall c', c' ∈ c :: whole ++ fraction -> c'.isDigit) ∧ fraction.length = scale ∧
      Nat.ofDigitChars 10 (c :: whole ++ fraction) 0 = mantissa := by
  let all := Nat.toDigits 10 mantissa
  let padded := List.replicate (scale + 1 - all.length) '0' ++ all
  have hlength : scale < padded.length := by
    rw [List.length_append, List.length_replicate]
    omega
  have hpadded : padded.take (padded.length - scale) ++ padded.drop (padded.length - scale) =
      padded := List.take_append_drop _ _
  have hdigits : forall c', c' ∈ padded -> c'.isDigit := by
    intro c' hc'
    rcases List.mem_append.mp hc' with hzero | hdigit
    · rw [(List.mem_replicate.mp hzero).right]
      rfl
    · exact isDigit_of_mem_toDigits hdigit
  have hvalue : Nat.ofDigitChars 10 padded 0 = mantissa := by
    rw [Nat.ofDigitChars_append, Nat.ofDigitChars_replicate_zero, Nat.mul_zero,
      Nat.ofDigitChars_ten_toDigits]
  cases hwhole : padded.take (padded.length - scale) with
  | nil =>
      have hzero := congrArg List.length hwhole
      rw [List.length_take, List.length_nil] at hzero
      omega
  | cons c whole =>
      refine ⟨c, whole, padded.drop (padded.length - scale), ?_, ?_, ?_, ?_⟩
      · rw [← hwhole, digits]
        split
        · rw [List.append_nil]
        · rfl
      · rw [← hwhole, hpadded]
        exact hdigits
      · rw [List.length_drop]
        omega
      · rw [← hwhole, hpadded]
        exact hvalue

theorem readWhole_digits {mantissa scale : Nat} (hfits : mantissa < 2 ^ (96 : Nat))
    (hplaces : scale ≤ 28) : readWhole false 0 (digits mantissa scale) = some (mantissa, scale) := by
  rcases exists_digits mantissa scale with ⟨c, whole, fraction, htext, hdigits, hlength, hvalue⟩
  have hwhole : forall c', c' ∈ c :: whole -> c'.isDigit :=
    fun c' hc' => hdigits c' (List.mem_append_left _ hc')
  rw [Nat.ofDigitChars_append] at hvalue
  have hroom : Nat.ofDigitChars 10 (c :: whole) 0 < 2 ^ (96 : Nat) := by
    rw [← hvalue] at hfits
    exact Nat.lt_of_le_of_lt le_ofDigitChars hfits
  rw [htext, readWhole_append hwhole hroom]
  split
  next hinteger =>
    have hnone : fraction = [] := List.eq_nil_of_length_eq_zero (hlength.trans hinteger)
    rw [hnone, Nat.ofDigitChars_nil] at hvalue
    rw [hvalue, hinteger]
    rfl
  next hpoint =>
    have hpoint? : digit? '.' = none := by decide
    rw [readWhole, hpoint?]
    dsimp only
    rw [if_pos rfl, readFraction_of_isDigit (fun c' hc' => hdigits c' (List.mem_append_right _ hc'))
      (by rw [hvalue]; exact hfits) (by omega), hvalue, hlength, Nat.zero_add]

/-!
## The text of a decimal
-/

theorem parsePlain?_of_isDigit {c : Char} {cs : List Char} (h : c.isDigit) :
    parsePlain? (c :: cs) = (readWhole false 0 (c :: cs)).bind (fun (m, s) => ofParts? false m s) := by
  unfold parsePlain?
  split
  next heq =>
    exact absurd (List.cons.inj heq).left (ne_of_isDigit h rfl)
  next heq =>
    exact absurd (List.cons.inj heq).left (ne_of_isDigit h rfl)
  next =>
    rfl

def IsNegativeZero (d : Decimal) : Prop :=
  d.negative ∧ d.IsZero

instance (d : Decimal) : Decidable d.IsNegativeZero :=
  inferInstanceAs (Decidable (_ ∧ _))

theorem ofParts?_parts {d : Decimal} (h : ¬ d.IsNegativeZero) :
    ofParts? d.negative d.mantissa d.scale = some d := by
  have hsign : (d.negative && d.mantissa != 0) = d.negative := by
    cases hneg : d.negative with
    | false =>
        rfl
    | true =>
        have hne : d.mantissa ≠ 0 := fun hzero => h ⟨hneg, hzero⟩
        rw [Bool.true_and, bne_iff_ne]
        exact hne
  rw [ofParts?, hsign, make?, dif_pos ⟨d.mantissa_lt, d.scale_le⟩]

/-- What is read is what is written, but for the sign of a zero. -/
theorem parsePlain?_toChars (d : Decimal) :
    parsePlain? d.toChars = ofParts? d.negative d.mantissa d.scale := by
  have hread := readWhole_digits d.mantissa_lt d.scale_le
  rw [toChars]
  split
  next hnegative =>
    rw [parsePlain?, hread, Option.bind_some, ← hnegative]
  next hpositive =>
    rcases exists_digits d.mantissa d.scale with ⟨c, whole, fraction, htext, hdigits, _hrest⟩
    rw [htext, List.cons_append, parsePlain?_of_isDigit (hdigits c List.mem_cons_self),
      ← List.cons_append, ← htext, hread, Option.bind_some, ← eq_false_of_ne_true hpositive]

theorem ofChars?_toChars {d r : Decimal} (h : ofParts? d.negative d.mantissa d.scale = some r) :
    ofChars? d.toChars = some r := by
  rw [ofChars?, parsePlain?_toChars, h]

theorem parse?_toString {d : Decimal} (h : ¬ d.IsNegativeZero) : parse? (toString d) = some d := by
  have hchars : (toString d).toList = d.toChars := String.toList_ofList
  rw [parse?, hchars, ofChars?_toChars (ofParts?_parts h)]

end Decimal

end CurrencyWallet
