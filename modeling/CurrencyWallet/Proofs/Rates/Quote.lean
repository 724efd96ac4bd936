import CurrencyWallet.Proofs.Decimal.Text
import CurrencyWallet.Proofs.Decimal.Value
import CurrencyWallet.Rates.Quote

/-!
# Quotes are read as they are written

A rate is quoted as a text. No digit of it is lost on the way: a positive decimal is read from its
text as it is, trailing zeros included, and blanks around it do not matter. A quote that is refused
is reported with all its blanks.
-/

namespace CurrencyWallet

/-!
## Blanks
-/

namespace Text

variable {before cs after : List Char}

theorem dropWhile_isBlank (hne : cs ≠ []) (hcs : forall c, c ∈ cs -> isBlank c = false)
    (rest : List Char) : (cs ++ rest).dropWhile isBlank = cs ++ rest := by
  cases cs with
  | nil =>
      exact absurd rfl hne
  | cons c cs =>
      have hc := hcs c List.mem_cons_self
      rw [List.cons_append, List.dropWhile_cons_of_neg (by simp [hc])]

theorem trim_append (hbefore : forall c, c ∈ before -> isBlank c) (hne : cs ≠ [])
    (hcs : forall c, c ∈ cs -> isBlank c = false) (hafter : forall c, c ∈ after -> isBlank c) :
    trim (before ++ cs ++ after) = cs := by
  have hfront : (before ++ cs ++ after).dropWhile isBlank = cs ++ after := by
    rw [List.append_assoc, List.dropWhile_append_of_pos hbefore, dropWhile_isBlank hne hcs]
  have hback : (cs ++ after).reverse.dropWhile isBlank = cs.reverse := by
    have hends := dropWhile_isBlank (mt List.reverse_eq_nil_iff.mp hne)
      (fun c hc => hcs c (List.mem_reverse.mp hc)) []
    rw [List.reverse_append,
      List.dropWhile_append_of_pos (fun c hc => hafter c (List.mem_reverse.mp hc))]
    rwa [List.append_nil] at hends
  rw [trim, hfront, hback, List.reverse_reverse]

theorem isBlank_of_isDigit {c : Char} (h : c.isDigit) : isBlank c = false := by
  have hrange : 48 ≤ c.toNat ∧ c.toNat ≤ 57 := by
    simpa [Char.isDigit, UInt32.le_iff_toNat_le] using h
  simp [isBlank]
  omega

end Text

/-!
## The text of a decimal
-/

namespace Decimal

theorem digits_ne_nil (mantissa scale : Nat) : digits mantissa scale ≠ [] := by
  rcases exists_digits mantissa scale with ⟨c, whole, fraction, htext, _hrest⟩
  rw [htext, List.cons_append]
  exact List.cons_ne_nil _ _

theorem isBlank_of_mem_digits {mantissa scale : Nat} {c : Char} (h : c ∈ digits mantissa scale) :
    Text.isBlank c = false := by
  rcases exists_digits mantissa scale with ⟨first, whole, fraction, htext, hdigits, _hrest⟩
  rw [htext] at h
  rcases List.mem_append.mp h with hwhole | hrest
  · exact Text.isBlank_of_isDigit (hdigits c (List.mem_append_left _ hwhole))
  · split at hrest
    · cases hrest
    · rcases List.mem_cons.mp hrest with rfl | hfraction
      · decide
      · exact Text.isBlank_of_isDigit (hdigits c (List.mem_append_right _ hfraction))

theorem toChars_ne_nil (d : Decimal) : d.toChars ≠ [] := by
  rw [toChars]
  split
  · exact List.cons_ne_nil _ _
  · exact digits_ne_nil _ _

theorem isBlank_of_mem_toChars {d : Decimal} {c : Char} (h : c ∈ d.toChars) :
    Text.isBlank c = false := by
  rw [toChars] at h
  split at h
  · rcases List.mem_cons.mp h with rfl | hdigits
    · decide
    · exact isBlank_of_mem_digits hdigits
  · exact isBlank_of_mem_digits h

theorem exists_ofChars?_toChars (d : Decimal) : exists r, ofChars? d.toChars = some r ∧
    r.value = d.value ∧ (0 < d.value -> r = d) := by
  by_cases hzero : d.IsNegativeZero
  · have hvalue : d.value = 0 := value_eq_zero_iff.mpr hzero.right
    have hparts : ofParts? d.negative d.mantissa d.scale =
        some ⟨false, 0, d.scale, by decide, d.scale_le⟩ := by
      rw [hzero.left, hzero.right, ofParts?, make?, dif_pos ⟨by decide, d.scale_le⟩]
      rfl
    refine ⟨_, ofChars?_toChars hparts, ?_, ?_⟩
    · rw [hvalue]
      exact value_eq_zero_iff.mpr rfl
    · intro hpos
      exact absurd hvalue (ne_of_gt hpos)
  · exact ⟨d, ofChars?_toChars (ofParts?_parts hzero), rfl, fun _hpos => rfl⟩

end Decimal

/-!
## Quotes
-/

theorem parseRate_eq {text : String} {rate : Decimal}
    (h : Decimal.ofChars? (Text.trim text.toList) = some rate) :
    parseRate text = if 0 < rate.value then .ok rate else .error (.invalidRate text) := by
  rw [parseRate, h]
  dsimp only
  rw [if_congr Decimal.value_pos_iff rfl rfl]

theorem value_pos_of_parseRate {text : String} {rate : Decimal} (h : parseRate text = .ok rate) :
    0 < rate.value := by
  unfold parseRate at h
  split at h
  next rate' _hread =>
    split at h
    next hpos =>
      cases h
      exact Decimal.value_pos_iff.mpr hpos
    next =>
      cases h
  next =>
    cases h

theorem parseRate_eq_error {text : String} {e : RateError} (h : parseRate text = .error e) :
    e = .invalidRate text := by
  unfold parseRate at h
  split at h
  next =>
    split at h
    next =>
      cases h
    next =>
      cases h
      rfl
  next =>
    cases h
    rfl

theorem trim_padded (d : Decimal) {before after : String}
    (hbefore : forall c, c ∈ before.toList -> Text.isBlank c)
    (hafter : forall c, c ∈ after.toList -> Text.isBlank c) :
    Text.trim (before ++ toString d ++ after).toList = d.toChars := by
  have hchars : (toString d).toList = d.toChars := String.toList_ofList
  rw [String.toList_append, String.toList_append, hchars]
  exact Text.trim_append hbefore d.toChars_ne_nil (fun c => Decimal.isBlank_of_mem_toChars) hafter

/-- A positive decimal is read from its text, with all digits and the same number of fractional
ones, whatever blanks stand around it. The text of any other decimal is refused and reported as it
is, with the blanks. Whatever else is accepted is positive. -/
theorem parseRate_padded :
    (forall (d : Decimal) (before after : String),
      (forall c, c ∈ before.toList -> Text.isBlank c) ->
      (forall c, c ∈ after.toList -> Text.isBlank c) ->
      parseRate (before ++ toString d ++ after) =
        if 0 < d.value then .ok d
        else .error (.invalidRate (before ++ toString d ++ after))) ∧
    forall text rate, parseRate text = .ok rate -> 0 < rate.value := by
  constructor
  · intro d before after hbefore hafter
    rcases d.exists_ofChars?_toChars with ⟨rate, hread, hvalue, hsame⟩
    rw [← trim_padded d hbefore hafter] at hread
    rw [parseRate_eq hread, hvalue]
    split
    next hpos => rw [hsame hpos]
    next => rfl
  · intro text rate h
    exact value_pos_of_parseRate h

theorem parseRate_padded_longest :
    let d : Decimal := ⟨false, 79228162514264337593543950335, 28, by decide, by decide⟩
    let debt : Decimal := ⟨true, 1, 28, by decide, by decide⟩
    let before := "\t \u00a0"
    let after := "\u2028\u3000"
    ((forall c, c ∈ before.toList -> Text.isBlank c) ∧
        forall c, c ∈ after.toList -> Text.isBlank c) ∧
      parseRate (before ++ "7.9228162514264337593543950335" ++ after) = .ok d ∧ 0 < d.value ∧
      ¬ 0 < debt.value ∧ parseRate (before ++ "-0.0000000000000000000000000001" ++ after) =
        .error (.invalidRate (before ++ "-0.0000000000000000000000000001" ++ after)) := by
  intro d debt before after
  have hbefore : forall c, c ∈ before.toList -> Text.isBlank c := List.all_eq_true.mp (by decide)
  have hafter : forall c, c ∈ after.toList -> Text.isBlank c := List.all_eq_true.mp (by decide)
  have hlongest : toString d = "7.9228162514264337593543950335" := by decide +kernel
  have hsmallest : toString debt = "-0.0000000000000000000000000001" := by decide +kernel
  have hpos : 0 < d.value := Decimal.value_pos_iff.mpr (by decide)
  have hdebt : ¬ 0 < debt.value := fun h => absurd (Decimal.value_pos_iff.mp h) (by decide)
  have htext := parseRate_padded.left d before after hbefore hafter
  have hrefused := parseRate_padded.left debt before after hbefore hafter
  rw [hlongest, if_pos hpos] at htext
  rw [hsmallest, if_neg hdebt] at hrefused
  exact ⟨⟨hbefore, hafter⟩, htext, parseRate_padded.right _ _ htext, hdebt, hrefused⟩

end CurrencyWallet
