import CurrencyWallet.Proofs.Decimal.Text
import CurrencyWallet.Proofs.Json.Grammar
import Mathlib.Data.List.DropRight

/-!
# Documents are read

Every text that the grammar allows is read as the value it stands for, however deep the value is.
-/

namespace CurrencyWallet

namespace Json

/-!
## Blanks
-/

theorem skipBlanks_append {blanks rest : List Char} (h : IsBlanks blanks) :
    skipBlanks (blanks ++ rest) = skipBlanks rest :=
  List.dropWhile_append_of_pos h

theorem skipBlanks_of_head {c : Char} {cs : List Char} (h : isBlank c = false) :
    skipBlanks (c :: cs) = c :: cs :=
  List.dropWhile_cons_of_neg (by rw [h]; decide)

theorem skipBlanks_append_of_head {blanks rest : List Char} {c : Char} (h : IsBlanks blanks)
    (hc : isBlank c = false) : skipBlanks (blanks ++ c :: rest) = c :: rest := by
  rw [skipBlanks_append h, skipBlanks_of_head hc]

theorem skipBlanks_skipBlanks (cs : List Char) : skipBlanks (skipBlanks cs) = skipBlanks cs :=
  List.dropWhile_idempotent isBlank cs

theorem all_isBlank_of_skipBlanks {cs : List Char} (h : skipBlanks cs = []) :
    cs.all isBlank := by
  rw [List.all_eq_true]
  exact List.dropWhile_eq_nil_iff.mp h

/-!
## Texts
-/

theorem readUnits_unit {n : Nat} {cs rest : List Char} (h : UnitText n cs) :
    readUnits (cs ++ rest) = (readUnits rest).map (fun (us, cs) => (n :: us, cs)) := by
  cases h with
  | @plain c hprintable hquote hslash =>
      simp [readUnits, hslash, Nat.not_lt.mpr hprintable]
  | short h =>
      simp only [shortEscapes, List.mem_cons, Prod.mk.injEq, List.not_mem_nil, or_false] at h
      rcases h with ⟨rfl, rfl⟩ | ⟨rfl, rfl⟩ | ⟨rfl, rfl⟩ | ⟨rfl, rfl⟩ | ⟨rfl, rfl⟩ | ⟨rfl, rfl⟩ |
        ⟨rfl, rfl⟩ | ⟨rfl, rfl⟩ <;> rfl
  | hex h =>
      simp [readUnits, h]

theorem readUnits_quote {ns : List Nat} {cs rest : List Char} (h : UnitsText ns cs) :
    readUnits (cs ++ '"' :: rest) = some (ns, rest) := by
  induction h with
  | nil =>
      rfl
  | cons h _hs ih =>
      rw [List.append_assoc, readUnits_unit h, ih]
      rfl

theorem readString_of_stringText {s? : Option String} {cs : List Char} (h : StringText s? cs) :
    exists inner, cs = '"' :: inner ∧ forall rest, readString (inner ++ rest) = some (s?, rest) := by
  cases h with
  | @quoted ns cs h =>
      refine ⟨cs ++ ['"'], rfl, ?_⟩
      intro rest
      rw [readString, List.append_assoc, List.singleton_append, readUnits_quote h]
      rfl

/-!
## Numbers
-/

def EndsNumeral (rest : List Char) : Prop :=
  forall c, rest.head? = some c -> c.isDigit = false ∧ c ≠ '.' ∧ ¬ IsExponentMark c

theorem spanDigits_append {ds rest : List Char} (hds : forall c, c ∈ ds -> c.isDigit)
    (hrest : forall c, rest.head? = some c -> c.isDigit = false) :
    spanDigits (ds ++ rest) = (ds, rest) := by
  have hstop : rest.takeWhile (fun c => (digit? c).isSome) = [] ∧
      rest.dropWhile (fun c => (digit? c).isSome) = rest := by
    cases rest with
    | nil =>
        exact ⟨rfl, rfl⟩
    | cons c cs =>
        have hc : ¬ (digit? c).isSome := by
          rw [isSome_digit?, hrest c rfl]
          decide
        exact ⟨List.takeWhile_cons_of_neg hc, List.dropWhile_cons_of_neg hc⟩
  have hdigits : forall c, c ∈ ds -> (digit? c).isSome := by
    intro c hc
    rw [isSome_digit?]
    exact hds c hc
  rw [spanDigits, List.takeWhile_append_of_pos hdigits, List.dropWhile_append_of_pos hdigits,
    hstop.left, hstop.right, List.append_nil]

theorem readWhole_append {whole rest : List Char} (h : IsWhole whole)
    (hrest : forall c, rest.head? = some c -> c.isDigit = false) :
    readWhole (whole ++ rest) = some (whole, rest) := by
  rcases h with rfl | ⟨⟨hne, hdigits⟩, hhead⟩
  · rfl
  · have hspan := spanDigits_append hdigits hrest
    rw [readWhole]
    · rw [hspan]
      simp [hne]
    · intro cs hzero
      cases whole with
      | nil =>
          exact hne rfl
      | cons c whole =>
          rw [(List.cons.inj hzero).left] at hhead
          exact hhead rfl

theorem readFraction_append {fraction behind rest : List Char} (h : FractionText fraction behind)
    (hrest : forall c, rest.head? = some c -> c.isDigit = false ∧ c ≠ '.') :
    readFraction (behind ++ rest) = some (fraction, rest) := by
  cases h with
  | absent =>
      cases rest with
      | nil =>
          rfl
      | cons c cs =>
          rw [List.nil_append, readFraction]
          intro cs' hpoint
          exact (hrest c rfl).right (List.cons.inj hpoint).left
  | point h =>
      rw [List.cons_append, readFraction, spanDigits_append h.right (fun c hc => (hrest c hc).left)]
      simp [h.left]

theorem readExponent_append {exponent : Option Int} {tail rest : List Char}
    (h : ExponentText exponent tail) (hrest : EndsNumeral rest) :
    readExponent (tail ++ rest) = some (exponent, rest) := by
  have hend : forall c, rest.head? = some c -> c.isDigit = false := fun c hc => (hrest c hc).left
  cases h with
  | absent =>
      cases rest with
      | nil =>
          rfl
      | cons c cs =>
          rw [List.nil_append, readExponent]
          · intro cs' he
            exact (hrest c rfl).right.right (Or.inl (List.cons.inj he).left)
          · intro cs' he
            exact (hrest c rfl).right.right (Or.inr (List.cons.inj he).left)
  | @unsigned mark ds hmark h =>
      have hspan := spanDigits_append h.right hend
      have hvalue := natOfDigits?_of_isDigit h.left h.right
      cases ds with
      | nil =>
          exact absurd rfl h.left
      | cons d ds =>
          have hdigit := h.right d List.mem_cons_self
          have hminus : d ≠ '-' := ne_of_isDigit hdigit rfl
          have hplus : d ≠ '+' := ne_of_isDigit hdigit rfl
          rw [List.cons_append] at hspan
          rcases hmark with rfl | rfl <;> simp [readExponent, hminus, hplus, hspan, hvalue]
  | @plus mark ds hmark h =>
      have hspan := spanDigits_append h.right hend
      have hvalue := natOfDigits?_of_isDigit h.left h.right
      rcases hmark with rfl | rfl <;> simp [readExponent, hspan, hvalue]
  | @minus mark ds hmark h =>
      have hspan := spanDigits_append h.right hend
      have hvalue := natOfDigits?_of_isDigit h.left h.right
      rcases hmark with rfl | rfl <;> simp [readExponent, hspan, hvalue]

theorem IsWhole.isDigits {whole : List Char} (h : IsWhole whole) : IsDigits whole := by
  rcases h with rfl | h
  · refine ⟨List.cons_ne_nil _ _, ?_⟩
    intro c hc
    rw [List.mem_singleton.mp hc]
    rfl
  · exact h.left

theorem FractionText.isDigit {fraction behind : List Char} (h : FractionText fraction behind)
    {c : Char} (hc : c ∈ fraction) : c.isDigit := by
  cases h with
  | absent =>
      cases hc
  | point h =>
      exact h.right c hc

theorem FractionText.ends_whole {fraction behind rest : List Char} (h : FractionText fraction behind)
    (hrest : forall c, rest.head? = some c -> c.isDigit = false) {c : Char}
    (hc : (behind ++ rest).head? = some c) : c.isDigit = false := by
  cases h with
  | absent =>
      exact hrest c hc
  | point h =>
      cases hc
      rfl

theorem ExponentText.ends_fraction {exponent : Option Int} {tail rest : List Char}
    (h : ExponentText exponent tail) (hrest : EndsNumeral rest) {c : Char}
    (hc : (tail ++ rest).head? = some c) : c.isDigit = false ∧ c ≠ '.' := by
  have hmark : forall mark, IsExponentMark mark -> mark.isDigit = false ∧ mark ≠ '.' := by
    rintro mark (rfl | rfl) <;> decide
  cases h with
  | absent =>
      exact ⟨(hrest c hc).left, (hrest c hc).right.left⟩
  | unsigned h _hds | plus h _hds | minus h _hds =>
      cases hc
      exact hmark c h

theorem readNumeral_append {n : Numeral} {cs rest : List Char} (h : NumeralText n cs)
    (hrest : EndsNumeral rest) : readNumeral (cs ++ rest) = some (n, rest) := by
  cases h with
  | @parts negative whole fraction behind tail exponent hwhole hfraction hexponent =>
      have hends : forall c, (tail ++ rest).head? = some c -> c.isDigit = false ∧ c ≠ '.' :=
        fun c hc => hexponent.ends_fraction hrest hc
      have hreadWhole := readWhole_append hwhole
        (fun c hc => hfraction.ends_whole (fun c' hc' => (hends c' hc').left) hc)
      have hreadFraction := readFraction_append hfraction hends
      have hreadExponent := readExponent_append hexponent hrest
      rcases hwhole.isDigits with ⟨hne, hdigits⟩
      have hvalue : natOfDigits? (whole ++ fraction) =
          some (Nat.ofDigitChars 10 (whole ++ fraction) 0) := by
        apply natOfDigits?_of_isDigit
        · exact List.append_ne_nil_of_left_ne_nil hne _
        · intro c hc
          rcases List.mem_append.mp hc with hc | hc
          · exact hdigits c hc
          · exact hfraction.isDigit hc
      cases negative with
      | true =>
          simp [readNumeral, hreadWhole, hreadFraction, hreadExponent, hvalue]
      | false =>
          cases whole with
          | nil =>
              exact absurd rfl hne
          | cons c whole =>
              have hminus : c ≠ '-' := ne_of_isDigit (hdigits c List.mem_cons_self) rfl
              rw [List.cons_append] at hreadWhole hvalue
              simp [readNumeral, hminus, hreadWhole, hreadFraction, hreadExponent, hvalue]

theorem NumeralText.exists_head {n : Numeral} {cs : List Char} (h : NumeralText n cs) :
    exists c cs', cs = c :: cs' ∧ (c = '-' ∨ c.isDigit) := by
  cases h with
  | @parts negative whole fraction behind tail exponent hwhole hfraction hexponent =>
      cases negative with
      | true =>
          exact ⟨'-', _, rfl, Or.inl rfl⟩
      | false =>
          rcases hwhole.isDigits with ⟨hne, hdigits⟩
          cases whole with
          | nil =>
              exact absurd rfl hne
          | cons c whole =>
              exact ⟨c, _, rfl, Or.inr (hdigits c List.mem_cons_self)⟩

theorem endsNumeral_nil : EndsNumeral [] := by
  intro c hc
  cases hc

theorem endsNumeral_cons {c : Char} {rest : List Char}
    (h : c.isDigit = false ∧ c ≠ '.' ∧ ¬ IsExponentMark c) : EndsNumeral (c :: rest) := by
  intro c' hc'
  cases hc'
  exact h

theorem endsNumeral_append {blanks rest : List Char} (h : IsBlanks blanks)
    (hrest : EndsNumeral rest) : EndsNumeral (blanks ++ rest) := by
  cases blanks with
  | nil =>
      exact hrest
  | cons c blanks =>
      have hblank := h c List.mem_cons_self
      simp only [isBlank, Bool.or_eq_true, decide_eq_true_eq] at hblank
      apply endsNumeral_cons
      rcases hblank with ((rfl | rfl) | rfl) | rfl <;> decide

/-!
## Values
-/

theorem readValue_skipBlanks (n : Nat) (cs : List Char) :
    readValue n (skipBlanks cs) = readValue n cs := by
  cases n with
  | zero =>
      rw [readValue, readValue]
  | succ n =>
      rw [readValue, readValue, skipBlanks_skipBlanks]

theorem readItems_skipBlanks (n : Nat) (cs : List Char) :
    readItems n (skipBlanks cs) = readItems n cs := by
  cases n with
  | zero =>
      rw [readItems, readItems]
  | succ n =>
      rw [readItems, readItems, readValue_skipBlanks]

theorem readMembers_skipBlanks (n : Nat) (cs : List Char) :
    readMembers n (skipBlanks cs) = readMembers n cs := by
  cases n with
  | zero =>
      rw [readMembers, readMembers]
  | succ n =>
      rw [readMembers, readMembers, skipBlanks_skipBlanks]

theorem isBlank_of_isDigit {c : Char} (h : c.isDigit) : isBlank c = false := by
  simp only [isBlank, Bool.or_eq_false_iff, decide_eq_false_iff_not]
  exact ⟨⟨⟨ne_of_isDigit h rfl, ne_of_isDigit h rfl⟩, ne_of_isDigit h rfl⟩, ne_of_isDigit h rfl⟩

theorem readValue_numeral {n : Nat} {c : Char} {cs : List Char} (h : c = '-' ∨ c.isDigit) :
    readValue (n + 1) (c :: cs) =
      (readNumeral (c :: cs)).map (fun (m, cs) => (.number m, cs)) := by
  have hblank : isBlank c = false := by
    rcases h with rfl | h
    · rfl
    · exact isBlank_of_isDigit h
  have hne : forall {c' : Char}, c' ≠ '-' -> c'.isDigit = false -> c ≠ c' := by
    intro c' hminus hdigit
    rcases h with rfl | h
    · exact hminus.symm
    · exact ne_of_isDigit h hdigit
  rw [readValue, skipBlanks_of_head hblank]
  split
  case h_7 =>
    rfl
  all_goals
    next heq =>
      exact absurd (List.cons.inj heq).left (hne (by decide) rfl)

theorem readValue_emptyArray {n : Nat} {blanks rest : List Char} (h : IsBlanks blanks) :
    readValue (n + 1) ('[' :: (blanks ++ ']' :: rest)) = some (.array [], rest) := by
  have hskip : skipBlanks ('[' :: (blanks ++ ']' :: rest)) = '[' :: (blanks ++ ']' :: rest) :=
    skipBlanks_of_head rfl
  have hclose : skipBlanks (blanks ++ ']' :: rest) = ']' :: rest := skipBlanks_append_of_head h rfl
  simp only [readValue, hskip, hclose]

theorem readValue_array {n : Nat} {cs rest : List Char} {js : List Json}
    (hopen : forall cs', skipBlanks cs ≠ ']' :: cs') (h : readItems n cs = some (js, rest)) :
    readValue (n + 1) ('[' :: cs) = some (.array js, rest) := by
  have hskip : skipBlanks ('[' :: cs) = '[' :: cs := skipBlanks_of_head rfl
  rw [← readItems_skipBlanks] at h
  simp only [readValue, hskip, h, Option.map_some]

theorem readValue_emptyObject {n : Nat} {blanks rest : List Char} (h : IsBlanks blanks) :
    readValue (n + 1) ('\x7b' :: (blanks ++ '\x7d' :: rest)) = some (.object [], rest) := by
  have hskip : skipBlanks ('\x7b' :: (blanks ++ '\x7d' :: rest)) =
      '\x7b' :: (blanks ++ '\x7d' :: rest) := skipBlanks_of_head rfl
  have hclose : skipBlanks (blanks ++ '\x7d' :: rest) = '\x7d' :: rest :=
    skipBlanks_append_of_head h rfl
  simp only [readValue, hskip, hclose]

theorem readValue_object {n : Nat} {cs rest : List Char} {ms : List (Option String × Json)}
    (hopen : forall cs', skipBlanks cs ≠ '\x7d' :: cs') (h : readMembers n cs = some (ms, rest)) :
    readValue (n + 1) ('\x7b' :: cs) = some (ofMembers ms, rest) := by
  have hskip : skipBlanks ('\x7b' :: cs) = '\x7b' :: cs := skipBlanks_of_head rfl
  rw [← readMembers_skipBlanks] at h
  simp only [readValue, hskip, h, Option.map_some]

/-- What the readers make of a stretch of a document, whatever comes behind it. The bound of the
recursion is at least twice the length of the stretch. -/
def Reads : Part -> List Char -> Prop
  | .value j, cs => forall n rest, 2 * cs.length ≤ n -> EndsNumeral rest ->
      readValue (n + 1) (cs ++ rest) = some (j, rest)
  | .element j, cs => forall n rest, 2 * cs.length ≤ n -> EndsNumeral rest ->
      exists after, readValue (n + 1) (cs ++ rest) = some (j, after) ∧
        skipBlanks after = skipBlanks rest
  | .items js, cs => forall n rest, 2 * cs.length ≤ n ->
      readItems (n + 2) (cs ++ ']' :: rest) = some (js, rest)
  | .member name? j, cs => forall n rest, 2 * cs.length ≤ n -> EndsNumeral rest ->
      exists text colon value after, skipBlanks (cs ++ rest) = '"' :: text ∧
        readString text = some (name?, colon) ∧ skipBlanks colon = ':' :: value ∧
        readValue (n + 1) value = some (j, after) ∧ skipBlanks after = skipBlanks rest
  | .members ms, cs => forall n rest, 2 * cs.length ≤ n ->
      readMembers (n + 2) (cs ++ '\x7d' :: rest) = some (ms, rest)

/-- What a stretch of a document begins with behind its blanks. No list is taken for an empty
one. -/
def Part.Opens : Part -> Char -> Prop
  | .value _, c => c ≠ ']'
  | .element _, c => c ≠ ']'
  | .items _, c => c ≠ ']'
  | .member _ _, c => c = '"'
  | .members _, c => c = '"'

theorem PartText.opens {part : Part} {cs : List Char} (h : PartText part cs) (rest : List Char) :
    exists c cs', skipBlanks (cs ++ rest) = c :: cs' ∧ part.Opens c := by
  induction h generalizing rest with
  | null =>
      exact ⟨'n', _, skipBlanks_of_head rfl, (by decide : 'n' ≠ ']')⟩
  | bool b =>
      cases b with
      | true =>
          exact ⟨'t', _, skipBlanks_of_head rfl, (by decide : 't' ≠ ']')⟩
      | false =>
          exact ⟨'f', _, skipBlanks_of_head rfl, (by decide : 'f' ≠ ']')⟩
  | number h =>
      rcases h.exists_head with ⟨c, cs', rfl, rfl | hdigit⟩
      · exact ⟨'-', _, skipBlanks_of_head rfl, (by decide : '-' ≠ ']')⟩
      · exact ⟨c, _, skipBlanks_of_head (isBlank_of_isDigit hdigit), ne_of_isDigit hdigit rfl⟩
  | string h =>
      rcases readString_of_stringText h with ⟨inner, rfl, _hread⟩
      exact ⟨'"', _, skipBlanks_of_head rfl, (by decide : '"' ≠ ']')⟩
  | emptyArray | array =>
      exact ⟨'[', _, skipBlanks_of_head rfl, (by decide : '[' ≠ ']')⟩
  | emptyObject | object =>
      exact ⟨'\x7b', _, skipBlanks_of_head rfl, (by decide : '\x7b' ≠ ']')⟩
  | element hbefore _h _hafter ih =>
      rw [List.append_assoc, List.append_assoc, skipBlanks_append hbefore]
      exact ih _
  | lastItem _h ih =>
      exact ih rest
  | item _h _hs ih _ihs =>
      rw [List.append_assoc]
      exact ih _
  | member hbefore hname _hafter _h _ih =>
      rcases readString_of_stringText hname with ⟨inner, rfl, _hread⟩
      rw [List.append_assoc]
      exact ⟨'"', _, skipBlanks_append_of_head hbefore rfl, rfl⟩
  | lastMember _h ih =>
      exact ih rest
  | members _h _hs ih _ihs =>
      rw [List.append_assoc]
      exact ih _

/-- The readers read what the grammar allows: one case for each rule of the grammar. -/
theorem PartText.reads {part : Part} {cs : List Char} (h : PartText part cs) : Reads part cs := by
  induction h with
  | null =>
      intro n rest _hn _hrest
      rw [readValue]
      rfl
  | bool b =>
      intro n rest _hn _hrest
      rw [readValue]
      cases b <;> rfl
  | number h =>
      intro n rest _hn hrest
      have hread := readNumeral_append h hrest
      rcases h.exists_head with ⟨c, cs', rfl, hhead⟩
      rw [List.cons_append] at hread ⊢
      rw [readValue_numeral hhead, hread, Option.map_some]
  | @string s? cs h =>
      intro n rest _hn _hrest
      rcases readString_of_stringText h with ⟨inner, rfl, hread⟩
      have hskip : skipBlanks ('"' :: (inner ++ rest)) = '"' :: (inner ++ rest) :=
        skipBlanks_of_head rfl
      simp only [List.cons_append, readValue, hskip, hread, Option.map_some]
  | emptyArray h =>
      intro n rest _hn _hrest
      rw [List.cons_append, List.append_assoc, List.singleton_append]
      exact readValue_emptyArray h
  | @array js cs h ih =>
      intro n rest hn _hrest
      rw [List.length_cons, List.length_append, List.length_singleton] at hn
      obtain ⟨m, rfl⟩ : exists m, n = m + 2 := ⟨n - 2, by omega⟩
      rw [List.cons_append, List.append_assoc, List.singleton_append]
      apply readValue_array _ (ih m rest (by omega))
      rcases h.opens (']' :: rest) with ⟨c, cs', hhead, hc⟩
      intro cs'' hclose
      rw [hhead] at hclose
      exact hc (List.cons.inj hclose).left
  | emptyObject h =>
      intro n rest _hn _hrest
      rw [List.cons_append, List.append_assoc, List.singleton_append]
      exact readValue_emptyObject h
  | @object ms cs h ih =>
      intro n rest hn _hrest
      rw [List.length_cons, List.length_append, List.length_singleton] at hn
      obtain ⟨m, rfl⟩ : exists m, n = m + 2 := ⟨n - 2, by omega⟩
      rw [List.cons_append, List.append_assoc, List.singleton_append]
      apply readValue_object _ (ih m rest (by omega))
      rcases h.opens ('\x7d' :: rest) with ⟨c, cs', hhead, hc⟩
      intro cs'' hclose
      rw [hhead, hc] at hclose
      exact absurd (List.cons.inj hclose).left (by decide)
  | @element j before cs after hbefore h hafter ih =>
      intro n rest hn hrest
      rw [List.length_append, List.length_append] at hn
      refine ⟨after ++ rest, ?_, skipBlanks_append hafter⟩
      rw [List.append_assoc, List.append_assoc, ← readValue_skipBlanks, skipBlanks_append hbefore,
        readValue_skipBlanks]
      exact ih n _ (by omega) (endsNumeral_append hafter hrest)
  | @lastItem j cs _h ih =>
      intro n rest hn
      rcases ih n (']' :: rest) hn (endsNumeral_cons (by decide)) with ⟨after, hread, hclose⟩
      rw [skipBlanks_of_head (c := ']') rfl] at hclose
      simp only [readItems, hread, hclose]
  | @item j js cs cs' _h _hs ih ihs =>
      intro n rest hn
      rw [List.length_append, List.length_cons] at hn
      obtain ⟨m, rfl⟩ : exists m, n = m + 1 := ⟨n - 1, by omega⟩
      rcases ih (m + 1) (',' :: (cs' ++ ']' :: rest)) (by omega) (endsNumeral_cons (by decide)) with
        ⟨after, hread, hcomma⟩
      rw [skipBlanks_of_head (c := ',') rfl] at hcomma
      rw [List.append_assoc, List.cons_append, readItems]
      simp only [hread, hcomma, ihs m rest (by omega), Option.map_some]
  | @member name? j before name after cs hbefore hname hafter _h ih =>
      intro n rest hn hrest
      rcases readString_of_stringText hname with ⟨inner, rfl, hread⟩
      simp only [List.length_append, List.length_cons] at hn
      rcases ih n rest (by omega) hrest with ⟨behind, hvalue, hbehind⟩
      refine ⟨_, after ++ ':' :: (cs ++ rest), _, behind, ?_, hread _, ?_, hvalue, hbehind⟩
      · simp only [List.append_assoc, List.cons_append]
        exact skipBlanks_append_of_head hbefore rfl
      · exact skipBlanks_append_of_head hafter rfl
  | @lastMember name? j cs _h ih =>
      intro n rest hn
      rcases ih n ('\x7d' :: rest) hn (endsNumeral_cons (by decide)) with
        ⟨text, colon, value, after, htext, hname, hcolon, hread, hclose⟩
      rw [skipBlanks_of_head (c := '\x7d') rfl] at hclose
      simp only [readMembers, htext, hname, hcolon, hread, hclose]
  | @members name? j ms cs cs' _h _hs ih ihs =>
      intro n rest hn
      rw [List.length_append, List.length_cons] at hn
      obtain ⟨m, rfl⟩ : exists m, n = m + 1 := ⟨n - 1, by omega⟩
      rcases ih (m + 1) (',' :: (cs' ++ '\x7d' :: rest)) (by omega)
        (endsNumeral_cons (by decide)) with
        ⟨text, colon, value, after, htext, hname, hcolon, hread, hcomma⟩
      rw [skipBlanks_of_head (c := ',') rfl] at hcomma
      rw [List.append_assoc, List.cons_append, readMembers]
      simp only [htext, hname, hcolon, hread, hcomma, ihs m rest (by omega), Option.map_some]

/-- Every document is read as its value. -/
theorem parse?_of_isDocument {j : Json} {text : String} (h : IsDocument j text) :
    parse? text = some j := by
  rcases h.reads (2 * text.toList.length + 1) [] (Nat.le_succ _) endsNumeral_nil with
    ⟨after, hread, hend⟩
  rw [List.append_nil] at hread
  rw [parse?, ofChars?, hread]
  dsimp only
  rw [if_pos (all_isBlank_of_skipBlanks hend)]

end Json

end CurrencyWallet
