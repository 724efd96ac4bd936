import CurrencyWallet.Json.Printer
import CurrencyWallet.Proofs.Json.Grammar
import CurrencyWallet.Proofs.UserId

/-!
# What is printed is well formed

The text that is printed for a value is one of the texts that the grammar allows for it.
-/

namespace CurrencyWallet

namespace Json

/-!
## Texts
-/

theorem isValidChar_toNat (c : Char) : c.toNat.isValidChar :=
  c.valid

theorem joinUnits?_map_toNat (cs : List Char) : joinUnits? (cs.map Char.toNat) = some cs := by
  induction cs with
  | nil =>
      rfl
  | cons c cs ih =>
      cases cs with
      | nil =>
          rw [List.map_cons, List.map_nil, joinUnits?, if_pos (isValidChar_toNat c),
            Char.ofNat_toNat]
      | cons c' cs =>
          rw [List.map_cons] at ih
          rw [List.map_cons, List.map_cons, joinUnits?, if_pos (isValidChar_toNat c), ih,
            Option.map_some, Char.ofNat_toNat]

theorem natOfHex?_control {n : Nat} (h : n < 0x20) :
    natOfHex? ['0', '0', Nat.digitChar (n / 16), Nat.digitChar (n % 16)] = some n := by
  have hhigh : n / 16 < 16 := by omega
  have hlow : n % 16 < 16 := Nat.mod_lt _ (by decide)
  have hzero : hexDigit? '0' = some 0 := by decide
  simp only [natOfHex?, List.foldlM_cons, List.foldlM_nil, hzero, hexDigit?_digitChar hhigh,
    hexDigit?_digitChar hlow, Option.map_some, Option.bind_eq_bind, Option.bind_some,
    Option.pure_def]
  congr 1
  omega

theorem unitText_escape (c : Char) : UnitText c.toNat (escape c) := by
  rw [escape]
  split
  next hquote =>
    rw [hquote]
    exact .short (by decide)
  next hquote =>
    split
    next hslash =>
      rw [hslash]
      exact .short (by decide)
    next hslash =>
      split
      next hcontrol =>
        exact .hex (natOfHex?_control hcontrol)
      next hprintable =>
        exact .plain (Nat.le_of_not_lt hprintable) hquote hslash

theorem unitsText_flatMap_escape (cs : List Char) :
    UnitsText (cs.map Char.toNat) (cs.flatMap escape) := by
  induction cs with
  | nil =>
      exact .nil
  | cons c cs ih =>
      exact .cons (unitText_escape c) ih

theorem stringText_printString (s : String) : StringText (some s) (printString s.toList) := by
  have htext := StringText.quoted (unitsText_flatMap_escape s.toList)
  rw [joinUnits?_map_toNat, Option.map_some, String.ofList_toList] at htext
  exact htext

/-!
## Values
-/

theorem partText_print_string (s : String) : PartText (.value (.string s)) (print (.string s)) :=
  .string (stringText_printString s)

theorem isBlanks_nil : IsBlanks [] := by
  intro c hc
  cases hc

theorem partText_element {j : Json} {cs : List Char} (h : PartText (.value j) cs) :
    PartText (.element j) cs := by
  have htext := PartText.element isBlanks_nil h isBlanks_nil
  rw [List.nil_append, List.append_nil] at htext
  exact htext

theorem partText_member {name : String} {j : Json} {cs : List Char} (h : PartText (.value j) cs) :
    PartText (.member (some name) j) (printString name.toList ++ ':' :: cs) :=
  .member isBlanks_nil (stringText_printString name) isBlanks_nil (partText_element h)

theorem partText_printMembers {name : String} {j : Json} {ms : List (String × Json)}
    (h : forall m, m ∈ (name, j) :: ms -> PartText (.value m.2) m.2.print) :
    PartText (.members (((name, j) :: ms).map (fun m => (some m.1, m.2))))
      (printMembers ((name, j) :: ms)) := by
  induction ms generalizing name j with
  | nil =>
      exact .lastMember (partText_member (h _ List.mem_cons_self))
  | cons m ms ih =>
      have hfirst : PartText (.member (some name) j) _ := partText_member (h _ List.mem_cons_self)
      have htext := PartText.members hfirst (ih (fun m' hm' => h m' (List.mem_cons_of_mem _ hm')))
      rw [List.append_assoc, List.cons_append] at htext
      exact htext

theorem ofMembers_map_some (ms : List (String × Json)) :
    ofMembers (ms.map (fun m => (some m.1, m.2))) = .object ms := by
  have hnames : (ms.map (fun m => (some m.1, m.2))).mapM
      (fun (m : Option String × Json) => m.1.map (·, m.2)) = some ms := by
    induction ms with
    | nil =>
        rfl
    | cons m ms ih =>
        rw [List.map_cons, List.mapM_cons, ih]
        rfl
  rw [ofMembers, hnames]

theorem partText_print_object {ms : List (String × Json)}
    (h : forall m, m ∈ ms -> PartText (.value m.2) m.2.print) :
    PartText (.value (.object ms)) (print (.object ms)) := by
  cases ms with
  | nil =>
      exact .emptyObject isBlanks_nil
  | cons m ms =>
      have htext := PartText.object (partText_printMembers h)
      rw [ofMembers_map_some] at htext
      exact htext

theorem partText_print_fields {ms : List (String × Json)}
    (h : forall m, m ∈ ms -> exists s, m.2 = .string s) :
    PartText (.value (.object ms)) (print (.object ms)) := by
  apply partText_print_object
  intro m hm
  rcases h m hm with ⟨s, hs⟩
  rw [hs]
  exact partText_print_string s

theorem isDocument_render {j : Json} (h : PartText (.value j) j.print) : IsDocument j j.render := by
  rw [IsDocument, render, String.toList_ofList]
  exact partText_element h

end Json

end CurrencyWallet
