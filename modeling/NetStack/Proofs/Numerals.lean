import Mathlib.Data.List.Forall2
import Mathlib.Data.Nat.Digits.Defs
import NetStack.Address.Text

/-!
# Hexadecimal numbers in text

Characters are read as hexadecimal digits in either case (`hexDigit?_eq_some_iff`), and a row of
digits as the number that has them in base 16, however many zeros stand in front
(`digits?_eq_some_iff`). A number that is written in hexadecimal is read as the same number
(`digits?_toDigits`).
-/

namespace NetStack.Text

/-- A character is the hexadecimal digit of a value below sixteen, in either case. -/
def IsHexDigit (c : Char) (value : Nat) : Prop :=
  value < 16 ∧ (c = value.digitChar ∨ c = value.digitChar.toUpper)

instance (c : Char) (value : Nat) : Decidable (IsHexDigit c value) :=
  inferInstanceAs (Decidable (_ ∧ _))

/-- Only ASCII characters are read as digits. -/
theorem toNat_lt_of_hexDigit? {c : Char} {value : Nat} (h : hexDigit? c = some value) :
    c.toNat < 128 := by
  have hbelow {bound : Char} (hbound : bound.toNat < 128) (hle : c ≤ bound) : c.toNat < 128 :=
    Nat.lt_of_le_of_lt hle hbound
  unfold hexDigit? at h
  split_ifs at h with hdecimal hlower hupper
  · exact hbelow (by decide) hdecimal.2
  · exact hbelow (by decide) hlower.2
  · exact hbelow (by decide) hupper.2

/-- The digits that are read are those of both cases. -/
theorem hexDigit?_eq_some_iff {c : Char} {value : Nat} :
    hexDigit? c = some value ↔ IsHexDigit c value := by
  constructor
  · intro h
    have hall : ∀ n : Fin 128, ∀ value ∈ hexDigit? (Char.ofNat n),
        IsHexDigit (Char.ofNat n) value := by
      decide
    have hc := hall ⟨c.toNat, toNat_lt_of_hexDigit? h⟩
    rw [Char.ofNat_toNat] at hc
    exact hc value h
  · have hall : ∀ value : Fin 16, hexDigit? value.val.digitChar = some value.val ∧
        hexDigit? value.val.digitChar.toUpper = some value.val := by
      decide
    rintro ⟨hlt, rfl | rfl⟩
    · exact (hall ⟨value, hlt⟩).1
    · exact (hall ⟨value, hlt⟩).2

/-- Digits write the number that has them in base 16, the first digit being the most significant.
-/
def IsNumeral (digits : List Char) (n : Nat) : Prop :=
  ∃ values, List.Forall₂ IsHexDigit digits values ∧ n = Nat.ofDigits 16 values.reverse

/-- No digits write zero. -/
theorem isNumeral_nil_iff {n : Nat} : IsNumeral [] n ↔ n = 0 := by
  unfold IsNumeral
  simp only [List.forall₂_nil_left_iff, exists_eq_left, List.reverse_nil, Nat.ofDigits_nil]

/-- A digit in front counts by the power of the base that the digits behind it leave it. -/
theorem isNumeral_cons_iff {c : Char} {rest : List Char} {n : Nat} :
    IsNumeral (c :: rest) n ↔
      ∃ value m, IsHexDigit c value ∧ IsNumeral rest m ∧ n = 16 ^ rest.length * value + m := by
  have hvalue {value : Nat} {values : List Nat} (hrest : List.Forall₂ IsHexDigit rest values) :
      Nat.ofDigits 16 (value :: values).reverse =
        16 ^ rest.length * value + Nat.ofDigits 16 values.reverse := by
    rw [List.reverse_cons, Nat.ofDigits_append, Nat.ofDigits_singleton, List.length_reverse,
      hrest.length_eq, Nat.add_comm]
  constructor
  · rintro ⟨_, hdigits, rfl⟩
    obtain ⟨value, values, hc, hrest, rfl⟩ := List.forall₂_cons_left_iff.1 hdigits
    exact ⟨value, _, hc, ⟨values, hrest, rfl⟩, hvalue hrest⟩
  · rintro ⟨value, _, hc, ⟨values, hrest, rfl⟩, rfl⟩
    exact ⟨value :: values, .cons hc hrest, (hvalue hrest).symm⟩

/-- Digits are read as the number that they write, behind the one that was read before. -/
theorem digits?_eq_some_iff {value n : Nat} {digits : List Char} :
    digits? 16 hexDigit? value digits = some n ↔
      ∃ m, IsNumeral digits m ∧ n = 16 ^ digits.length * value + m := by
  induction digits generalizing value with
  | nil =>
    simp only [digits?, Option.some_inj, isNumeral_nil_iff, exists_eq_left, List.length_nil]
    omega
  | cons c rest ih =>
    have hshift (d m : Nat) : 16 ^ rest.length * (16 * value + d) + m =
        16 ^ (rest.length + 1) * value + (16 ^ rest.length * d + m) := by
      ring
    rw [digits?]
    simp only [isNumeral_cons_iff, List.length_cons]
    cases hc : hexDigit? c with
    | none =>
      refine iff_of_false (fun h => nomatch h) ?_
      rintro ⟨_, ⟨d, m, hd, -, -⟩, -⟩
      rw [hexDigit?_eq_some_iff.2 hd] at hc
      exact nomatch hc
    | some d =>
      simp only [ih, hshift]
      constructor
      · rintro ⟨m, hm, rfl⟩
        exact ⟨_, ⟨d, m, hexDigit?_eq_some_iff.1 hc, hm, rfl⟩, rfl⟩
      · rintro ⟨_, ⟨d', m, hd, hm, rfl⟩, rfl⟩
        rw [← hexDigit?_eq_some_iff, hc, Option.some_inj] at hd
        exact ⟨m, hm, by rw [hd]⟩

/-- Digits behind other digits go on with the number of those. -/
theorem digits?_append (base : Nat) (digit? : Char → Option Nat) (value : Nat)
    (front back : List Char) :
    digits? base digit? value (front ++ back) =
      (digits? base digit? value front).bind (digits? base digit? · back) := by
  induction front generalizing value with
  | nil => rfl
  | cons c front ih =>
    simp only [List.cons_append, digits?]
    cases digit? c with
    | none => rfl
    | some d => exact ih _

/-- A written digit reads as what it stands for. -/
theorem digits?_digitChar {d : Nat} (h : d < 16) (value : Nat) :
    digits? 16 hexDigit? value [d.digitChar] = some (16 * value + d) := by
  simp only [digits?, hexDigit?_eq_some_iff.2 ⟨h, .inl rfl⟩]

/-- A number that is written in hexadecimal reads as the same number. -/
theorem digits?_toDigits (n : Nat) : digits? 16 hexDigit? 0 (Nat.toDigits 16 n) = some n := by
  induction n using Nat.strongRecOn with
  | ind n ih =>
    obtain hlt | hle := Nat.lt_or_ge n 16
    · rw [Nat.toDigits_of_lt_base hlt, digits?_digitChar hlt, Nat.mul_zero, Nat.zero_add]
    · have hfront := ih (n / 16) (Nat.div_lt_self (Nat.lt_of_lt_of_le (by decide) hle) (by decide))
      rw [Nat.toDigits_of_base_le (by decide) hle, digits?_append, hfront, Option.bind_some,
        digits?_digitChar (Nat.mod_lt n (by decide)), Nat.div_add_mod]

end NetStack.Text
