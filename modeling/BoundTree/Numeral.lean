/-!
# Numerals

Numbers are written as lists of characters, most significant digit first.  A
natural number has exactly one numeral: no leading zero, and `0` for zero.  A
negative integer carries one minus sign and nothing else marks a sign.

## Main definitions

* `Numeral.ofNat`, `Numeral.ofInt` — plain decimal numerals
* `Numeral.hex` — lower-case hexadecimal numerals without padding
* `Numeral.value` — the number that a list of decimal digits denotes

## Main statements

* `Numeral.value_ofNat` — reading a numeral gives the number back
-/

namespace BoundTree

namespace Numeral

/-- The plain decimal numeral of a natural number. -/
def ofNat (n : Nat) : List Char :=
  Nat.toDigits 10 n

/-- The plain decimal numeral of an integer, with a minus sign below zero. -/
def ofInt : Int → List Char
  | .ofNat n => ofNat n
  | .negSucc n => '-' :: ofNat (n + 1)

/-- The lower-case hexadecimal numeral of a natural number. -/
def hex (n : Nat) : List Char :=
  Nat.toDigits 16 n

/-- The number that a list of decimal digits denotes.  Leading zeros do not count. -/
def value (digits : List Char) : Nat :=
  Nat.ofDigitChars 10 digits 0

/-! ### Reading a numeral back -/

/-- A numeral is read back. -/
@[simp]
theorem value_ofNat (n : Nat) : value (ofNat n) = n :=
  Nat.ofDigitChars_toDigits (by decide) (by decide)

/-- Numbers with one numeral are equal. -/
theorem ofNat_injective {m n : Nat} (h : ofNat m = ofNat n) : m = n := by
  rw [← value_ofNat m, h, value_ofNat]

theorem ofNat_ne_nil (n : Nat) : ofNat n ≠ [] :=
  Nat.toDigits_ne_nil

/-- Numerals consist of digits. -/
theorem isDigit_of_mem_ofNat {n : Nat} {c : Char} (h : c ∈ ofNat n) : c.isDigit :=
  Nat.isDigit_of_mem_toDigits (by decide) (by decide) h

@[simp]
theorem ofInt_natCast (n : Nat) : ofInt (n : Int) = ofNat n :=
  rfl

/-- A numeral begins with a zero only if it is the zero alone. -/
theorem eq_nil_of_ofNat_eq_zero_cons {n : Nat} {digits : List Char}
    (h : ofNat n = '0' :: digits) : digits = [] := by
  induction n using Nat.strongRecOn generalizing digits with
  | ind n inductionHypothesis =>
    by_cases small : n < 10
    · rw [ofNat, Nat.toDigits_of_lt_base small] at h
      exact (List.cons.inj h).2.symm
    · have split : ofNat n = ofNat (n / 10) ++ [(n % 10).digitChar] :=
        Nat.toDigits_of_base_le (by decide) (Nat.le_of_not_lt small)
      obtain ⟨first, others, front⟩ := List.exists_cons_of_ne_nil (ofNat_ne_nil (n / 10))
      rw [split, front, List.cons_append] at h
      obtain ⟨rfl, -⟩ := List.cons.inj h
      -- the front is the zero alone, so there was only one digit
      have alone := inductionHypothesis (n / 10) (by omega) front
      have isZero : n / 10 = 0 := ofNat_injective (by rw [front, alone]; rfl)
      omega

theorem hex_of_lt {n : Nat} (h : n < 16) : hex n = [n.digitChar] :=
  Nat.toDigits_of_lt_base h

theorem hex_of_le {n : Nat} (h : 16 ≤ n) : hex n = hex (n / 16) ++ [(n % 16).digitChar] :=
  Nat.toDigits_of_base_le (by decide) h

/-- Hexadecimal numerals consist of hexadecimal digits. -/
theorem exists_digit_of_mem_hex {n : Nat} {c : Char} (h : c ∈ hex n) :
    ∃ digit < 16, c = digit.digitChar := by
  induction n using Nat.strongRecOn with
  | ind n inductionHypothesis =>
    by_cases small : n < 16
    · rw [hex_of_lt small, List.mem_singleton] at h
      exact ⟨n, small, h⟩
    · rw [hex_of_le (Nat.le_of_not_lt small), List.mem_append, List.mem_singleton] at h
      rcases h with front | last
      · exact inductionHypothesis (n / 16) (by omega) front
      · exact ⟨n % 16, Nat.mod_lt n (by decide), last⟩

end Numeral

end BoundTree
