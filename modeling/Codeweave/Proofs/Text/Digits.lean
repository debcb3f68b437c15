import Codeweave.Text.DecimalDigit
import Mathlib.Tactic.IntervalCases

/-!
Numbers in decimal digits. The digits that a number is written in are read as that number.
-/

namespace Codeweave.Text

theorem digitValue?_digitChar {k : Nat} (h : k < 10) :
    digitValue? (Nat.digitChar k) = some k := by
  interval_cases k <;> rfl

theorem isDecimalDigit_of_mem_toDigits {n : Nat} {c : Char} (h : c ∈ Nat.toDigits 10 n) :
    isDecimalDigit c = true := by
  induction n using Nat.strongRecOn with
  | _ n ih =>
      rw [Nat.toDigits_eq_if (by decide)] at h
      split at h
      · rename_i hlt
        obtain rfl := List.mem_singleton.mp h
        rw [isDecimalDigit, digitValue?_digitChar hlt]
        rfl
      · rename_i hge
        rcases List.mem_append.mp h with h | h
        · exact ih (n / 10) (by omega) h
        · obtain rfl := List.mem_singleton.mp h
          rw [isDecimalDigit, digitValue?_digitChar (Nat.mod_lt n (by decide))]
          rfl

theorem digitsValue_concat (digits : List Char) (c : Char) :
    digitsValue (digits ++ [c]) = 10 * digitsValue digits + (digitValue? c).getD 0 := by
  simp [digitsValue]

theorem digitsValue_toDigits (n : Nat) : digitsValue (Nat.toDigits 10 n) = n := by
  induction n using Nat.strongRecOn with
  | _ n ih =>
      rw [Nat.toDigits_eq_if (by decide)]
      split
      · rename_i hlt
        rw [← List.nil_append [_], digitsValue_concat, digitValue?_digitChar hlt]
        simp [digitsValue]
      · rename_i hge
        rw [digitsValue_concat, ih (n / 10) (by omega),
          digitValue?_digitChar (Nat.mod_lt n (by decide)), Option.getD_some]
        omega

end Codeweave.Text
