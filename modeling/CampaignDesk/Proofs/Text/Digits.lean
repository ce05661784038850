import CampaignDesk.Text.Basic

/-!
# Numbers in decimal digits

* `Text.isDigit_of_mem_ofNat`, `Text.bounds_of_mem_ofNat`: a number is written in digits.
* `Text.ofNat_of_pos`, `Text.ofNat_ne_nil`: with no zero in front, and in one digit at least.
-/

namespace CampaignDesk

namespace Text

theorem isDigit_of_mem_ofNat {n : Nat} {c : CodePoint} (h : c ∈ ofNat n) : c.isDigit = true := by
  obtain ⟨d, hd, rfl⟩ := List.mem_map.1 h
  have hdigit := Nat.isDigit_of_mem_toDigits (by decide) (by decide) hd
  simp only [Char.isDigit, Bool.and_eq_true, decide_eq_true_eq, ge_iff_le, UInt32.le_iff_toNat_le]
    at hdigit
  simp only [CodePoint.isDigit, CodePoint.ofChar, Bool.and_eq_true]
  exact ⟨decide_eq_true hdigit.1, decide_eq_true hdigit.2⟩

/-- The digits are the code points from `0` to `9`. -/
theorem bounds_of_mem_ofNat {n : Nat} {c : CodePoint} (h : c ∈ ofNat n) :
    0x30 ≤ c.val ∧ c.val ≤ 0x39 := by
  have hdigit := isDigit_of_mem_ofNat h
  simp only [CodePoint.isDigit, Bool.and_eq_true, decide_eq_true_eq] at hdigit
  exact hdigit

theorem ofNat_zero : ofNat 0 = [0x30] := by decide

/-- There is no zero in front of a number that is not zero. -/
theorem ofNat_of_pos {n : Nat} (hn : 0 < n) : ∃ c t, ofNat n = c :: t ∧ c ≠ 0x30 := by
  induction n using Nat.strongRecOn with
  | ind n ih =>
    by_cases hsmall : n < 10
    · -- a single digit
      have hdigit : ∀ m < 10, 0 < m → CodePoint.ofChar m.digitChar ≠ 0x30 := by decide
      refine ⟨CodePoint.ofChar n.digitChar, [], ?_, hdigit n hsmall hn⟩
      rw [ofNat, Nat.toDigits_of_lt_base hsmall]
      rfl
    · have hstep : ofNat n = ofNat (n / 10) ++ [CodePoint.ofChar (n % 10).digitChar] := by
        rw [ofNat, Nat.toDigits_of_base_le (by decide) (Nat.not_lt.1 hsmall), List.map_append]
        rfl
      obtain ⟨c, t, hc, hne⟩ := ih (n / 10) (by omega) (by omega)
      refine ⟨c, t ++ [CodePoint.ofChar (n % 10).digitChar], ?_, hne⟩
      rw [hstep, hc]
      rfl

theorem ofNat_ne_nil (n : Nat) : ofNat n ≠ [] := by
  rcases Nat.eq_zero_or_pos n with rfl | hn
  · rw [ofNat_zero]
    exact List.cons_ne_nil _ _
  · obtain ⟨c, t, hc, -⟩ := ofNat_of_pos hn
    rw [hc]
    exact List.cons_ne_nil _ _

end Text

end CampaignDesk
