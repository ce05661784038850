import CampaignDesk.Proofs.Json.Strings
import CampaignDesk.Proofs.Text.Digits

/-!
# Integers and words in JSON read back

* `Ends`: what may follow a value in a written document, which is nothing that a number goes on with.
* `wordOrNumber_ofInt`: **an integer that is not too long is read back from its digits.**
* `wordOrNumber_null`, `wordOrNumber_boolean`: so are the words.
-/

namespace CampaignDesk

namespace Json

/-- The digits of a number stand for it. -/
theorem digitsValue_ofNat (n : Nat) : digitsValue (Text.ofNat n) = n := by
  have hfold : digitsValue (Text.ofNat n) = Nat.ofDigitChars 10 (Nat.toDigits 10 n) 0 := by
    rw [digitsValue, Text.ofNat, List.foldl_map]
    rfl
  rw [hfold, Nat.ofDigitChars_toDigits (by decide) (by decide)]

/-- The code points that may stand right behind a value in a document. -/
def enders : List CodePoint := [0x2C, 0x0A, 0x5D, 0x7D]

/-- A text that may stand right behind a value in a document. -/
def Ends (rest : Text) : Prop := ∀ c ∈ rest.head?, c ∈ enders

theorem ends_nil : Ends [] := nofun

theorem ends_cons {c : CodePoint} {t : Text} : Ends (c :: t) ↔ c ∈ enders := by
  simp [Ends]

theorem takeWhile_digits {digits rest : Text} (hdigits : ∀ c ∈ digits, c.isDigit = true)
    (hrest : Ends rest) :
    (digits ++ rest).takeWhile CodePoint.isDigit = digits ∧
      (digits ++ rest).dropWhile CodePoint.isDigit = rest := by
  have hstop : rest.takeWhile CodePoint.isDigit = [] ∧ rest.dropWhile CodePoint.isDigit = rest := by
    cases rest with
    | nil => exact ⟨rfl, rfl⟩
    | cons c t =>
      have hender : ∀ c ∈ enders, c.isDigit = false := by simp [enders]; decide
      have hc : c.isDigit = false := hender c (ends_cons.1 hrest)
      simp [hc]
  rw [List.takeWhile_append_of_pos hdigits, List.dropWhile_append_of_pos hdigits, hstop.1, hstop.2]
  exact ⟨List.append_nil _, rfl⟩

theorem integerDigits_ofNat (n : Nat) {rest : Text} (hrest : Ends rest) :
    integerDigits (Text.ofNat n ++ rest) = (Text.ofNat n, rest) := by
  rcases Nat.eq_zero_or_pos n with rfl | hn
  · rw [Text.ofNat_zero]
    rfl
  · obtain ⟨c, t, hc, hne⟩ := Text.ofNat_of_pos hn
    obtain ⟨htake, hdrop⟩ := takeWhile_digits (fun d => Text.isDigit_of_mem_ofNat (n := n)) hrest
    rw [integerDigits.eq_2, htake, hdrop]
    intro after hafter
    rw [hc] at hafter
    cases hafter
    exact hne rfl

theorem fractionDigits_ends {rest : Text} (hrest : Ends rest) : fractionDigits rest = ([], rest) := by
  rw [fractionDigits.eq_2]
  rintro after rfl
  exact absurd (ends_cons.1 hrest) (by decide)

theorem exponentPart_ends {rest : Text} (hrest : Ends rest) : exponentPart rest = (none, rest) := by
  cases rest with
  | nil => rfl
  | cons c t =>
    have hender : ∀ c ∈ enders, ¬ (c = 0x65 ∨ c = 0x45) := by simp [enders]
    have hc : ¬ (c = 0x65 ∨ c = 0x45) := hender c (ends_cons.1 hrest)
    rw [exponentPart.eq_def]
    simp only [Bool.or_eq_true, decide_eq_true_eq, if_neg hc]

/-- An integer without a sign is read back from its digits, unless there are too many of them. -/
theorem unsignedNumber_ofNat (negative : Bool) {n : Nat} (hn : (Text.ofNat n).length ≤ maxDigits)
    {rest : Text} (hrest : Ends rest) :
    unsignedNumber negative (Text.ofNat n ++ rest) =
      .ok (.int (if negative then -(n : Int) else n), rest) := by
  have hempty : (Text.ofNat n).isEmpty = false := by simpa using Text.ofNat_ne_nil n
  simp only [unsignedNumber, integerDigits_ofNat n hrest, hempty, fractionDigits_ends hrest,
    exponentPart_ends hrest, digitsValue_ofNat]
  simp [Nat.not_lt.2 hn]

/-- No word is found in a text if none stands at its front. -/
theorem noWord {t : Text} (h : ∀ p ∈ words, (Text.ofString p.1).isPrefixOf t = false) :
    words.findSome? (fun (word, v) => (afterWord? word t).map fun rest => (v, rest)) = none := by
  rw [List.findSome?_eq_none_iff]
  intro p hp
  simp [afterWord?, h p hp]

/-- Every word begins with a letter, or with a minus sign and a letter. -/
theorem words_begin : ∀ p ∈ words, ∃ w x ws, Text.ofString p.1 = w :: x :: ws ∧ w.isDigit = false ∧
    (w ≠ 0x2D ∨ x.isDigit = false) := by
  simp only [words, List.forall_mem_cons]
  exact ⟨⟨_, _, _, rfl, by decide⟩, ⟨_, _, _, rfl, by decide⟩, ⟨_, _, _, rfl, by decide⟩,
    ⟨_, _, _, rfl, by decide⟩, ⟨_, _, _, rfl, by decide⟩, ⟨_, _, _, rfl, by decide⟩,
    List.forall_mem_nil _⟩

theorem ne_of_isDigit {c d : CodePoint} (hc : c.isDigit = false) (hd : d.isDigit = true) : c ≠ d := by
  rintro rfl
  rw [hc] at hd
  cases hd

theorem wordOrNumber_digit {c : CodePoint} (hc : c.isDigit = true) (t : Text) :
    wordOrNumber (c :: t) = unsignedNumber false (c :: t) := by
  have hnone := noWord (t := c :: t) fun p hp => by
    obtain ⟨w, x, ws, hw, hdigit, -⟩ := words_begin p hp
    simp [hw, List.isPrefixOf, ne_of_isDigit hdigit hc]
  unfold wordOrNumber
  rw [hnone]
  simp only
  split
  · -- a minus sign is no digit
    next heq =>
    cases heq
    cases hc
  · rfl

theorem wordOrNumber_minus {c : CodePoint} (hc : c.isDigit = true) (t : Text) :
    wordOrNumber (0x2D :: c :: t) = unsignedNumber true (c :: t) := by
  have hnone := noWord (t := 0x2D :: c :: t) fun p hp => by
    obtain ⟨w, x, ws, hw, -, hne | hdigit⟩ := words_begin p hp
    · simp [hw, List.isPrefixOf, hne]
    · simp [hw, List.isPrefixOf, ne_of_isDigit hdigit hc]
  unfold wordOrNumber
  rw [hnone]
  rfl

/-- An integer begins with a digit or a minus sign. -/
theorem ofInt_begins (n : Int) : ∃ c t, Text.ofInt n = c :: t ∧ (c.isDigit = true ∨ c = 0x2D) := by
  obtain ⟨c, t, hdigits⟩ := List.exists_cons_of_ne_nil (Text.ofNat_ne_nil n.natAbs)
  by_cases hneg : n < 0
  · refine ⟨0x2D, c :: t, ?_, .inr rfl⟩
    rw [Text.ofInt, if_pos hneg, hdigits]
    rfl
  · refine ⟨c, t, ?_, .inl (Text.isDigit_of_mem_ofNat (hdigits ▸ List.mem_cons_self))⟩
    rw [Text.ofInt, if_neg hneg, hdigits]

/-- **An integer that is not too long is read back from its digits.** -/
theorem wordOrNumber_ofInt {n : Int} (hn : (Text.ofNat n.natAbs).length ≤ maxDigits) {rest : Text}
    (hrest : Ends rest) : wordOrNumber (Text.ofInt n ++ rest) = .ok (.int n, rest) := by
  obtain ⟨c, t, hdigits⟩ := List.exists_cons_of_ne_nil (Text.ofNat_ne_nil n.natAbs)
  have hc : c.isDigit = true := Text.isDigit_of_mem_ofNat (hdigits ▸ List.mem_cons_self)
  by_cases hneg : n < 0
  · have hminus : Text.ofInt n = 0x2D :: c :: t := by
      rw [Text.ofInt, if_pos hneg, hdigits]
      rfl
    have hread := unsignedNumber_ofNat true hn hrest
    rw [hdigits] at hread
    rw [hminus]
    refine (wordOrNumber_minus hc _).trans (hread.trans ?_)
    have hvalue : -(n.natAbs : Int) = n := by omega
    simp only [if_true, hvalue]
  · have hplain : Text.ofInt n = c :: t := by
      rw [Text.ofInt, if_neg hneg, hdigits]
    have hread := unsignedNumber_ofNat false hn hrest
    rw [hdigits] at hread
    rw [hplain]
    refine (wordOrNumber_digit hc _).trans (hread.trans ?_)
    have hvalue : (n.natAbs : Int) = n := by omega
    simp only [Bool.false_eq_true, if_false, hvalue]

theorem wordOrNumber_null (rest : Text) :
    wordOrNumber (Text.ofString "null" ++ rest) = .ok (.null, rest) := rfl

theorem wordOrNumber_boolean (b : Bool) (rest : Text) :
    wordOrNumber (boolean b ++ rest) = .ok (.bool b, rest) := by
  cases b <;> rfl

end Json

end CampaignDesk
