import CampaignDesk.Json.Printer
import CampaignDesk.Json.Reader
import CampaignDesk.Proofs.Text.Utf8
import Mathlib.Data.List.Chain

/-!
# Strings in JSON read back

* `escapePoint_cases`: a code point inside a string is written as it is, as a one-letter escape, or with
  four-digit escapes.
* `Unpaired`: texts in which no two neighbours would be read as one code point.
* `Alone`: a text that does not go on with the second half of a surrogate pair. `stringRest_point`: in
  front of such a text **every code point is read back from its escape**, lone surrogates included.
* `stringBody_string`: **an unpaired text is read back from the string it is written as**, whatever
  follows.
-/

namespace CampaignDesk.Json

/-! ## Four-digit escapes -/

theorem hexValue?_hexDigit : ∀ n < 16, (CodePoint.hexDigit n).hexValue? = some n := by decide

/-- Four hexadecimal digits are read back as the number they are written for. -/
theorem hexNumber?_hex {n : Nat} (hn : n < 0x10000) :
    ∃ a b c d, Text.hex 4 n = [a, b, c, d] ∧ hexNumber? a b c d = some n := by
  have digit (m : Nat) : (CodePoint.hexDigit (m % 16)).hexValue? = some (m % 16) :=
    hexValue?_hexDigit _ (Nat.mod_lt _ (by omega))
  refine ⟨_, _, _, _, rfl, ?_⟩
  simp only [hexNumber?, digit, Option.some.injEq]
  omega

theorem ofNat_val_of_lt {n : Nat} (hn : n < 0x110000) : (CodePoint.ofNat n).val = n :=
  Nat.mod_eq_of_lt hn

/-- The text goes on, and not with the second half of a surrogate pair. -/
def Alone (t : Text) : Prop := t ≠ [] ∧ lowHalf t = .ok (none, t)

/-- A four-digit escape is read as its code point, unless that is the first half of a pair. -/
theorem escape_hex (string : Text) {n : Nat} {rest : Text} (hn : n < 0x10000) (hrest : rest ≠ [])
    (halone : (CodePoint.ofNat n).isHighSurrogate = true → Alone rest) :
    escape string (0x75 :: (Text.hex 4 n ++ rest)) = .ok (CodePoint.ofNat n, rest) := by
  obtain ⟨a, b, c, d, hhex, hnumber⟩ := hexNumber?_hex hn
  obtain ⟨f, rest', rfl⟩ := List.exists_cons_of_ne_nil hrest
  rw [hhex]
  simp only [List.cons_append, List.nil_append, escape, if_true, hnumber]
  by_cases hhigh : (CodePoint.ofNat n).isHighSurrogate = true
  · rw [if_pos hhigh, (halone hhigh).2]
    rfl
  · rw [if_neg hhigh]
    rfl

/-- Two four-digit escapes, of a high and a low surrogate, are read as the code point of the pair. -/
theorem escape_pair (string : Text) {n m : Nat} {rest : Text} (hn : n < 0x10000) (hm : m < 0x10000)
    (hhigh : (CodePoint.ofNat n).isHighSurrogate = true)
    (hlow : (CodePoint.ofNat m).isLowSurrogate = true) (hrest : rest ≠ []) :
    escape string (0x75 :: (Text.hex 4 n ++ 0x5C :: 0x75 :: (Text.hex 4 m ++ rest))) =
      .ok (CodePoint.ofPair (CodePoint.ofNat n) (CodePoint.ofNat m), rest) := by
  obtain ⟨a, b, c, d, hhex, hnumber⟩ := hexNumber?_hex hn
  obtain ⟨a', b', c', d', hhex', hnumber'⟩ := hexNumber?_hex hm
  obtain ⟨f, rest', rfl⟩ := List.exists_cons_of_ne_nil hrest
  rw [hhex, hhex']
  have hhalf : lowHalf (0x5C :: 0x75 :: a' :: b' :: c' :: d' :: f :: rest') =
      .ok (some (CodePoint.ofNat m), f :: rest') := by
    simp only [lowHalf, hnumber', if_pos hlow]
  simp only [List.cons_append, List.nil_append, escape, if_true, hnumber, if_pos hhigh, hhalf]
  rfl

/-! ## One code point -/

/-- **How a code point is written**: as it is, as a one-letter escape, or with four-digit escapes. -/
theorem escapePoint_cases (c : CodePoint) :
    (escapePoint c = [c] ∧ c ≠ 0x22 ∧ c ≠ 0x5C ∧ 0x20 ≤ c.val ∧ c.val < 0x7F) ∨
    (∃ e, escapePoint c = [0x5C, e] ∧ e ≠ 0x75 ∧ escaped? e = some c ∧ 0x20 ≤ e.val ∧ e.val < 0x7F) ∨
    escapePoint c = unicodeEscape c := by
  unfold escapePoint
  by_cases hletter : c = 0x22 ∨ c = 0x5C ∨ c = 0x0A ∨ c = 0x0D ∨ c = 0x09 ∨ c = 0x08 ∨ c = 0x0C
  · right; left
    rcases hletter with rfl | rfl | rfl | rfl | rfl | rfl | rfl <;>
      exact ⟨_, rfl, by decide, by decide, by decide, by decide⟩
  · simp only [not_or] at hletter
    obtain ⟨hquote, hback, hline, hreturn, htab, hbell, hfeed⟩ := hletter
    simp only [if_neg hquote, if_neg hback, if_neg hline, if_neg hreturn, if_neg htab, if_neg hbell,
      if_neg hfeed]
    by_cases hplain : (decide (0x20 ≤ c.val) && decide (c.val < 0x7F)) = true
    · rw [if_pos hplain]
      simp only [Bool.and_eq_true, decide_eq_true_eq] at hplain
      exact .inl ⟨rfl, hquote, hback, hplain⟩
    · rw [if_neg hplain]
      exact .inr (.inr rfl)

theorem unicodeEscape_of_lt {c : CodePoint} (h : c.val < 0x10000) :
    unicodeEscape c = 0x5C :: 0x75 :: Text.hex 4 c.val := by
  rw [unicodeEscape, if_pos h]
  rfl

theorem unicodeEscape_of_le {c : CodePoint} (h : 0x10000 ≤ c.val) :
    unicodeEscape c = 0x5C :: 0x75 :: (Text.hex 4 (0xD800 + (c.val - 0x10000) / 0x400) ++
      0x5C :: 0x75 :: Text.hex 4 (0xDC00 + (c.val - 0x10000) % 0x400)) := by
  rw [unicodeEscape, if_neg (by omega)]
  simp

/-- A code point written with four-digit escapes is read back. -/
theorem escape_unicode (string : Text) {c : CodePoint} {rest : Text} (hrest : rest ≠ [])
    (halone : c.isHighSurrogate = true → Alone rest) :
    ∃ digits, unicodeEscape c = 0x5C :: digits ∧ escape string (digits ++ rest) = .ok (c, rest) := by
  by_cases hsmall : c.val < 0x10000
  · refine ⟨_, unicodeEscape_of_lt hsmall, ?_⟩
    have hread := escape_hex string hsmall hrest (by rwa [Utf8.ofNat_val c rfl])
    rwa [Utf8.ofNat_val c rfl] at hread
  · have hc := c.isLt
    refine ⟨_, unicodeEscape_of_le (by omega), ?_⟩
    have hhigh : (CodePoint.ofNat (0xD800 + (c.val - 0x10000) / 0x400)).isHighSurrogate = true := by
      rw [CodePoint.isHighSurrogate, ofNat_val_of_lt (by omega)]
      simp only [Bool.and_eq_true, decide_eq_true_eq]
      omega
    have hlow : (CodePoint.ofNat (0xDC00 + (c.val - 0x10000) % 0x400)).isLowSurrogate = true := by
      rw [CodePoint.isLowSurrogate, ofNat_val_of_lt (by omega)]
      simp only [Bool.and_eq_true, decide_eq_true_eq]
      omega
    have hread := escape_pair string (by omega) (by omega) hhigh hlow hrest
    have hpair : CodePoint.ofPair (CodePoint.ofNat (0xD800 + (c.val - 0x10000) / 0x400))
        (CodePoint.ofNat (0xDC00 + (c.val - 0x10000) % 0x400)) = c := by
      have hfirst : (CodePoint.ofNat (0xD800 + (c.val - 0x10000) / 0x400)).val =
          0xD800 + (c.val - 0x10000) / 0x400 := ofNat_val_of_lt (by omega)
      have hsecond : (CodePoint.ofNat (0xDC00 + (c.val - 0x10000) % 0x400)).val =
          0xDC00 + (c.val - 0x10000) % 0x400 := ofNat_val_of_lt (by omega)
      apply Fin.ext
      rw [CodePoint.ofPair, hfirst, hsecond, ofNat_val_of_lt (by omega)]
      omega
    rw [hpair] at hread
    simpa using hread

/-- A code point that is not the second half of a pair is written as something that is not read as
one. -/
theorem alone_escapePoint {c : CodePoint} (hlow : c.isLowSurrogate = false) {rest : Text}
    (hrest : rest ≠ []) : Alone (escapePoint c ++ rest) := by
  -- an escape whose number is no low surrogate
  have halone {n : Nat} {after : Text} (hn : n < 0x10000)
      (hn' : (CodePoint.ofNat n).isLowSurrogate = false) (hafter : after ≠ []) :
      Alone (0x5C :: 0x75 :: (Text.hex 4 n ++ after)) := by
    obtain ⟨a, b, d, e, hhex, hnumber⟩ := hexNumber?_hex hn
    obtain ⟨f, after', rfl⟩ := List.exists_cons_of_ne_nil hafter
    refine ⟨List.cons_ne_nil _ _, ?_⟩
    rw [hhex]
    simp only [List.cons_append, List.nil_append, lowHalf, hnumber, hn', Bool.false_eq_true, if_false]
  rcases escapePoint_cases c with ⟨hself, -, hback, -⟩ | ⟨e, hletter, hu, -⟩ | hunicode
  · rw [hself]
    refine ⟨List.cons_ne_nil _ _, ?_⟩
    rw [lowHalf.eq_2]
    rintro _ _ _ _ _ _ ⟨⟩
    exact hback rfl
  · rw [hletter]
    refine ⟨List.cons_ne_nil _ _, ?_⟩
    rw [lowHalf.eq_2]
    rintro _ _ _ _ _ _ ⟨⟩
    exact hu rfl
  · rw [hunicode]
    by_cases hsmall : c.val < 0x10000
    · rw [unicodeEscape_of_lt hsmall]
      exact halone hsmall (by rwa [Utf8.ofNat_val c rfl]) hrest
    · have hc := c.isLt
      rw [unicodeEscape_of_le (by omega)]
      have hhigh : (CodePoint.ofNat (0xD800 + (c.val - 0x10000) / 0x400)).isLowSurrogate = false := by
        rw [CodePoint.isLowSurrogate, ofNat_val_of_lt (by omega)]
        simp only [Bool.and_eq_false_iff, decide_eq_false_iff_not]
        omega
      simpa using halone (by omega) hhigh (List.cons_ne_nil _ _)

/-- **A code point is read back from what it is written as**, in front of whatever is not taken for the
second half of a pair that it begins. -/
theorem stringRest_point (string : Text) (fuel : Nat) {c : CodePoint} {rest : Text} (hrest : rest ≠ [])
    (halone : c.isHighSurrogate = true → Alone rest) :
    stringRest string (fuel + 1) (escapePoint c ++ rest) = do
      let (s, after) ← stringRest string fuel rest
      return (c :: s, after) := by
  -- behind a backslash the escape decides
  have hescape {digits : Text} (hread : escape string (digits ++ rest) = .ok (c, rest)) :
      stringRest string (fuel + 1) (0x5C :: (digits ++ rest)) = do
        let (s, after) ← stringRest string fuel rest
        return (c :: s, after) := by
    rw [stringRest, if_neg (by decide), if_pos rfl, hread]
    rfl
  rcases escapePoint_cases c with ⟨hself, hquote, hback, hlarge, -⟩ | ⟨e, hletter, hu, he, -⟩ | hunicode
  · rw [hself]
    simp only [List.cons_append, List.nil_append, stringRest, if_neg hquote, if_neg hback,
      if_neg (Nat.not_lt.2 hlarge)]
  · rw [hletter]
    have hread : escape string ([e] ++ rest) = .ok (c, rest) := by
      simp only [List.cons_append, List.nil_append, escape, if_neg hu, he]
    exact hescape hread
  · obtain ⟨digits, hdigits, hread⟩ := escape_unicode string hrest halone
    rw [hunicode, hdigits]
    exact hescape hread

/-! ## Whole strings -/

/-- No high surrogate is immediately followed by a low one. -/
def Unpaired (t : Text) : Prop :=
  t.IsChain fun c d => ¬ (c.isHighSurrogate = true ∧ d.isLowSurrogate = true)

instance (t : Text) : Decidable (Unpaired t) := by
  unfold Unpaired
  infer_instance

/-- What follows the first code point of an unpaired text in its string is not taken for the second half
of a pair that the code point begins. -/
theorem Unpaired.alone {c : CodePoint} {t : Text} (h : Unpaired (c :: t)) (rest : Text)
    (hhigh : c.isHighSurrogate = true) : Alone (t.flatMap escapePoint ++ 0x22 :: rest) := by
  cases t with
  | nil => exact ⟨List.cons_ne_nil _ _, rfl⟩
  | cons d t =>
    have hlow : d.isLowSurrogate = false := by
      have hpair := (List.isChain_cons_cons.1 h).1
      simpa [hhigh] using hpair
    have hrest : t.flatMap escapePoint ++ 0x22 :: rest ≠ [] := by simp
    simpa using alone_escapePoint hlow hrest

/-- **An unpaired text is read back from its string**, with what follows the closing quote left over. -/
theorem stringRest_string (string : Text) {t : Text} (ht : Unpaired t) (rest : Text) {fuel : Nat}
    (hfuel : t.length < fuel) :
    stringRest string fuel (t.flatMap escapePoint ++ 0x22 :: rest) = .ok (t, rest) := by
  induction t generalizing fuel with
  | nil =>
    obtain ⟨fuel, rfl⟩ := Nat.exists_eq_succ_of_ne_zero (Nat.ne_of_gt hfuel)
    rfl
  | cons c t ih =>
    obtain ⟨fuel, rfl⟩ := Nat.exists_eq_succ_of_ne_zero (Nat.ne_of_gt (Nat.zero_lt_of_lt hfuel))
    rw [List.flatMap_cons, List.append_assoc,
      stringRest_point string fuel (by simp) (ht.alone rest), ih ht.tail (by simpa using hfuel)]
    rfl

theorem escapePoint_ne_nil (c : CodePoint) : escapePoint c ≠ [] := by
  rcases escapePoint_cases c with ⟨hself, -⟩ | ⟨e, hletter, -⟩ | hunicode
  · simp [hself]
  · simp [hletter]
  · rw [hunicode, unicodeEscape]
    split <;> simp

/-- A string is no shorter than its text. -/
theorem length_le_flatMap_escapePoint (t : Text) : t.length ≤ (t.flatMap escapePoint).length := by
  induction t with
  | nil => exact Nat.le_refl _
  | cons c t ih =>
    have hpos : 0 < (escapePoint c).length := List.length_pos_iff.2 (escapePoint_ne_nil c)
    rw [List.flatMap_cons, List.length_append, List.length_cons]
    omega

theorem stringBody_string {t : Text} (ht : Unpaired t) (rest : Text) :
    stringBody (t.flatMap escapePoint ++ 0x22 :: rest) = .ok (t, rest) := by
  apply stringRest_string _ ht
  have hlength := length_le_flatMap_escapePoint t
  rw [List.length_append, List.length_cons]
  omega

end CampaignDesk.Json
