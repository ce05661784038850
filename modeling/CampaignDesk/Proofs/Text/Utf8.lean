import CampaignDesk.Text.Utf8

/-!
# Texts survive their bytes

* `decodePoint_encodePoint`: the bytes of a code point read back as that code point, whatever
  follows them.
* `decode_encode`: **a text that has bytes is what these bytes decode to.**
* `encode?_ascii`: a text in ASCII has one byte for each code point.
* `encode?_cases`: a text has bytes exactly if it has no surrogate.
-/

namespace CampaignDesk.Utf8

theorem toNat_ofNat {n : Nat} (h : n < 256) : (UInt8.ofNat n).toNat = n := by
  rw [UInt8.toNat_ofNat', Nat.mod_eq_of_lt h]

theorem ofNat_val (c : CodePoint) {n : Nat} (h : n = c.val) : CodePoint.ofNat n = c := by
  subst h
  exact Fin.ofNat_val_eq_self c

theorem encodePoint_length_pos (c : CodePoint) : 0 < (encodePoint c).length := by
  simp only [encodePoint]
  split
  · simp
  · split
    · simp
    · split <;> simp

/-- A byte that holds six bits continues a code point. -/
theorem isContinuation_ofNat {n : Nat} (h : n < 0x40) :
    isContinuation (UInt8.ofNat (0x80 + n)) = true := by
  simp only [isContinuation, toNat_ofNat (show 0x80 + n < 256 by omega), Bool.and_eq_true,
    decide_eq_true_eq]
  omega

theorem payload_ofNat {n : Nat} (h : n < 0x40) : payload (UInt8.ofNat (0x80 + n)) = n := by
  unfold payload
  rw [toNat_ofNat (Nat.lt_trans (Nat.add_lt_add_left h 0x80) (by decide))]
  exact Nat.add_sub_cancel_left 0x80 n

theorem ofNat_eq_iff {m n : Nat} (hm : m < 256) (hn : n < 256) :
    UInt8.ofNat m = UInt8.ofNat n ↔ m = n := by
  refine ⟨fun h => ?_, fun h => by rw [h]⟩
  rw [← toNat_ofNat hm, ← toNat_ofNat hn, h]

/-- What a second byte with the lower bits `p` has to satisfy beside the lead bytes `E0`, `ED`, `F0`
and `F4`. -/
theorem mayFollow_iff (lead p : Nat) (hlead : lead < 256) (hp : p < 0x40) :
    mayFollow (UInt8.ofNat lead) (UInt8.ofNat (0x80 + p)) = true ↔
      (lead = 0xE0 → 0x20 ≤ p) ∧ (lead = 0xED → p < 0x20) ∧ (lead = 0xF0 → 0x10 ≤ p) ∧
        (lead = 0xF4 → p < 0x10) := by
  have heq (m : Nat) (hm : m < 256) := ofNat_eq_iff hlead hm
  have hbyte : (UInt8.ofNat (0x80 + p)).toNat = 0x80 + p := toNat_ofNat (by omega)
  simp only [mayFollow, isContinuation_ofNat hp, Bool.true_and, hbyte]
  rw [show (0xE0 : UInt8) = UInt8.ofNat 0xE0 from rfl, show (0xED : UInt8) = UInt8.ofNat 0xED from rfl,
    show (0xF0 : UInt8) = UInt8.ofNat 0xF0 from rfl, show (0xF4 : UInt8) = UInt8.ofNat 0xF4 from rfl]
  simp only [heq 0xE0 (by omega), heq 0xED (by omega), heq 0xF0 (by omega), heq 0xF4 (by omega)]
  split
  · rw [decide_eq_true_iff]
    omega
  split
  · rw [decide_eq_true_iff]
    omega
  split
  · rw [decide_eq_true_iff]
    omega
  split
  · rw [decide_eq_true_iff]
    omega
  · simp only [true_iff]
    omega

/-- **The bytes of a code point read back as that code point**, whatever follows them. -/
theorem decodePoint_encodePoint {c : CodePoint} (hc : c.isSurrogate = false) (rest : Bytes) :
    decodePoint (encodePoint c ++ rest) = .ok (c, rest) := by
  have hmax := c.isLt
  have hscalar : ¬ (0xD800 ≤ c.val ∧ c.val < 0xE000) := by
    simpa [CodePoint.isSurrogate] using hc
  unfold encodePoint
  generalize hn : c.val = n at hmax hscalar
  have hvalue {m : Nat} (h : m = n) : CodePoint.ofNat m = c := ofNat_val c (h.trans hn.symm)
  simp only
  split
  · simp only [List.cons_append, List.nil_append, decodePoint]
    rw [toNat_ofNat (by omega), if_pos (by omega), hvalue rfl]
  split
  · simp only [List.cons_append, List.nil_append, decodePoint]
    rw [toNat_ofNat (by omega), if_neg (by omega), if_neg (by omega), if_pos (by omega),
      isContinuation_ofNat (by omega), if_pos rfl, payload_ofNat (by omega), hvalue (by omega)]
  split
  · have hfollow :=
      (mayFollow_iff (0xE0 + n / 0x1000) (n / 0x40 % 0x40) (by omega) (by omega)).2 (by omega)
    simp only [List.cons_append, List.nil_append, decodePoint, hfollow]
    rw [toNat_ofNat (by omega), if_neg (by omega), if_neg (by omega), if_neg (by omega),
      if_pos (by omega), isContinuation_ofNat (by omega), payload_ofNat (by omega),
      payload_ofNat (by omega), hvalue (by omega)]
    rfl
  · have hfollow :=
      (mayFollow_iff (0xF0 + n / 0x40000) (n / 0x1000 % 0x40) (by omega) (by omega)).2 (by omega)
    simp only [List.cons_append, List.nil_append, decodePoint, hfollow]
    rw [toNat_ofNat (by omega), if_neg (by omega), if_neg (by omega), if_neg (by omega),
      if_neg (by omega), if_pos (by omega), isContinuation_ofNat (by omega),
      isContinuation_ofNat (by omega), payload_ofNat (by omega), payload_ofNat (by omega),
      payload_ofNat (by omega), hvalue (by omega)]
    rfl

/-- Decoding with enough fuel gives back what was encoded, wherever the text begins. -/
theorem decodeFrom_encodeFrom {t : Text} {bytes : Bytes} {fuel : Nat} (start position : Nat)
    (h : encodeFrom start t = .ok bytes) (hfuel : bytes.length ≤ fuel) :
    decodeFrom fuel position bytes = .ok t := by
  induction t generalizing bytes fuel start position with
  | nil =>
    cases h
    cases fuel <;> rfl
  | cons c rest ih =>
    unfold encodeFrom at h
    by_cases hc : c.isSurrogate = true
    · rw [if_pos hc] at h
      cases h
    rw [if_neg hc] at h
    cases hrest : encodeFrom (start + 1) rest with
    | error fault =>
      rw [hrest] at h
      cases h
    | ok more =>
      rw [hrest] at h
      cases h
      have hpos := encodePoint_length_pos c
      rw [List.length_append] at hfuel
      obtain ⟨b, tail, hb⟩ := List.exists_cons_of_length_pos hpos
      obtain ⟨fuel, rfl⟩ : ∃ n, fuel = n + 1 := ⟨fuel - 1, by omega⟩
      have hpoint := decodePoint_encodePoint (Bool.eq_false_iff.2 hc) more
      have hmore := ih (start + 1) (position + (encodePoint c).length) hrest
        (show more.length ≤ fuel by omega)
      rw [hb, List.cons_append] at hpoint ⊢
      simp only [decodeFrom, hpoint]
      rw [hmore]
      rfl

/-- **A text that has bytes is what these bytes decode to.** -/
theorem decode_encode {t : Text} {bytes : Bytes} (h : encode? t = .ok bytes) :
    decode? bytes = .ok t :=
  decodeFrom_encodeFrom 0 0 h (Nat.le_refl _)

/-! ## ASCII -/

/-- The bytes of a text in ASCII, one for each code point. -/
def ascii (t : Text) : Bytes := t.map fun c => UInt8.ofNat c.val

/-- A text in ASCII has one byte for each code point. -/
theorem encode?_ascii {t : Text} (h : ∀ c ∈ t, c.val < 0x80) : encode? t = .ok (ascii t) := by
  have hfrom (position : Nat) : encodeFrom position t = .ok (ascii t) := by
    induction t generalizing position with
    | nil => rfl
    | cons c t ih =>
      have hc : c.val < 0x80 := h c List.mem_cons_self
      have hplain : c.isSurrogate = false := by
        simp only [CodePoint.isSurrogate, Bool.and_eq_false_iff, decide_eq_false_iff_not]
        omega
      have hpoint : encodePoint c = [UInt8.ofNat c.val] := by
        simp only [encodePoint, if_pos hc]
      rw [encodeFrom, hplain, ih (fun d hd => h d (List.mem_cons_of_mem c hd)), hpoint]
      rfl
  exact hfrom 0

theorem toNat_lt_of_mem_ascii {t : Text} (h : ∀ c ∈ t, c.val < 0x80) {b : UInt8} (hb : b ∈ ascii t) :
    b.toNat < 0x80 := by
  obtain ⟨c, hc, rfl⟩ := List.mem_map.1 hb
  have hlt := h c hc
  rwa [toNat_ofNat (by omega)]

/-! ## Texts that have bytes -/

theorem encodeFrom_surrogate {t : Text} {position : Nat} {bytes : Bytes}
    (h : encodeFrom position t = .ok bytes) : ∀ c ∈ t, c.isSurrogate = false := by
  induction t generalizing position bytes with
  | nil => exact nofun
  | cons c rest ih =>
    unfold encodeFrom at h
    by_cases hc : c.isSurrogate = true
    · rw [if_pos hc] at h
      cases h
    rw [if_neg hc] at h
    cases hrest : encodeFrom (position + 1) rest with
    | error fault =>
      rw [hrest] at h
      cases h
    | ok more =>
      intro d hd
      rcases List.mem_cons.1 hd with rfl | hd
      · exact Bool.eq_false_iff.2 hc
      · exact ih hrest d hd

/-- A text without surrogates has bytes, and one with a surrogate has none. -/
theorem encode?_cases (text : Text) :
    (∃ bytes, encode? text = .ok bytes ∧ ∀ c ∈ text, c.isSurrogate = false) ∨
    ∃ fault, encode? text = .error fault ∧ ∃ c ∈ text, c.isSurrogate = true := by
  have hfault (position : Nat) {fault : EncodeFault} (h : encodeFrom position text = .error fault) :
      ∃ c ∈ text, c.isSurrogate = true := by
    induction text generalizing position fault with
    | nil => cases h
    | cons c rest ih =>
      by_cases hc : c.isSurrogate = true
      · exact ⟨c, List.mem_cons_self, hc⟩
      rw [encodeFrom, if_neg hc] at h
      rcases hrest : encodeFrom (position + 1) rest with f | bytes <;> rw [hrest] at h
      · obtain ⟨d, hd, hsurrogate⟩ := ih _ hrest
        exact ⟨d, List.mem_cons_of_mem c hd, hsurrogate⟩
      · cases h
  rcases h : encode? text with fault | bytes
  · exact .inr ⟨fault, rfl, hfault 0 h⟩
  · exact .inl ⟨bytes, rfl, encodeFrom_surrogate h⟩

end CampaignDesk.Utf8
