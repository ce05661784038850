import CampaignDesk.Proofs.Json.Strings
import CampaignDesk.Proofs.Text.Digits
import CampaignDesk.Proofs.Text.Pieces

/-!
# JSON in printable ASCII

* `printable_string`, `printable_number`: whatever a string or a number stands for, it is written in
  printable ASCII.
* `Laid`: printable ASCII, and line feeds if the layout has lines. `laid_write`: **every value is written so
  at every level**, by induction on the value.
* `printable_compact`: a value on one line has no line feed in it, whatever its texts hold.
* `Plain.unifyLineEnds`: what is written is not changed when it is read as lines.
-/

namespace CampaignDesk.Json

/-! ## Strings and numbers -/

/-- Every code point is printable ASCII. -/
def Printable (t : Text) : Prop := ∀ c ∈ t, 0x20 ≤ c.val ∧ c.val < 0x7F

instance (t : Text) : Decidable (Printable t) :=
  decidable_of_iff (t.all fun c => 0x20 ≤ c.val && c.val < 0x7F) (by simp [Printable])

theorem Printable.append {s t : Text} (hs : Printable s) (ht : Printable t) : Printable (s ++ t) := by
  intro c hc
  rcases List.mem_append.1 hc with h | h
  · exact hs c h
  · exact ht c h

theorem printable_cons {c : CodePoint} {t : Text} :
    Printable (c :: t) ↔ (0x20 ≤ c.val ∧ c.val < 0x7F) ∧ Printable t :=
  List.forall_mem_cons

/-- Printable ASCII has no line feed. -/
theorem Printable.no_feed {t : Text} (h : Printable t) : (0x0A : CodePoint) ∉ t := by
  intro hfeed
  exact absurd (h _ hfeed).1 (by decide)

theorem hexDigit_printable :
    ∀ n < 16, 0x20 ≤ (CodePoint.hexDigit n).val ∧ (CodePoint.hexDigit n).val < 0x7F := by
  decide

theorem printable_hex (width n : Nat) : Printable (Text.hex width n) := by
  induction width generalizing n with
  | zero => exact List.forall_mem_nil _
  | succ width ih =>
    refine (ih _).append ?_
    intro c hc
    rw [List.mem_singleton.1 hc]
    exact hexDigit_printable _ (Nat.mod_lt _ (by omega))

theorem printable_escapePoint (c : CodePoint) : Printable (escapePoint c) := by
  have hbackslash : 0x20 ≤ (0x5C : CodePoint).val ∧ (0x5C : CodePoint).val < 0x7F := by decide
  rcases escapePoint_cases c with ⟨hself, -, -, hplain⟩ | ⟨e, hletter, -, -, hplain⟩ | hunicode
  · rw [hself]
    exact printable_cons.2 ⟨hplain, List.forall_mem_nil _⟩
  · rw [hletter]
    exact printable_cons.2 ⟨hbackslash, printable_cons.2 ⟨hplain, List.forall_mem_nil _⟩⟩
  · have hescape (n : Nat) : Printable ([0x5C, 0x75] ++ Text.hex 4 n) :=
      Printable.append (by decide) (printable_hex 4 n)
    rw [hunicode, unicodeEscape]
    split
    · exact hescape _
    · simpa using (hescape _).append (hescape _)

theorem printable_string (t : Text) : Printable (string t) := by
  have hquote : Printable [0x22] := by decide
  refine (hquote.append ?_).append hquote
  intro c hc
  obtain ⟨d, -, hd⟩ := List.mem_flatMap.1 hc
  exact printable_escapePoint d c hd

theorem printable_replicate {c : CodePoint} (hc : Printable [c]) (n : Nat) :
    Printable (List.replicate n c) := by
  intro d hd
  rw [List.eq_of_mem_replicate hd]
  exact hc c List.mem_cons_self

theorem printable_ofNat (n : Nat) : Printable (Text.ofNat n) := by
  intro c hc
  have hdigit := Text.isDigit_of_mem_ofNat hc
  simp only [CodePoint.isDigit, Bool.and_eq_true, decide_eq_true_eq] at hdigit
  omega

theorem printable_ofInt (n : Int) : Printable (Text.ofInt n) := by
  rw [Text.ofInt]
  split
  · exact Printable.append (by decide) (printable_ofNat _)
  · exact printable_ofNat _

theorem printable_padded (width n : Nat) : Printable (Text.padded width n) :=
  (printable_replicate (by decide) _).append (printable_ofNat n)

/-- Digits with a point before, among or after them. -/
theorem printable_positional {digits : Text} (h : Printable digits) (point : Int) :
    Printable (Binary64.positional digits point) := by
  have hzeros (n : Nat) : Printable (List.replicate n (0x30 : CodePoint)) :=
    printable_replicate (by decide) n
  rw [Binary64.positional]
  split
  · exact (Printable.append (by decide) (hzeros _)).append h
  split
  · exact (Printable.append (fun c hc => h c (List.mem_of_mem_take hc)) (by decide)).append
      fun c hc => h c (List.mem_of_mem_drop hc)
  · exact (h.append (hzeros _)).append (by decide)

/-- Digits with an exponent after them. -/
theorem printable_scientific {digits : Text} (h : Printable digits) (point : Int) :
    Printable (Binary64.scientific digits point) := by
  have hfraction :
      Printable (if digits.length ≤ 1 then [] else Text.ofString "." ++ digits.drop 1) := by
    split
    · exact List.forall_mem_nil _
    · exact Printable.append (by decide) fun c hc => h c (List.mem_of_mem_drop hc)
  have hsign : Printable (if point - 1 < 0 then "e-" else "e+" : Text) := by split <;> decide
  exact ((Printable.append (fun c hc => h c (List.mem_of_mem_take hc)) hfraction).append hsign).append
    (printable_padded 2 _)

theorem printable_number (x : Binary64) : Printable (number x) := by
  cases x with
  | nan => exact (by decide : Printable "NaN")
  | infinite negative =>
    have hnamed : Printable (if negative then "-Infinity" else "Infinity" : Text) := by
      cases negative <;> decide
    exact hnamed
  | finite negative mantissa exponent =>
    have hsign : Printable (if negative then "-" else [] : Text) := by cases negative <;> decide
    simp only [number, Binary64.show]
    split
    · exact hsign.append (by decide)
    refine hsign.append ?_
    split
    · exact printable_positional (printable_ofNat _) _
    · exact printable_scientific (printable_ofNat _) _

theorem printable_boolean (b : Bool) : Printable (boolean b) := by cases b <;> decide

theorem printable_key (k : Key) : Printable (key k) := by
  cases k <;> exact printable_string _

/-! ## Layouts -/

/-- Every code point is printable ASCII, or a line feed of a layout that has lines. -/
def Laid (l : Layout) (t : Text) : Prop :=
  ∀ c ∈ t, (0x20 ≤ c.val ∧ c.val < 0x7F) ∨ (l.indent.isSome = true ∧ c = 0x0A)

variable {l : Layout} {s t : Text}

theorem Printable.laid (h : Printable t) : Laid l t := fun c hc => .inl (h c hc)

theorem Laid.append (hs : Laid l s) (ht : Laid l t) : Laid l (s ++ t) := by
  intro c hc
  rcases List.mem_append.1 hc with h | h
  · exact hs c h
  · exact ht c h

theorem laid_join {separator : Text} (hsep : Laid l separator) {parts : List Text}
    (hparts : ∀ part ∈ parts, Laid l part) : Laid l (Text.join separator parts) := by
  intro c hc
  rcases Text.mem_of_mem_join hc with hc | ⟨part, hpart, hc⟩
  · exact hsep c hc
  · exact hparts part hpart c hc

theorem laid_newline (l : Layout) (level : Nat) : Laid l (l.newline level) := by
  intro c hc
  rcases hindent : l.indent with _ | width <;> simp only [Layout.newline, hindent] at hc
  · cases hc
  · rcases List.mem_cons.1 hc with rfl | hc
    · exact .inr ⟨rfl, rfl⟩
    · rw [List.eq_of_mem_replicate hc]
      exact .inl (by decide)

theorem laid_separator (l : Layout) (level : Nat) : Laid l (l.separator level) := by
  have hline := laid_newline l level
  have hcomma : Laid l [0x2C] := (by decide : Printable [0x2C]).laid
  rcases hindent : l.indent with _ | width <;> simp only [Layout.separator, hindent]
  · exact (by decide : Printable ", ").laid
  · exact hcomma.append hline

theorem laid_bracketed {level : Nat} {opening closing : CodePoint} {parts : List Text}
    (hopen : Printable [opening]) (hclose : Printable [closing]) (hparts : ∀ part ∈ parts, Laid l part) :
    Laid l (bracketed l level opening closing parts) := by
  rw [bracketed]
  split
  · exact (hopen.append hclose).laid
  · have hinside := laid_join (laid_separator l (level + 1)) hparts
    exact (((hopen.laid.append (laid_newline l _)).append hinside).append (laid_newline l _)).append
      hclose.laid

mutual

/-- **Every value is written in printable ASCII**, whatever its texts hold, and with line feeds only where
the layout has lines. -/
theorem laid_write (l : Layout) (level : Nat) : (v : Value) → Laid l (write l level v)
  | .null => (by decide : Printable "null").laid
  | .bool b => (printable_boolean b).laid
  | .int n => (printable_ofInt n).laid
  | .float x => (printable_number x).laid
  | .text t => (printable_string t).laid
  | .list items | .tuple items =>
    laid_bracketed (by decide) (by decide) (laid_writeItems l (level + 1) items)
  | .dict entries => laid_bracketed (by decide) (by decide) (laid_writeEntries l (level + 1) entries)

theorem laid_writeItems (l : Layout) (level : Nat) :
    (items : List Value) → ∀ part ∈ writeItems l level items, Laid l part
  | [] => List.forall_mem_nil _
  | x :: xs => List.forall_mem_cons.2 ⟨laid_write l level x, laid_writeItems l level xs⟩

theorem laid_writeEntries (l : Layout) (level : Nat) :
    (entries : Entries) → ∀ part ∈ writeEntries l level entries, Laid l part
  | [] => List.forall_mem_nil _
  | (k, x) :: es => List.forall_mem_cons.2
    ⟨((printable_key k).laid.append (by decide : Printable ": ").laid).append (laid_write l level x),
      laid_writeEntries l level es⟩

end

/-- **A value on one line is printable ASCII**: no text in it can break the line. -/
theorem printable_compact (v : Value) : Printable (compact v) := by
  intro c hc
  rcases laid_write ⟨none⟩ 0 v c hc with hprintable | ⟨hlines, -⟩
  · exact hprintable
  · cases hlines

/-! ## Lines -/

/-- Every code point is printable ASCII or a line feed. -/
def Plain (t : Text) : Prop := ∀ c ∈ t, (0x20 ≤ c.val ∧ c.val < 0x7F) ∨ c = 0x0A

instance (t : Text) : Decidable (Plain t) :=
  decidable_of_iff (t.all fun c => (0x20 ≤ c.val && c.val < 0x7F) || c = 0x0A) (by simp [Plain])

theorem plain_cons {c : CodePoint} {t : Text} :
    Plain (c :: t) ↔ ((0x20 ≤ c.val ∧ c.val < 0x7F) ∨ c = 0x0A) ∧ Plain t :=
  List.forall_mem_cons

theorem Plain.append {s t : Text} (hs : Plain s) (ht : Plain t) : Plain (s ++ t) :=
  List.forall_mem_append.2 ⟨hs, ht⟩

/-- Every document is written in printable ASCII and line feeds. -/
theorem plain_write (l : Layout) (level : Nat) (v : Value) : Plain (write l level v) := fun c hc =>
  (laid_write l level v c hc).imp_right And.right

theorem Printable.plain (h : Printable t) : Plain t := fun c hc => .inl (h c hc)

/-- A text of printable ASCII and line feeds is ASCII, and its line ends are unified already. -/
theorem Plain.lt {t : Text} (h : Plain t) : ∀ c ∈ t, c.val < 0x80 := by
  intro c hc
  rcases h c hc with hprintable | rfl
  · omega
  · decide

theorem Plain.unifyLineEnds {t : Text} (h : Plain t) : t.unifyLineEnds = t := by
  rw [Text.unifyLineEnds]
  induction t with
  | nil => rfl
  | cons c t ih =>
    obtain ⟨hc, ht⟩ := plain_cons.1 h
    have hreturn : c ≠ 0x0D := by
      rintro rfl
      rcases hc with hprintable | hfeed
      · exact absurd hprintable.1 (by decide)
      · exact absurd hfeed (by decide)
    rw [Text.unifyLineEndsFrom, if_neg hreturn, ih ht]
    rfl

end CampaignDesk.Json
