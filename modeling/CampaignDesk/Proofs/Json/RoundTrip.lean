import CampaignDesk.Proofs.Json.Nesting
import CampaignDesk.Proofs.Json.Numbers
import CampaignDesk.Store.Document

/-!
# JSON documents read back

* `Portable`: the values that JSON carries as they are, built to any depth from dictionaries with text
  keys, lists, texts, integers, truth values and nothing.
* `Blanks`: what a layout puts between the parts of arrays and objects is passed over.
* `reads_back`: **a portable value is read back from wherever it is written**, by a reader with room for
  its levels, by induction on how the value is built.
* `parseWithin?_indented`, `parse?_line`, `parse?_compact`: so is a whole document.
-/

namespace CampaignDesk.Json

/-- A value that JSON carries as it is. -/
inductive Portable : Value → Prop
  | null : Portable .null
  | bool (b : Bool) : Portable (.bool b)
  | int {n : Int} (digits : (Text.ofNat n.natAbs).length ≤ maxDigits) : Portable (.int n)
  | text {t : Text} (unpaired : Unpaired t) : Portable (.text t)
  | list {items : List Value} (elements : ∀ v ∈ items, Portable v) : Portable (.list items)
  | dict {entries : Entries} (keys : ∀ e ∈ entries, ∃ k, e.1 = .text k ∧ Unpaired k)
      (distinct : (entries.map Prod.fst).Nodup) (values : ∀ e ∈ entries, Portable e.2) :
      Portable (.dict entries)

/-! ## Layout -/

/-- Nothing but blanks. -/
def Blanks (t : Text) : Prop := ∀ c ∈ t, isSpace c = true

theorem skipSpace_blanks {gap : Text} (hgap : Blanks gap) {c : CodePoint} (hc : isSpace c = false)
    (t : Text) : skipSpace (gap ++ c :: t) = c :: t := by
  rw [skipSpace, List.dropWhile_append_of_pos hgap, List.dropWhile_cons_of_neg (by simp [hc])]

theorem skipSpace_cons {c : CodePoint} (hc : isSpace c = false) (t : Text) :
    skipSpace (c :: t) = c :: t :=
  skipSpace_blanks (List.forall_mem_nil _) hc t

theorem blanks_newline (l : Layout) (level : Nat) : Blanks (l.newline level) := by
  intro c hc
  rcases hindent : l.indent with _ | width <;> simp only [Layout.newline, hindent] at hc
  · cases hc
  · rcases List.mem_cons.1 hc with rfl | hc
    · rfl
    · rw [List.eq_of_mem_replicate hc]
      rfl

theorem separator_eq (l : Layout) (level : Nat) :
    ∃ gap, l.separator level = 0x2C :: gap ∧ Blanks gap := by
  rcases hindent : l.indent with _ | width
  · refine ⟨[0x20], by rw [Layout.separator, hindent]; rfl, ?_⟩
    intro c hc
    rw [List.mem_singleton.1 hc]
    rfl
  · exact ⟨l.newline level, by rw [Layout.separator, hindent], blanks_newline l level⟩

/-- A new line and a closing bracket may stand behind a value. -/
theorem ends_newline (l : Layout) (level : Nat) {c : CodePoint} (hc : c ∈ enders) (t : Text) :
    Ends (l.newline level ++ c :: t) := by
  rcases hindent : l.indent with _ | width <;> simp only [Layout.newline, hindent]
  · exact ends_cons.2 hc
  · exact ends_cons.2 (by decide)

/-! ## The reader step by step -/

variable {room fuel : Nat} {gap t s rest : Text} {c : CodePoint} {v : Value}

/-- A word or a number is read as a value if it is read as what it is. -/
theorem value_word (ht : ∃ c s, t = c :: s ∧ c ≠ 0x22 ∧ c ≠ 0x5B ∧ c ≠ 0x7B)
    (hfuel : 2 * t.length ≤ fuel) (hread : wordOrNumber (t ++ rest) = .ok (v, rest)) :
    value room fuel (t ++ rest) = .ok (v, rest) := by
  obtain ⟨c, s, rfl, hquote, harray, hobject⟩ := ht
  rw [List.length_cons] at hfuel
  obtain ⟨fuel, rfl⟩ := Nat.exists_eq_succ_of_ne_zero (by omega : fuel ≠ 0)
  rw [List.cons_append] at hread ⊢
  rw [value, if_neg hquote, if_neg harray, if_neg hobject, hread]

theorem value_string {text : Text} (ht : Unpaired text) :
    value room (fuel + 1) (string text ++ rest) = .ok (.text text, rest) := by
  have hopen : string text ++ rest = 0x22 :: (text.flatMap escapePoint ++ 0x22 :: rest) := by
    simp [string]
  rw [hopen, value, if_pos rfl, stringBody_string ht]
  rfl

theorem value_array (hgap : Blanks gap) (hc : isSpace c = false) (hopen : c ≠ 0x5D) :
    value (room + 1) (fuel + 1) (0x5B :: (gap ++ c :: t)) = do
      let (vs, rest) ← items room fuel (c :: t)
      return (.list vs, rest) := by
  rw [value, if_neg (by decide), if_pos rfl]
  simp only [enter, bind, Except.bind, skipSpace_blanks hgap hc]
  split
  · next heq =>
    cases heq
    exact absurd rfl hopen
  · rfl

theorem value_object (hgap : Blanks gap) (hc : isSpace c = false) (hopen : c ≠ 0x7D) :
    value (room + 1) (fuel + 1) (0x7B :: (gap ++ c :: t)) = do
      let (es, rest) ← members room fuel (c :: t)
      return (.dict (Value.entriesOf es), rest) := by
  rw [value, if_neg (by decide), if_neg (by decide), if_pos rfl]
  simp only [enter, bind, Except.bind, skipSpace_blanks hgap hc]
  split
  · next heq =>
    cases heq
    exact absurd rfl hopen
  · rfl

theorem items_last (hgap : Blanks gap) (h : value room fuel t = .ok (v, gap ++ 0x5D :: rest)) :
    items room (fuel + 1) t = .ok ([v], rest) := by
  rw [items, h]
  simp only [bind, Except.bind, skipSpace_blanks hgap (by decide : isSpace 0x5D = false)]
  rfl

theorem items_more (hgap : Blanks gap) (hc : isSpace c = false)
    (h : value room fuel t = .ok (v, 0x2C :: (gap ++ c :: s))) :
    items room (fuel + 1) t = do
      let (vs, rest) ← items room fuel (c :: s)
      return (v :: vs, rest) := by
  rw [items, h]
  simp only [bind, Except.bind, skipSpace_cons (by decide : isSpace 0x2C = false),
    skipSpace_blanks hgap hc]

/-- What stands before the value of a member: its key, a colon and a blank. -/
theorem key_colon (k : Text) (t : Text) : key (.text k) ++ (Text.ofString ": " ++ t) =
    0x22 :: (k.flatMap escapePoint ++ 0x22 :: 0x3A :: 0x20 :: t) := by
  simp only [key, string, List.append_assoc, List.cons_append, List.nil_append]
  rfl

theorem skipSpace_blank (hc : isSpace c = false) (t : Text) : skipSpace (0x20 :: c :: t) = c :: t := by
  have hblank : Blanks [0x20] := by
    intro d hd
    rw [List.mem_singleton.1 hd]
    rfl
  exact skipSpace_blanks hblank hc t

theorem members_last {k : Text} (hk : Unpaired k) (hc : isSpace c = false) (hgap : Blanks gap)
    (h : value room fuel (c :: t) = .ok (v, gap ++ 0x7D :: rest)) :
    members room (fuel + 1) (key (.text k) ++ (Text.ofString ": " ++ c :: t)) =
      .ok ([(.text k, v)], rest) := by
  rw [key_colon, members, stringBody_string hk]
  simp only [bind, Except.bind, skipSpace_cons (by decide : isSpace 0x3A = false),
    skipSpace_blank hc, h, skipSpace_blanks hgap (by decide : isSpace 0x7D = false)]
  rfl

theorem members_more {k : Text} (hk : Unpaired k) (hc : isSpace c = false) (hgap : Blanks gap)
    {d : CodePoint} (hd : isSpace d = false)
    (h : value room fuel (c :: t) = .ok (v, 0x2C :: (gap ++ d :: s))) :
    members room (fuel + 1) (key (.text k) ++ (Text.ofString ": " ++ c :: t)) = do
      let (es, rest) ← members room fuel (d :: s)
      return ((.text k, v) :: es, rest) := by
  rw [key_colon, members, stringBody_string hk]
  simp only [bind, Except.bind, skipSpace_cons (by decide : isSpace 0x3A = false),
    skipSpace_blank hc, h, skipSpace_cons (by decide : isSpace 0x2C = false), skipSpace_blanks hgap hd]

/-! ## What is written -/

/-- A written value begins with something that is neither a blank nor a closing bracket. -/
theorem write_begins (h : Portable v) (l : Layout) (level : Nat) :
    ∃ c t, write l level v = c :: t ∧ isSpace c = false ∧ c ≠ 0x5D ∧ c ≠ 0xFEFF := by
  have bracket (opening closing : CodePoint) (parts : List Text) :
      ∃ t, bracketed l level opening closing parts = opening :: t := by
    rw [bracketed]
    split <;> exact ⟨_, rfl⟩
  cases h with
  | null => exact ⟨_, _, rfl, by decide⟩
  | bool b => cases b <;> exact ⟨_, _, rfl, by decide⟩
  | @int n digits =>
    obtain ⟨c, t, hn, hc⟩ := ofInt_begins n
    have hne (d : CodePoint) (hd : d.isDigit = false ∧ d ≠ 0x2D) : c ≠ d := by
      rintro rfl
      rcases hc with hc | hc
      · exact absurd hc (by simp [hd.1])
      · exact hd.2 hc
    refine ⟨c, t, hn, ?_, hne _ (by decide), hne _ (by decide)⟩
    simp [isSpace, hne 0x20 (by decide), hne 0x09 (by decide), hne 0x0A (by decide),
      hne 0x0D (by decide)]
  | text unpaired => exact ⟨_, _, rfl, by decide⟩
  | list elements =>
    obtain ⟨t, ht⟩ := bracket 0x5B 0x5D (writeItems l (level + 1) _)
    exact ⟨_, t, by rw [write, ht], by decide⟩
  | dict keys distinct values =>
    obtain ⟨t, ht⟩ := bracket 0x7B 0x7D (writeEntries l (level + 1) _)
    exact ⟨_, t, by rw [write, ht], by decide⟩

/-- Parts put together begin as the first of them does. -/
theorem join_begins (separator : Text) {part : Text} (hpart : part = c :: t) (parts : List Text) :
    ∃ more, Text.join separator (part :: parts) = c :: more := by
  subst hpart
  cases parts with
  | nil => exact ⟨t, rfl⟩
  | cons p ps => exact ⟨_, rfl⟩

/-- Of parts put together, the first is followed by a comma, blanks, and the others put together. -/
theorem join_separator (l : Layout) (level : Nat) (part : Text) {next : Text} (hnext : next = c :: t)
    (parts : List Text) : ∃ gap more, Blanks gap ∧
      Text.join (l.separator level) (next :: parts) = c :: more ∧
      Text.join (l.separator level) (part :: next :: parts) =
        part ++ 0x2C :: (gap ++ c :: more) := by
  obtain ⟨gap, hsep, hgap⟩ := separator_eq l level
  obtain ⟨more, hmore⟩ := join_begins (l.separator level) hnext parts
  refine ⟨gap, more, hgap, hmore, ?_⟩
  rw [← hmore, ← List.cons_append, ← hsep, ← List.append_assoc]
  rfl

/-- The value is read back from wherever it is written, if the reader has room and work enough for it. -/
def ReadsBack (l : Layout) (v : Value) : Prop :=
  ∀ (level room fuel : Nat) (rest : Text), Ends rest → v.depth ≤ room →
    2 * (write l level v).length ≤ fuel → value room fuel (write l level v ++ rest) = .ok (v, rest)

/-- The elements of an array are read back one after the other, up to the closing bracket. -/
theorem items_written {l : Layout} {level : Nat} {x : Value} {xs : List Value}
    (h : ∀ v ∈ x :: xs, Portable v ∧ ReadsBack l v) (hgap : Blanks gap)
    (hends : Ends (gap ++ 0x5D :: rest)) (hroom : Value.depthItems (x :: xs) ≤ room)
    (hfuel : 2 * (Text.join (l.separator level) (writeItems l level (x :: xs))).length < fuel) :
    items room fuel (Text.join (l.separator level) (writeItems l level (x :: xs)) ++ (gap ++ 0x5D :: rest)) =
      .ok (x :: xs, rest) := by
  induction xs generalizing x fuel with
  | nil =>
    obtain ⟨fuel, rfl⟩ := Nat.exists_eq_succ_of_ne_zero (Nat.ne_of_gt (Nat.zero_lt_of_lt hfuel))
    have hread := (h x List.mem_cons_self).2
    simp only [writeItems, Text.join] at hfuel ⊢
    exact items_last hgap (hread level room fuel _ hends (Nat.max_le.1 hroom).1 (by omega))
  | cons y ys ih =>
    obtain ⟨fuel, rfl⟩ := Nat.exists_eq_succ_of_ne_zero (Nat.ne_of_gt (Nat.zero_lt_of_lt hfuel))
    have hx := (h x List.mem_cons_self).2
    have hys : ∀ v ∈ y :: ys, Portable v ∧ ReadsBack l v := fun v hv => h v (List.mem_cons_of_mem x hv)
    obtain ⟨c, t, hy, hc, -⟩ := write_begins (hys y List.mem_cons_self).1 l level
    obtain ⟨between, more, hbetween, hjoin', hjoin⟩ :
        ∃ between more, Blanks between ∧
          Text.join (l.separator level) (writeItems l level (y :: ys)) = c :: more ∧
          Text.join (l.separator level) (writeItems l level (x :: y :: ys)) =
            write l level x ++ 0x2C :: (between ++ c :: more) :=
      join_separator l level (write l level x) hy (writeItems l level ys)
    rw [hjoin] at hfuel
    simp only [List.length_append, List.length_cons] at hfuel
    -- the first element up to the comma, then the others
    obtain ⟨hroomx, hroomys⟩ := Nat.max_le.1 hroom
    have hfirst := hx level room fuel (0x2C :: (between ++ c :: (more ++ (gap ++ 0x5D :: rest))))
      (ends_cons.2 (by decide)) hroomx (by omega)
    have hothers := @ih fuel y hys hroomys (by rw [hjoin', List.length_cons]; omega)
    rw [hjoin', List.cons_append] at hothers
    rw [hjoin, List.append_assoc, List.cons_append, List.append_assoc, List.cons_append,
      items_more hbetween hc hfirst, hothers]
    rfl

/-- The members of an object are read back one after the other, up to the closing brace. -/
theorem members_written {l : Layout} {level : Nat} {x : Key × Value} {xs : Entries}
    (h : ∀ e ∈ x :: xs, (∃ k, e.1 = .text k ∧ Unpaired k) ∧ Portable e.2 ∧ ReadsBack l e.2)
    (hgap : Blanks gap) (hends : Ends (gap ++ 0x7D :: rest))
    (hroom : Value.depthEntries (x :: xs) ≤ room)
    (hfuel : 2 * (Text.join (l.separator level) (writeEntries l level (x :: xs))).length < fuel) :
    members room fuel (Text.join (l.separator level) (writeEntries l level (x :: xs)) ++
      (gap ++ 0x7D :: rest)) = .ok (x :: xs, rest) := by
  induction xs generalizing x fuel with
  | nil =>
    obtain ⟨fuel, rfl⟩ := Nat.exists_eq_succ_of_ne_zero (Nat.ne_of_gt (Nat.zero_lt_of_lt hfuel))
    obtain ⟨⟨k, hkey, hk⟩, hportable, hread⟩ := h x List.mem_cons_self
    obtain ⟨k', v⟩ := x
    cases hkey
    obtain ⟨c, t, hv, hc, -⟩ := write_begins hportable l level
    simp only [writeEntries, Text.join, List.length_append] at hfuel ⊢
    have hvalue := hread level room fuel _ hends (Nat.max_le.1 hroom).1 (by simp only; omega)
    simp only [hv, List.append_assoc, List.cons_append] at hvalue ⊢
    exact members_last hk hc hgap hvalue
  | cons y ys ih =>
    obtain ⟨fuel, rfl⟩ := Nat.exists_eq_succ_of_ne_zero (Nat.ne_of_gt (Nat.zero_lt_of_lt hfuel))
    obtain ⟨⟨k, hkey, hk⟩, hportable, hread⟩ := h x List.mem_cons_self
    obtain ⟨k', v⟩ := x
    cases hkey
    have hys : ∀ e ∈ y :: ys, (∃ k, e.1 = .text k ∧ Unpaired k) ∧ Portable e.2 ∧ ReadsBack l e.2 :=
      fun e he => h e (List.mem_cons_of_mem _ he)
    obtain ⟨c, t, hv, hc, -⟩ := write_begins hportable l level
    -- the next member begins with a quote
    obtain ⟨k', hkey', -⟩ := (hys y List.mem_cons_self).1
    obtain ⟨more', hy⟩ : ∃ more, key y.1 ++ Text.ofString ": " ++ write l level y.2 = 0x22 :: more := by
      rw [hkey', List.append_assoc, key_colon]
      exact ⟨_, rfl⟩
    obtain ⟨between, more, hbetween, hjoin', hjoin⟩ :
        ∃ between more, Blanks between ∧
          Text.join (l.separator level) (writeEntries l level (y :: ys)) = 0x22 :: more ∧
          Text.join (l.separator level) (writeEntries l level ((.text k, v) :: y :: ys)) =
            (key (.text k) ++ Text.ofString ": " ++ write l level v) ++
              0x2C :: (between ++ 0x22 :: more) :=
      join_separator l level (key (.text k) ++ Text.ofString ": " ++ write l level v) hy
        (writeEntries l level ys)
    rw [hjoin] at hfuel
    simp only [List.length_append, List.length_cons] at hfuel
    -- the first member up to the comma, then the others
    obtain ⟨hroomv, hroomys⟩ := Nat.max_le.1 hroom
    have hfirst := hread level room fuel (0x2C :: (between ++ 0x22 :: (more ++ (gap ++ 0x7D :: rest))))
      (ends_cons.2 (by decide)) hroomv (by simp only; omega)
    have hothers := @ih fuel y hys hroomys (by rw [hjoin', List.length_cons]; omega)
    rw [hjoin', List.cons_append] at hothers
    rw [hjoin]
    simp only [hv, List.append_assoc, List.cons_append] at hfirst ⊢
    rw [members_more hk hc hbetween (by decide) hfirst, hothers]
    rfl

/-- A new key comes last. -/
theorem insert_new {entries : Entries} {k : Text} (hkeys : ∀ e ∈ entries, ∃ k, e.1 = .text k)
    (hk : Key.text k ∉ entries.map Prod.fst) (v : Value) :
    Value.insert entries (.text k) v = entries ++ [(.text k, v)] := by
  induction entries with
  | nil => rfl
  | cons e es ih =>
    obtain ⟨l, w⟩ := e
    obtain ⟨j, rfl⟩ := hkeys (l, w) List.mem_cons_self
    rw [List.map_cons, List.mem_cons, not_or] at hk
    have hother : (Key.text j).same (.text k) = false := by
      simpa [Key.same, Key.number?] using fun h => hk.1 (by rw [h])
    rw [Value.insert, hother, ih (fun e he => hkeys e (List.mem_cons_of_mem _ he)) hk.2]
    rfl

/-- Entries with distinct text keys stay as they are when they are put together. -/
theorem entriesOf_distinct {entries : Entries} (hkeys : ∀ e ∈ entries, ∃ k, e.1 = .text k)
    (hdistinct : (entries.map Prod.fst).Nodup) : Value.entriesOf entries = entries := by
  -- the entries taken so far stand before those to come
  have hfold (before after : Entries) (hall : ∀ e ∈ before ++ after, ∃ k, e.1 = .text k)
      (hnodup : ((before ++ after).map Prod.fst).Nodup) :
      after.foldl (fun entries a => Value.insert entries a.1 a.2) before = before ++ after := by
    induction after generalizing before with
    | nil => exact (List.append_nil before).symm
    | cons e after ih =>
      obtain ⟨l, v⟩ := e
      obtain ⟨k, rfl⟩ := hall (l, v) (by simp)
      have hnew : Key.text k ∉ before.map Prod.fst := by
        rw [List.map_append, List.map_cons] at hnodup
        exact fun hmem => (List.nodup_append.1 hnodup).2.2 _ hmem _ List.mem_cons_self rfl
      have hbefore : ∀ e ∈ before, ∃ k, e.1 = .text k :=
        fun e he => hall e (List.mem_append_left _ he)
      rw [List.foldl_cons, insert_new hbefore hnew, ih _ (by simpa using hall) (by simpa using hnodup)]
      simp
  exact hfold [] entries hkeys hdistinct

/-- **A portable value is read back from wherever it is written**: by induction on how it is built. -/
theorem reads_back (h : Portable v) (l : Layout) : ReadsBack l v := by
  induction h with
  | null =>
    intro level room fuel rest hends hroom hfuel
    exact value_word ⟨_, _, rfl, by decide⟩ hfuel (wordOrNumber_null rest)
  | bool b =>
    intro level room fuel rest hends hroom hfuel
    refine value_word ?_ hfuel (wordOrNumber_boolean b rest)
    cases b <;> exact ⟨_, _, rfl, by decide⟩
  | @int n digits =>
    intro level room fuel rest hends hroom hfuel
    refine value_word ?_ hfuel (wordOrNumber_ofInt digits hends)
    obtain ⟨c, t, hn, hc⟩ := ofInt_begins n
    refine ⟨c, t, hn, ?_⟩
    rcases hc with hc | rfl
    · exact ⟨(ne_of_isDigit (by decide) hc).symm, (ne_of_isDigit (by decide) hc).symm,
        (ne_of_isDigit (by decide) hc).symm⟩
    · decide
  | @text t unpaired =>
    intro level room fuel rest hends hroom hfuel
    have hpos : 0 < (write l level (.text t)).length := by simp [write, string]
    obtain ⟨fuel, rfl⟩ := Nat.exists_eq_succ_of_ne_zero (by omega : fuel ≠ 0)
    exact value_string unpaired
  | @list xs elements ih =>
    intro level room fuel rest hends hroom hfuel
    obtain ⟨room, rfl⟩ : ∃ n, room = n + 1 := Nat.exists_eq_succ_of_ne_zero (Nat.ne_zero_of_lt hroom)
    cases xs with
    | nil =>
      obtain ⟨fuel, rfl⟩ : ∃ m, fuel = m + 1 := Nat.exists_eq_succ_of_ne_zero (by
        rintro rfl
        simp [write, writeItems, bracketed] at hfuel)
      rfl
    | cons x xs =>
      obtain ⟨c, t, hx, hc, hopen, -⟩ := write_begins (elements x List.mem_cons_self) l (level + 1)
      obtain ⟨more, hmore⟩ :=
        join_begins (l.separator (level + 1)) hx (writeItems l (level + 1) xs)
      have hjoin : Text.join (l.separator (level + 1)) (writeItems l (level + 1) (x :: xs)) = c :: more :=
        hmore
      have hwrite : write l level (.list (x :: xs)) = 0x5B :: (l.newline (level + 1) ++ c ::
          (more ++ (l.newline level ++ [0x5D]))) := by
        rw [write, bracketed, if_neg (by simp [writeItems]), hjoin]
        simp
      rw [hwrite] at hfuel ⊢
      simp only [List.length_cons, List.length_append] at hfuel
      obtain ⟨fuel, rfl⟩ : ∃ m, fuel = m + 1 := ⟨fuel - 1, by omega⟩
      have hitems := @items_written room fuel _ _ l (level + 1) x xs
        (fun v hv => ⟨elements v hv, ih v hv⟩) (blanks_newline l level)
        (ends_newline l level (by decide : (0x5D : CodePoint) ∈ enders) rest) (Nat.le_of_succ_le_succ hroom)
        (by rw [hjoin, List.length_cons]; omega)
      rw [hjoin] at hitems
      simp only [List.cons_append, List.append_assoc, List.nil_append] at hitems ⊢
      rw [value_array (blanks_newline l (level + 1)) hc hopen, hitems]
      rfl
  | @dict entries keys distinct values ih =>
    intro level room fuel rest hends hroom hfuel
    obtain ⟨room, rfl⟩ : ∃ n, room = n + 1 := Nat.exists_eq_succ_of_ne_zero (Nat.ne_zero_of_lt hroom)
    have hentries : Value.entriesOf entries = entries := by
      refine entriesOf_distinct (fun e he => ?_) distinct
      obtain ⟨k, hk, -⟩ := keys e he
      exact ⟨k, hk⟩
    cases entries with
    | nil =>
      obtain ⟨fuel, rfl⟩ : ∃ m, fuel = m + 1 := Nat.exists_eq_succ_of_ne_zero (by
        rintro rfl
        simp [write, writeEntries, bracketed] at hfuel)
      rfl
    | cons x xs =>
      obtain ⟨k, hk, -⟩ := keys x List.mem_cons_self
      obtain ⟨t, hx⟩ : ∃ t, key x.1 ++ Text.ofString ": " ++ write l (level + 1) x.2 = 0x22 :: t := by
        rw [hk, List.append_assoc, key_colon]
        exact ⟨_, rfl⟩
      obtain ⟨more, hmore⟩ :=
        join_begins (l.separator (level + 1)) hx (writeEntries l (level + 1) xs)
      have hjoin : Text.join (l.separator (level + 1)) (writeEntries l (level + 1) (x :: xs)) =
          0x22 :: more := hmore
      have hwrite : write l level (.dict (x :: xs)) = 0x7B :: (l.newline (level + 1) ++ 0x22 ::
          (more ++ (l.newline level ++ [0x7D]))) := by
        rw [write, bracketed, if_neg (by simp [writeEntries]), hjoin]
        simp
      rw [hwrite] at hfuel ⊢
      simp only [List.length_cons, List.length_append] at hfuel
      obtain ⟨fuel, rfl⟩ : ∃ m, fuel = m + 1 := ⟨fuel - 1, by omega⟩
      have hmembers := @members_written room fuel _ _ l (level + 1) x xs
        (fun e he => ⟨keys e he, values e he, ih e he⟩) (blanks_newline l level)
        (ends_newline l level (by decide : (0x7D : CodePoint) ∈ enders) rest) (Nat.le_of_succ_le_succ hroom)
        (by rw [hjoin, List.length_cons]; omega)
      rw [hjoin] at hmembers
      simp only [List.cons_append, List.append_assoc, List.nil_append] at hmembers ⊢
      rw [value_object (blanks_newline l (level + 1)) (by decide) (by decide), hmembers]
      simp only [bind, Except.bind, hentries]
      rfl

/-! ## Documents -/

/-- A document with one portable value, and nothing but blanks behind it, is read as that value. -/
theorem readWithin_write_blanks (h : Portable v) (hroom : v.depth ≤ room) (l : Layout) (hgap : Blanks gap)
    (hends : Ends gap) : readWithin room (write l 0 v ++ gap) = .ok v := by
  obtain ⟨c, t, hwrite, hc, -, hmark⟩ := write_begins h l 0
  have hlength : (write l 0 v).length ≤ (write l 0 v ++ gap).length := by
    rw [List.length_append]
    omega
  have hvalue := reads_back h l 0 room (2 * (write l 0 v ++ gap).length + 1) gap hends hroom (by omega)
  have hskip : skipSpace (write l 0 v ++ gap) = write l 0 v ++ gap := by
    rw [hwrite, List.cons_append, skipSpace_cons hc]
  have hhead : (write l 0 v ++ gap).head? ≠ some 0xFEFF := by
    rw [hwrite]
    simpa using hmark
  have hend : skipSpace gap = [] := by
    rw [← List.append_nil gap, skipSpace, List.dropWhile_append_of_pos hgap]
    rfl
  rw [readWithin, document, if_neg hhead, hskip]
  simp only [bind, Except.bind, pure, Except.pure, hvalue, hend]
  rfl

/-- There is room for every value where there is room for every code point of its document. -/
theorem read_write_blanks (h : Portable v) (l : Layout) (hgap : Blanks gap) (hends : Ends gap) :
    read (write l 0 v ++ gap) = .ok v := by
  have hlevels : v.depth ≤ (write l 0 v).length := depth_le_length_write l 0 v
  have hroom : v.depth ≤ (write l 0 v ++ gap).length := by
    rw [List.length_append]
    omega
  exact readWithin_write_blanks h hroom l hgap hends

/-- **A portable value is read back from an indented document**, by a reader with room for its levels. -/
theorem parseWithin?_indented (h : Portable v) (hroom : v.depth ≤ room) (width : Nat) :
    parseWithin? room (indented width v) = .ok v := by
  have hread := readWithin_write_blanks h hroom ⟨some width⟩ (List.forall_mem_nil _) ends_nil
  rw [List.append_nil] at hread
  rw [parseWithin?, indented, hread]
  rfl

/-- A portable value is read back from an indented document that was printed as a line. -/
theorem parse?_line (h : Portable v) (width : Nat) :
    parse? (indented width v ++ ("\n" : Text)) = .ok v := by
  have hfeed : Blanks ("\n" : Text) := List.forall_mem_singleton.2 rfl
  rw [parse?, indented, read_write_blanks h _ hfeed (ends_cons.2 (by decide))]
  rfl

/-- A portable value is read back from a document on one line. -/
theorem parse?_compact (h : Portable v) : parse? (compact v) = .ok v := by
  have hread := read_write_blanks h ⟨none⟩ (List.forall_mem_nil _) ends_nil
  rw [List.append_nil] at hread
  rw [parse?, compact, hread]
  rfl

end CampaignDesk.Json
