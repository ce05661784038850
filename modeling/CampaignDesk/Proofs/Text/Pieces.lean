import CampaignDesk.Text.Basic

/-!
# Splitting a text

* `Text.splitOn_append`: a separator between two texts is where the text between them is split.
* `Text.splitOn_join`: **pieces that are joined are what the text is split into again**, as long as none
  of them has the separator.
* `Text.notMem_of_mem_splitOn`: no piece has the separator. `Text.mem_of_mem_splitOn`,
  `Text.mem_of_mem_join`: splitting and joining bring in no code points but those of separators.
-/

namespace CampaignDesk.Text

variable {separator : CodePoint}

theorem splitOn_ne_nil (separator : CodePoint) (t : Text) : splitOn separator t ≠ [] := by
  cases t with
  | nil => simp [splitOn]
  | cons c t =>
    unfold splitOn
    split
    · simp
    · split <;> simp

/-- A separator between two texts is where the text between them is split. -/
theorem splitOn_append (separator : CodePoint) (s t : Text) :
    splitOn separator (s ++ separator :: t) = splitOn separator s ++ splitOn separator t := by
  induction s with
  | nil => simp [splitOn]
  | cons c s ih =>
    rw [List.cons_append]
    by_cases hc : c = separator
    · simp [splitOn, hc, ih]
    · obtain ⟨piece, pieces, hs⟩ := List.exists_cons_of_ne_nil (splitOn_ne_nil separator s)
      simp [splitOn, hc, ih, hs]

/-- A text without the separator is one piece. -/
theorem splitOn_of_notMem {t : Text} (h : separator ∉ t) : splitOn separator t = [t] := by
  induction t with
  | nil => rfl
  | cons c t ih =>
    rw [List.mem_cons, not_or] at h
    rw [splitOn, if_neg (Ne.symm h.1), ih h.2]

/-- A text with anything but separators has a piece that is not empty. -/
theorem exists_piece {separator : CodePoint} {t : Text} (h : ∃ c ∈ t, c ≠ separator) :
    ∃ piece ∈ splitOn separator t, piece ≠ [] := by
  induction t with
  | nil =>
    obtain ⟨c, hc, -⟩ := h
    cases hc
  | cons c t ih =>
    by_cases hc : c = separator
    · rw [splitOn, if_pos hc]
      obtain ⟨d, hd, hne⟩ := h
      have hrest : d ∈ t := (List.mem_cons.1 hd).resolve_left fun heq => hne (heq.trans hc)
      obtain ⟨piece, hpiece, hsome⟩ := ih ⟨d, hrest, hne⟩
      exact ⟨piece, List.mem_cons_of_mem _ hpiece, hsome⟩
    · obtain ⟨first, pieces, ht⟩ := List.exists_cons_of_ne_nil (splitOn_ne_nil separator t)
      refine ⟨c :: first, ?_, List.cons_ne_nil c first⟩
      simp only [splitOn, if_neg hc, ht, List.mem_cons_self]

/-- Separators in front are as many empty pieces. -/
theorem splitOn_replicate_append (separator : CodePoint) (k : Nat) (t : Text) :
    splitOn separator (List.replicate k separator ++ t) =
      List.replicate k [] ++ splitOn separator t := by
  induction k with
  | zero => rfl
  | succ k ih =>
    rw [List.replicate_succ, List.cons_append, splitOn, if_pos rfl, ih]
    rfl

theorem join_cons_cons (separator s t : Text) (rest : List Text) :
    join separator (s :: t :: rest) = s ++ separator ++ join separator (t :: rest) := rfl

/-- What joined pieces hold is in a piece or in what stands between them. -/
theorem mem_of_mem_join {joint : Text} {pieces : List Text} {c : CodePoint} (h : c ∈ join joint pieces) :
    c ∈ joint ∨ ∃ piece ∈ pieces, c ∈ piece := by
  induction pieces with
  | nil => cases h
  | cons s rest ih =>
    cases rest with
    | nil => exact .inr ⟨s, List.mem_cons_self, h⟩
    | cons t rest =>
      rw [join_cons_cons, List.append_assoc] at h
      rcases List.mem_append.1 h with hs | h
      · exact .inr ⟨s, List.mem_cons_self, hs⟩
      rcases List.mem_append.1 h with hjoint | hrest
      · exact .inl hjoint
      · exact (ih hrest).imp_right fun ⟨piece, hpiece, hc⟩ => ⟨piece, List.mem_cons_of_mem s hpiece, hc⟩

/-- Joined pieces end with the last of them. -/
theorem join_append_singleton (separator : Text) (pieces : List Text) (t : Text) :
    ∃ front, join separator (pieces ++ [t]) = front ++ t := by
  induction pieces with
  | nil => exact ⟨[], rfl⟩
  | cons s rest ih =>
    obtain ⟨front, hfront⟩ := ih
    obtain ⟨u, more, hmore⟩ := List.exists_cons_of_ne_nil (List.append_ne_nil_of_right_ne_nil rest
      (List.cons_ne_nil t []))
    refine ⟨s ++ separator ++ front, ?_⟩
    rw [List.cons_append, hmore, join_cons_cons, ← hmore, hfront, List.append_assoc (s ++ separator)]

/-- **Pieces that are joined are what the text is split into again.** -/
theorem splitOn_join {pieces : List Text} (hne : pieces ≠ []) (h : ∀ t ∈ pieces, separator ∉ t) :
    splitOn separator (join [separator] pieces) = pieces := by
  induction pieces with
  | nil => exact absurd rfl hne
  | cons s rest ih =>
    have hs : splitOn separator s = [s] := splitOn_of_notMem (h s List.mem_cons_self)
    cases rest with
    | nil => exact hs
    | cons t rest =>
      have hrest := ih (List.cons_ne_nil t rest) fun u hu => h u (List.mem_cons_of_mem s hu)
      rw [join_cons_cons, List.append_assoc, List.singleton_append, splitOn_append, hs, hrest]
      rfl

/-- No piece has the separator. -/
theorem notMem_of_mem_splitOn {t piece : Text} (h : piece ∈ splitOn separator t) :
    separator ∉ piece := by
  induction t generalizing piece with
  | nil =>
    rw [splitOn, List.mem_singleton] at h
    rw [h]
    exact List.not_mem_nil
  | cons c t ih =>
    obtain ⟨first, pieces, ht⟩ := List.exists_cons_of_ne_nil (splitOn_ne_nil separator t)
    rw [ht] at ih
    by_cases hc : c = separator
    · rw [splitOn, if_pos hc, ht, List.mem_cons] at h
      rcases h with rfl | h
      · exact List.not_mem_nil
      · exact ih h
    · simp only [splitOn, if_neg hc, ht, List.mem_cons] at h
      rcases h with rfl | h
      · -- the first piece has grown by a code point that is no separator
        rw [List.mem_cons, not_or]
        exact ⟨Ne.symm hc, ih List.mem_cons_self⟩
      · exact ih (List.mem_cons_of_mem first h)

/-- A piece holds nothing but what the text holds. -/
theorem mem_of_mem_splitOn {t piece : Text} (h : piece ∈ splitOn separator t) {c : CodePoint}
    (hc : c ∈ piece) : c ∈ t := by
  induction t generalizing piece with
  | nil =>
    rw [splitOn, List.mem_singleton] at h
    rwa [h] at hc
  | cons d t ih =>
    obtain ⟨first, pieces, ht⟩ := List.exists_cons_of_ne_nil (splitOn_ne_nil separator t)
    rw [ht] at ih
    by_cases hd : d = separator
    · rw [splitOn, if_pos hd, ht, List.mem_cons] at h
      rcases h with rfl | h
      · cases hc
      · exact List.mem_cons_of_mem d (ih h hc)
    · simp only [splitOn, if_neg hd, ht, List.mem_cons] at h
      rcases h with rfl | h
      · exact List.mem_cons.2 ((List.mem_cons.1 hc).imp_right (ih List.mem_cons_self))
      · exact List.mem_cons_of_mem d (ih (List.mem_cons_of_mem first h) hc)

end CampaignDesk.Text
