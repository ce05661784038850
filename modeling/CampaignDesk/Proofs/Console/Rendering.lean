import CampaignDesk.Proofs.Console.Markup

/-!
# What is shown of an escaped text

Rendering takes a backslash away from every bracket that begins no tag, where escaping puts none; and it keeps
all backslashes at the end, where escaping may put one. What is shown of a text that was escaped is the text
but for these backslashes.

* `IsDropped`: a backslash in front of a bracket that begins no tag. `bare`: a text without them.
* `shown_guarded`: **what is shown of a text whose tags were made plain is the bare text.**
* `bare_sealed_eq_iff`: **a text comes through escaping and rendering exactly if every bracket with a
  backslash in front of it begins a tag, and it does not end with a single backslash.**
* `filter_bare_sealed`: **everything but backslashes comes through.**
-/

namespace CampaignDesk.Markup

variable {s t after rest : Text} {c : CodePoint}

/-! ## Backslashes that are lost -/

/-- A backslash, and behind it a bracket that begins no tag. -/
def IsDropped (c : CodePoint) (rest : Text) : Prop :=
  c = backslash ∧ rest.head? = some 0x5B ∧ tag? rest = none

instance (c : CodePoint) (rest : Text) : Decidable (IsDropped c rest) :=
  inferInstanceAs (Decidable (_ ∧ _ ∧ _))

/-- A text without the backslashes in front of brackets that begin no tag. -/
def bare : Text → Text
  | [] => []
  | c :: rest => if IsDropped c rest then bare rest else c :: bare rest

theorem bare_dropped (h : IsDropped c rest) : bare (c :: rest) = bare rest := by rw [bare, if_pos h]

theorem bare_kept (h : ¬IsDropped c rest) : bare (c :: rest) = c :: bare rest := by rw [bare, if_neg h]

/-- The bare text is the text with some code points left out. -/
theorem bare_sublist (s : Text) : List.Sublist (bare s) s := by
  induction s with
  | nil => exact .slnil
  | cons c rest ih =>
    by_cases h : IsDropped c rest
    · rw [bare_dropped h]
      exact ih.cons c
    · rw [bare_kept h]
      exact ih.cons_cons c

/-- Backslashes in front of a tag stay. -/
theorem bare_slashes (ht : IsTag t) (n : Nat) (after : Text) :
    bare (slashes n ++ (t ++ after)) = slashes n ++ bare (t ++ after) := by
  induction n with
  | zero => rfl
  | succ n ih =>
    have hkept : ¬IsDropped backslash (slashes n ++ (t ++ after)) := by
      rintro ⟨-, hhead, hnone⟩
      cases n with
      | zero => exact Option.some_ne_none _ ((ht.read after).symm.trans hnone)
      | succ n => exact absurd (Option.some.inj hhead) (by decide)
    exact (bare_kept hkept).trans (congrArg (backslash :: ·) ih)

/-- What holds no bracket of its own stays, with the bracket that closes it. -/
theorem bare_closed {inner : Text} (h : ∀ d ∈ inner, isBracket d = false) (after : Text) :
    bare (inner ++ 0x5D :: after) = inner ++ 0x5D :: bare after := by
  induction inner with
  | nil => exact bare_kept fun hdropped => absurd hdropped.1 (by decide)
  | cons c inner ih =>
    obtain ⟨-, hinner⟩ := List.forall_mem_cons.1 h
    have hkept : ¬IsDropped c (inner ++ 0x5D :: after) := by
      rintro ⟨-, hhead, -⟩
      cases inner with
      | nil => exact absurd (Option.some.inj hhead) (by decide)
      | cons d inner =>
        have hd := hinner d List.mem_cons_self
        rw [Option.some.inj hhead] at hd
        cases hd
    rw [List.cons_append, bare_kept hkept, ih hinner, List.cons_append]

/-- A tag stays. -/
theorem bare_tag (ht : IsTag t) (after : Text) : bare (t ++ after) = t ++ bare after := by
  obtain @⟨c, inner, hc, hinner⟩ := ht
  have hall : ∀ d ∈ c :: inner, isBracket d = false :=
    List.forall_mem_cons.2 ⟨isBracket_of_beginsTag hc, hinner⟩
  have hopen : bare (0x5B :: (c :: inner ++ 0x5D :: after)) = 0x5B :: bare (c :: inner ++ 0x5D :: after) :=
    bare_kept fun hdropped => absurd hdropped.1 (by decide)
  rw [bare_closed hall] at hopen
  simpa using hopen

/-- A backslash at the end does not say which of the others are lost. -/
theorem isDropped_concat : IsDropped c (rest ++ [backslash]) ↔ IsDropped c rest := by
  refine and_congr_right fun _ => ?_
  rcases rest with _ | ⟨d, rest⟩
  · exact iff_of_false (fun h => absurd (Option.some.inj h.1) (by decide)) nofun
  · refine and_congr_right fun hhead => ?_
    obtain rfl : d = 0x5B := Option.some.inj hhead
    have htag := tag?_concat (0x5B :: rest)
    rw [List.cons_append, unslashed_cons_of_ne (by decide), unslashed_cons_of_ne (by decide)] at htag
    rw [List.cons_append, ← Option.not_isSome_iff_eq_none, ← Option.not_isSome_iff_eq_none, htag]

theorem bare_concat (s : Text) : bare (s ++ [backslash]) = bare s ++ [backslash] := by
  induction s with
  | nil => rfl
  | cons c rest ih =>
    rw [List.cons_append]
    by_cases h : IsDropped c rest
    · rw [bare_dropped h, bare_dropped (isDropped_concat.2 h), ih]
    · rw [bare_kept h, bare_kept fun hdropped => h (isDropped_concat.1 hdropped), ih, List.cons_append]

/-! ## Rendering -/

/-- What is shown of a plain run. -/
def unescaped (run : Text) : Text := Text.replace [backslash, 0x5B] [0x5B] run

/-- What is shown of a piece, where no emoji code is replaced. -/
def Piece.shown (p : Piece) : Text := p.parts.flatten

theorem Piece.shown_plain (run : Text) : shown (.plain run) = unescaped run := List.append_nil _

theorem Piece.shown_tag (n : Nat) (t : Text) :
    shown (.tag n t) = slashes (n / 2) ++ if n % 2 = 1 then t else [] := by
  rw [shown, parts, List.flatten_append]
  congr 1
  · split
    · next hnone => rw [hnone]; rfl
    · exact List.append_nil _
  · split
    · exact List.append_nil _
    · rfl

/-- What is shown of a markup, where no emoji code is replaced. -/
def shown (markup : Text) : Text := (pieces markup).flatMap Piece.shown

theorem flatten_parts (markup : Text) : ((pieces markup).flatMap Piece.parts).flatten = shown markup := by
  rw [shown]
  induction pieces markup with
  | nil => rfl
  | cons p ps ih => rw [List.flatMap_cons, List.flatten_append, ih, List.flatMap_cons, Piece.shown]

/-- Rendering shows a text as it is if no emoji code is in any stretch of it. -/
theorem render_eq_shown {emoji : Text → Text} {markup : Text}
    (h : ∀ part, part <:+: shown markup → emoji part = part) : render emoji markup = shown markup := by
  have hparts : ∀ part ∈ (pieces markup).flatMap Piece.parts, emoji part = part := by
    intro part hpart
    refine h part ?_
    rw [← flatten_parts]
    exact List.infix_of_mem_flatten hpart
  rw [render, List.flatMap_def, List.map_congr_left hparts, List.map_id', flatten_parts]

/-- **One code point more in front of a run is shown**, unless it is a backslash before a bracket. -/
theorem unescaped_cons (c : CodePoint) (run : Text) : unescaped (c :: run) =
    if c = backslash ∧ run.head? = some 0x5B then unescaped run else c :: unescaped run := by
  by_cases h : c = backslash ∧ run.head? = some 0x5B
  · obtain ⟨rfl, hhead⟩ := h
    obtain ⟨after, rfl⟩ := List.head?_eq_some_iff.1 hhead
    rw [if_pos ⟨rfl, hhead⟩]
    rfl
  · have hfront : List.isPrefixOf [backslash, 0x5B] (c :: run) = false := by
      rcases run with _ | ⟨d, run⟩
      · simp [List.isPrefixOf]
      · simp only [List.head?_cons, Option.some.injEq, not_and] at h
        simp only [List.isPrefixOf, Bool.and_true, Bool.and_eq_false_imp, beq_iff_eq, beq_eq_false_iff_ne]
        exact fun hc hd => h hc.symm hd.symm
    rw [if_neg h, unescaped, Text.replace, Text.replaceFrom, if_neg (by simp [hfront])]
    rfl

/-- The plain run in front of some pieces. -/
def firstRun : List Piece → Text
  | .plain run :: _ => run
  | _ => []

/-- Where no tag is, the plain run in front begins as the text does. -/
theorem head?_firstRun (h : tag? (unslashed s) = none) : (firstRun (pieces s)).head? = s.head? := by
  rcases s with _ | ⟨c, rest⟩
  · rfl
  rw [pieces_plain h]
  rcases pieces rest with _ | ⟨run | ⟨n, t⟩, ps⟩ <;> rfl

theorem firstRun_guarded (ps : List Piece) : firstRun (ps.map Piece.guarded) = firstRun ps := by
  rcases ps with _ | ⟨run | ⟨n, t⟩, ps⟩ <;> rfl

theorem flatMap_shown_attach (c : CodePoint) (ps : List Piece) :
    (attach c ps).flatMap Piece.shown =
      if c = backslash ∧ (firstRun ps).head? = some 0x5B then ps.flatMap Piece.shown
      else c :: ps.flatMap Piece.shown := by
  -- a run of its own, where the pieces do not begin with one
  have hnew (ps : List Piece) (hfirst : firstRun ps = []) : (Piece.plain [c] :: ps).flatMap Piece.shown =
      if c = backslash ∧ (firstRun ps).head? = some 0x5B then ps.flatMap Piece.shown
      else c :: ps.flatMap Piece.shown := by
    rw [hfirst, if_neg fun h => Option.some_ne_none _ h.2.symm, List.flatMap_cons, Piece.shown_plain,
      unescaped_cons, if_neg fun h => Option.some_ne_none _ h.2.symm]
    rfl
  rcases ps with _ | ⟨run | ⟨n, t⟩, ps⟩
  · exact hnew [] rfl
  · rw [attach, List.flatMap_cons, List.flatMap_cons, Piece.shown_plain, Piece.shown_plain, unescaped_cons,
      firstRun]
    split <;> rfl
  · exact hnew _ rfl

/-- **What is shown of a text whose tags were made plain is the bare text.** -/
theorem shown_guarded (s : Text) : ((pieces s).map Piece.guarded).flatMap Piece.shown = bare s := by
  induction s using piecewise with
  | nil => rfl
  | tag n t after ht ih =>
    have hhalf : (2 * n + 1) / 2 = n := by omega
    have hodd : (2 * n + 1) % 2 = 1 := by omega
    have hshown : Piece.shown (.tag (2 * n + 1) t) = slashes n ++ t := by
      rw [Piece.shown_tag, hhalf, if_pos hodd]
    rw [pieces_tag ht, List.map_cons, List.flatMap_cons, ih, Piece.guarded, hshown, bare_slashes ht, bare_tag ht,
      List.append_assoc]
  | plain c rest h ih =>
    rw [pieces_plain h, map_guarded_attach, flatMap_shown_attach, firstRun_guarded, ih, bare]
    -- a bracket behind this backslash begins no tag
    have hdropped : (c = backslash ∧ (firstRun (pieces rest)).head? = some 0x5B) ↔ IsDropped c rest := by
      refine and_congr_right fun hc => ?_
      rw [hc, unslashed_backslash] at h
      rw [head?_firstRun h, iff_self_and]
      intro hhead
      obtain ⟨after, rfl⟩ := List.head?_eq_some_iff.1 hhead
      rwa [unslashed_cons_of_ne (by decide)] at h
    simp only [hdropped]

/-! ## Texts that come through -/

/-- Every bracket with a backslash in front of it begins a tag. -/
def Spared (s : Text) : Prop :=
  ∀ front after, s = front ++ backslash :: 0x5B :: after → tag? (0x5B :: after) ≠ none

theorem spared_cons : Spared (c :: rest) ↔ ¬IsDropped c rest ∧ Spared rest := by
  constructor
  · intro h
    constructor
    · rintro ⟨rfl, hhead, hnone⟩
      obtain ⟨after, rfl⟩ := List.head?_eq_some_iff.1 hhead
      exact h [] after rfl hnone
    · intro front after hrest
      exact h (c :: front) after (by rw [hrest, List.cons_append])
  · rintro ⟨hkept, hrest⟩ front after hs
    rcases front with _ | ⟨d, front⟩
    · obtain ⟨rfl, rfl⟩ := List.cons.inj hs
      exact fun hnone => hkept ⟨rfl, rfl, hnone⟩
    · exact hrest front after (List.cons.inj hs).2

/-- **Nothing is taken from a text** exactly if every bracket with a backslash in front begins a tag. -/
theorem bare_eq_iff (s : Text) : bare s = s ↔ Spared s := by
  induction s with
  | nil => exact iff_of_true rfl fun front after h => by simp at h
  | cons c rest ih =>
    rw [spared_cons]
    by_cases h : IsDropped c rest
    · refine iff_of_false (fun heq => ?_) fun hspared => hspared.1 h
      have hlength := (bare_sublist rest).length_le
      rw [← bare_dropped h, heq, List.length_cons] at hlength
      omega
    · rw [bare_kept h, List.cons_inj_right, ih, and_iff_right h]

/-- **A text comes through escaping and rendering** exactly if every bracket with a backslash in front begins
a tag, and it does not end with a single backslash. -/
theorem bare_sealed_eq_iff (s : Text) : bare (sealed s) = s ↔ Spared s ∧ endsOpen s = false := by
  cases hopen : endsOpen s with
  | false => rw [sealed, hopen, if_neg Bool.false_ne_true, bare_eq_iff, and_iff_left rfl]
  | true =>
    refine iff_of_false (fun heq => ?_) fun h => Bool.false_ne_true h.2.symm
    rw [sealed, hopen, if_pos rfl, bare_concat] at heq
    rw [← heq, endsOpen_concat, Bool.and_eq_true, decide_eq_true_eq, decide_eq_true_eq] at hopen
    -- the text in front of the single backslash would end with one, too
    have hfront : bare s = bare (bare s) ++ [backslash] := by rw [← bare_concat, heq]
    exact hopen.2 (by rw [hfront, List.getLast?_concat])

/-- **Everything but backslashes comes through** escaping and rendering, in its order. -/
theorem filter_bare_sealed (s : Text) :
    (bare (sealed s)).filter (· ≠ backslash) = s.filter (· ≠ backslash) := by
  have hbare (t : Text) : (bare t).filter (· ≠ backslash) = t.filter (· ≠ backslash) := by
    induction t with
    | nil => rfl
    | cons c rest ih =>
      by_cases h : IsDropped c rest
      · rw [bare_dropped h, ih, h.1, List.filter_cons_of_neg (by simp)]
      · rw [bare_kept h, List.filter_cons, List.filter_cons, ih]
  rw [hbare, sealed]
  split
  · rw [List.filter_append, List.filter_cons_of_neg (by simp), List.filter_nil, List.append_nil]
  · rfl

end CampaignDesk.Markup
