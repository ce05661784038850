import CampaignDesk.Console.Markup
import Mathlib.Data.List.TakeWhile

/-!
# Tags and how escaping makes them plain

A text is cut into pieces from the left, and escaping puts backslashes in front of every tag among them.
Rendering cuts what comes out once more, by the same rule. The tags that it finds are the same ones.

* `IsTag`: a tag as it is written. `tag?_eq_some`: **what is read as a tag is one.**
  `tag?_bracket_isSome`: whether a bracket begins a tag hangs on what follows it and on the next bracket.
* `piecewise`: **a text is empty, or begins with a tag behind some backslashes, or with a code point that
  does not.** `pieces_tag` and `pieces_plain` say what its first piece is, and proofs about texts follow these
  cases.
* `armoured`: a text with its tags made plain. `pieces_armoured`: **its pieces are those of the text.**
* `escape_eq`: escaping doubles a single backslash at the end, and makes the tags plain.
-/

namespace CampaignDesk.Markup

variable {s t after rest : Text} {c : CodePoint} {n : Nat}

/-! ## Tags -/

/-- The brackets of tags. -/
def isBracket (c : CodePoint) : Bool := c = 0x5B || c = 0x5D

/-- A tag as it is written. -/
inductive IsTag : Text → Prop
  | intro {c : CodePoint} {inner : Text} : beginsTag c = true → (∀ d ∈ inner, isBracket d = false) →
    IsTag (0x5B :: c :: inner ++ [0x5D])

theorem isBracket_of_beginsTag (h : beginsTag c = true) : isBracket c = false := by
  rw [isBracket, Bool.or_eq_false_iff, decide_eq_false_iff_not, decide_eq_false_iff_not]
  constructor <;>
  · rintro rfl
    exact absurd h (by decide)

/-- What is left once the front of a text is counted off. -/
theorem drop_takeWhile (p : CodePoint → Bool) (s : Text) :
    s.drop (s.takeWhile p).length = s.dropWhile p := by
  have hfront : s.takeWhile p ++ s.drop (s.takeWhile p).length = s :=
    List.prefix_iff_eq_append.1 (List.takeWhile_prefix p)
  exact List.append_cancel_left (hfront.trans List.takeWhile_append_dropWhile.symm)

/-- Reading a tag from behind its bracket. -/
theorem tag?_bracket (c : CodePoint) (rest : Text) : tag? (0x5B :: c :: rest) =
    if beginsTag c then
      match rest.dropWhile (!isBracket ·) with
      | 0x5D :: after => some (0x5B :: c :: rest.takeWhile (!isBracket ·) ++ [0x5D], after)
      | _ => none
    else none := by
  have hpassed : (fun d : CodePoint => decide (d ≠ 0x5B) && decide (d ≠ 0x5D)) = (!isBracket ·) := by
    funext d
    simp [isBracket]
  rw [← drop_takeWhile, ← hpassed]
  rfl

/-- **What is read as a tag is one**, and stands at the front. -/
theorem tag?_eq_some : tag? s = some (t, after) ↔ IsTag t ∧ s = t ++ after := by
  constructor
  · intro h
    obtain ⟨c, rest, rfl⟩ : ∃ c rest, s = 0x5B :: c :: rest := by
      unfold tag? at h
      split at h
      · exact ⟨_, _, rfl⟩
      · cases h
    rw [tag?_bracket] at h
    by_cases hc : beginsTag c = true
    · rw [if_pos hc] at h
      have hrest := List.takeWhile_append_dropWhile (p := (!isBracket ·)) (l := rest)
      have hinner := List.all_eq_true.1 (List.all_takeWhile (p := (!isBracket ·)) (l := rest))
      split at h
      · next closed =>
        cases h
        rw [closed] at hrest
        exact ⟨.intro hc fun d hd => by simpa using hinner d hd, by simp [hrest]⟩
      · cases h
    · rw [if_neg hc] at h
      cases h
  · rintro ⟨@⟨c, inner, hc, hinner⟩, rfl⟩
    have hwhole : 0x5B :: c :: inner ++ [0x5D] ++ after = 0x5B :: c :: (inner ++ 0x5D :: after) := by simp
    have hpassed : ∀ d ∈ inner, (!isBracket d) = true := fun d hd => by simp [hinner d hd]
    have htaken : (inner ++ 0x5D :: after).takeWhile (!isBracket ·) = inner := by
      rw [List.takeWhile_append_of_pos hpassed]
      simp [isBracket]
    have hleft : (inner ++ 0x5D :: after).dropWhile (!isBracket ·) = 0x5D :: after := by
      rw [List.dropWhile_append_of_pos hpassed]
      simp [isBracket]
    rw [hwhole, tag?_bracket, if_pos hc, htaken, hleft]
    rfl

theorem IsTag.read (h : IsTag t) (after : Text) : tag? (t ++ after) = some (t, after) :=
  tag?_eq_some.2 ⟨h, rfl⟩

/-- A tag begins with its bracket. -/
theorem IsTag.eq_cons (h : IsTag t) : ∃ inner, t = 0x5B :: inner := by
  cases h
  exact ⟨_, rfl⟩

theorem tag?_of_ne (h : c ≠ 0x5B) : tag? (c :: rest) = none := by
  rcases htag : tag? (c :: rest) with _ | ⟨t, after⟩
  · rfl
  · obtain ⟨ht, hs⟩ := tag?_eq_some.1 htag
    obtain ⟨inner, rfl⟩ := ht.eq_cons
    exact absurd (List.cons.inj hs).1 h

/-- **A bracket begins a tag** exactly if what may begin one follows and the next bracket closes it. -/
theorem tag?_bracket_isSome (rest : Text) : (tag? (0x5B :: rest)).isSome =
    (rest.head?.any beginsTag && decide (rest.find? isBracket = some 0x5D)) := by
  rcases rest with _ | ⟨c, rest⟩
  · rfl
  rw [tag?_bracket]
  by_cases hc : beginsTag c = true
  · have hfind : (c :: rest).find? isBracket = (rest.dropWhile (!isBracket ·)).head? := by
      rw [List.find?_cons_of_neg (by simp [isBracket_of_beginsTag hc]), ← List.find?_not_eq_head?_dropWhile]
      simp
    rw [if_pos hc, hfind, List.head?_cons, Option.any_some, hc, Bool.true_and]
    split
    · next closed => simp [closed]
    · next hopen =>
      rcases hleft : rest.dropWhile (!isBracket ·) with _ | ⟨d, after⟩
      · rfl
      · have hd : d ≠ 0x5D := by
          rintro rfl
          exact hopen after hleft
        simp [hd]
  · simp [hc]

/-! ## Pieces -/

/-- A text without the backslashes in front. -/
def unslashed (s : Text) : Text := s.dropWhile (· = backslash)

theorem unslashed_cons_of_ne (h : c ≠ backslash) (rest : Text) : unslashed (c :: rest) = c :: rest := by
  simp [unslashed, h]

theorem unslashed_backslash (rest : Text) : unslashed (backslash :: rest) = unslashed rest := by
  simp [unslashed]

theorem unslashed_slashes_append (n : Nat) (s : Text) : unslashed (slashes n ++ s) = unslashed s := by
  induction n with
  | zero => rfl
  | succ n ih => exact (unslashed_backslash _).trans ih

theorem IsTag.unslashed (h : IsTag t) (after : Text) : unslashed (t ++ after) = t ++ after := by
  obtain ⟨inner, rfl⟩ := h.eq_cons
  exact unslashed_cons_of_ne (by decide) _

/-- The backslashes in front of a text, and what follows them. -/
theorem slashes_append_unslashed (s : Text) :
    slashes (s.takeWhile (· = backslash)).length ++ unslashed s = s := by
  have hall : s.takeWhile (· = backslash) = slashes (s.takeWhile (· = backslash)).length :=
    List.eq_replicate_of_mem fun c hc => by simpa using List.mem_takeWhile_imp hc
  rw [← hall]
  exact List.takeWhile_append_dropWhile

theorem length_unslashed (s : Text) : (unslashed s).length ≤ s.length :=
  (List.dropWhile_suffix _).length_le

/-- **Cutting a text into pieces** takes a tag with the backslashes in front of it, or one code point. -/
theorem piecesFrom_succ (fuel : Nat) (c : CodePoint) (rest : Text) : piecesFrom (fuel + 1) (c :: rest) =
    match tag? (unslashed (c :: rest)) with
    | some (t, after) =>
      .tag ((c :: rest).takeWhile (· = backslash)).length t :: piecesFrom fuel after
    | none => attach c (piecesFrom fuel rest) := by
  rw [piecesFrom]
  rw [drop_takeWhile]
  rfl

/-- What follows a tag is shorter than the text. -/
theorem length_after (h : tag? (unslashed s) = some (t, after)) : after.length < s.length := by
  obtain ⟨ht, hs⟩ := tag?_eq_some.1 h
  obtain ⟨inner, rfl⟩ := ht.eq_cons
  have hlength := length_unslashed s
  rw [hs, List.length_append, List.length_cons] at hlength
  omega

/-- Fuel that is enough is as good as any other. -/
theorem piecesFrom_eq {fuel m : Nat} (h : s.length ≤ fuel) (h' : s.length ≤ m) :
    piecesFrom fuel s = piecesFrom m s := by
  induction fuel generalizing m s with
  | zero =>
    obtain rfl := List.eq_nil_of_length_eq_zero (Nat.le_zero.1 h)
    cases m <;> rfl
  | succ fuel ih =>
    rcases s with _ | ⟨c, rest⟩
    · cases m <;> rfl
    rcases m with _ | m
    · cases h'
    rw [List.length_cons] at h h'
    rw [piecesFrom_succ, piecesFrom_succ]
    rcases htag : tag? (unslashed (c :: rest)) with _ | ⟨t, after⟩ <;> dsimp only
    · rw [ih (m := m) (by omega) (by omega)]
    · have hafter := length_after htag
      rw [List.length_cons] at hafter
      rw [ih (m := m) (by omega) (by omega)]

/-- **A tag with the backslashes in front of it is a piece.** -/
theorem pieces_tag (ht : IsTag t) (n : Nat) (after : Text) :
    pieces (slashes n ++ (t ++ after)) = .tag n t :: pieces after := by
  have hfront : unslashed (slashes n ++ (t ++ after)) = t ++ after := by
    rw [unslashed_slashes_append, ht.unslashed]
  have hcount : ((slashes n ++ (t ++ after)).takeWhile (· = backslash)).length = n := by
    have hlength := congrArg List.length (slashes_append_unslashed (slashes n ++ (t ++ after)))
    rw [hfront] at hlength
    simp only [slashes, List.length_append, List.length_replicate] at hlength ⊢
    omega
  have hread : tag? (unslashed (slashes n ++ (t ++ after))) = some (t, after) := by
    rw [hfront, ht.read]
  have hafter := length_after hread
  rcases hs : slashes n ++ (t ++ after) with _ | ⟨c, rest⟩ <;> rw [hs] at hcount hread hafter
  · cases hread
  · rw [List.length_cons] at hafter
    rw [pieces, List.length_cons, piecesFrom_succ, hread, hcount]
    dsimp only
    rw [piecesFrom_eq (by omega) (Nat.le_refl _), pieces]

/-- **A code point that is in front of no tag** is a piece by itself or begins a longer plain run. -/
theorem pieces_plain (h : tag? (unslashed (c :: rest)) = none) :
    pieces (c :: rest) = attach c (pieces rest) := by
  rw [pieces, List.length_cons, piecesFrom_succ, h, pieces]

/-- **A text is empty, or begins with a tag behind some backslashes, or with a code point that does not.** -/
theorem piecewise {motive : Text → Prop} (nil : motive [])
    (tag : ∀ n t after, IsTag t → motive after → motive (slashes n ++ (t ++ after)))
    (plain : ∀ c rest, tag? (unslashed (c :: rest)) = none → motive rest → motive (c :: rest))
    (s : Text) : motive s := by
  induction hn : s.length using Nat.strongRecOn generalizing s with
  | ind n ih =>
    subst hn
    rcases s with _ | ⟨c, rest⟩
    · exact nil
    rcases htag : tag? (unslashed (c :: rest)) with _ | ⟨t, after⟩
    · exact plain c rest htag (ih _ (by simp) rest rfl)
    · have hshort := ih _ (length_after htag) after rfl
      obtain ⟨ht, hs⟩ := tag?_eq_some.1 htag
      rw [← slashes_append_unslashed (c :: rest), hs]
      exact tag _ t after ht hshort

/-! ## Escaping -/

/-- A piece with its tag made plain. -/
def Piece.guarded : Piece → Piece
  | .plain run => .plain run
  | .tag n t => .tag (2 * n + 1) t

/-- A text with its tags made plain. -/
def armoured (s : Text) : Text := (pieces s).flatMap Piece.escape

theorem armoured_tag (ht : IsTag t) (n : Nat) (after : Text) :
    armoured (slashes n ++ (t ++ after)) = slashes (2 * n + 1) ++ (t ++ armoured after) := by
  rw [armoured, pieces_tag ht, List.flatMap_cons, Piece.escape, List.append_assoc, armoured]

/-- A code point in front of the pieces of a text is one in front of the text that they make up. -/
theorem flatMap_escape_attach (c : CodePoint) (ps : List Piece) :
    (attach c ps).flatMap Piece.escape = c :: ps.flatMap Piece.escape := by
  rcases ps with _ | ⟨run | ⟨n, t⟩, ps⟩ <;> rfl

theorem armoured_plain (h : tag? (unslashed (c :: rest)) = none) :
    armoured (c :: rest) = c :: armoured rest := by
  rw [armoured, pieces_plain h, flatMap_escape_attach, armoured]

/-- The first bracket is the same in an armoured text. -/
theorem find?_bracket_slashes_append (n : Nat) (s : Text) :
    (slashes n ++ s).find? isBracket = s.find? isBracket := by
  induction n with
  | zero => rfl
  | succ n ih => exact ih

theorem find?_bracket_armoured (s : Text) : (armoured s).find? isBracket = s.find? isBracket := by
  induction s using piecewise with
  | nil => rfl
  | tag n t after ht ih =>
    obtain ⟨inner, rfl⟩ := ht.eq_cons
    rw [armoured_tag ht, find?_bracket_slashes_append, find?_bracket_slashes_append]
    rfl
  | plain c rest h ih => rw [armoured_plain h, List.find?_cons, List.find?_cons, ih]

/-- What an armoured text begins with may begin a tag behind a bracket if it did before. -/
theorem head?_armoured (s : Text) : (armoured s).head?.any beginsTag = s.head?.any beginsTag := by
  induction s using piecewise with
  | nil => rfl
  | tag n t after ht =>
    obtain ⟨inner, rfl⟩ := ht.eq_cons
    rw [armoured_tag ht]
    cases n <;> rfl
  | plain c rest h => rw [armoured_plain h, List.head?_cons, List.head?_cons]

/-- **Behind its backslashes an armoured text begins with a tag if the text does.** -/
theorem tag?_armoured (s : Text) :
    (tag? (unslashed (armoured s))).isSome = (tag? (unslashed s)).isSome := by
  induction s using piecewise with
  | nil => rfl
  | tag n t after ht =>
    rw [armoured_tag ht, unslashed_slashes_append, unslashed_slashes_append, ht.unslashed, ht.unslashed,
      ht.read, ht.read]
    rfl
  | plain c rest h ih =>
    rw [armoured_plain h]
    by_cases hc : c = backslash
    · rw [hc, unslashed_backslash, unslashed_backslash, ih]
    rw [unslashed_cons_of_ne hc, unslashed_cons_of_ne hc]
    by_cases hbracket : c = 0x5B
    · rw [hbracket, tag?_bracket_isSome, tag?_bracket_isSome, head?_armoured, find?_bracket_armoured]
    · rw [tag?_of_ne hbracket, tag?_of_ne hbracket]

theorem map_guarded_attach (c : CodePoint) (ps : List Piece) :
    (attach c ps).map Piece.guarded = attach c (ps.map Piece.guarded) := by
  rcases ps with _ | ⟨run | ⟨n, t⟩, ps⟩ <;> rfl

/-- **The pieces of an armoured text are those of the text, with every tag made plain.** -/
theorem pieces_armoured (s : Text) : pieces (armoured s) = (pieces s).map Piece.guarded := by
  induction s using piecewise with
  | nil => rfl
  | tag n t after ht ih =>
    rw [armoured_tag ht, pieces_tag ht, pieces_tag ht, ih]
    rfl
  | plain c rest h ih =>
    have hnone : tag? (unslashed (c :: armoured rest)) = none := by
      rw [← Option.not_isSome_iff_eq_none, ← armoured_plain h, tag?_armoured, h]
      exact Bool.false_ne_true
    rw [armoured_plain h, pieces_plain hnone, pieces_plain h, map_guarded_attach, ih]

/-! ## A backslash at the end -/

/-- A backslash at the end begins no tag. -/
theorem tag?_concat (s : Text) :
    (tag? (unslashed (s ++ [backslash]))).isSome = (tag? (unslashed s)).isSome := by
  induction s with
  | nil => rfl
  | cons c rest ih =>
    rw [List.cons_append]
    by_cases hc : c = backslash
    · rw [hc, unslashed_backslash, unslashed_backslash, ih]
    rw [unslashed_cons_of_ne hc, unslashed_cons_of_ne hc]
    by_cases hbracket : c = 0x5B
    · have hhead : (rest ++ [backslash]).head?.any beginsTag = rest.head?.any beginsTag := by
        cases rest <;> rfl
      have hfind : (rest ++ [backslash]).find? isBracket = rest.find? isBracket := by
        rw [List.find?_append, show [backslash].find? isBracket = none from rfl, Option.or_none]
      rw [hbracket, tag?_bracket_isSome, tag?_bracket_isSome, hhead, hfind]
    · rw [tag?_of_ne hbracket, tag?_of_ne hbracket]

theorem armoured_concat (s : Text) : armoured (s ++ [backslash]) = armoured s ++ [backslash] := by
  induction s using piecewise with
  | nil => decide
  | tag n t after ht ih =>
    rw [List.append_assoc, List.append_assoc, armoured_tag ht, armoured_tag ht, ih, List.append_assoc,
      List.append_assoc]
  | plain c rest h ih =>
    have hnone : tag? (unslashed (c :: (rest ++ [backslash]))) = none := by
      rw [← Option.not_isSome_iff_eq_none, ← List.cons_append, tag?_concat, h]
      exact Bool.false_ne_true
    rw [List.cons_append, armoured_plain hnone, armoured_plain h, ih, List.cons_append]

theorem endsOpen_concat (s : Text) (c : CodePoint) :
    endsOpen (s ++ [c]) = (decide (c = backslash) && decide (s.getLast? ≠ some backslash)) := by
  simp [endsOpen]

theorem getLast?_armoured (s : Text) : (armoured s).getLast? = s.getLast? := by
  induction s using piecewise with
  | nil => rfl
  | tag n t after ht ih =>
    obtain ⟨c, hc⟩ : ∃ c, t.getLast? = some c := by
      cases ht
      exact ⟨0x5D, List.getLast?_concat⟩
    rw [armoured_tag ht]
    simp only [List.getLast?_append, ih, hc, Option.or_some, Option.some_or]
  | plain c rest h ih => rw [armoured_plain h, List.getLast?_cons, List.getLast?_cons, ih]

/-- An armoured text ends with a single backslash if the text does. -/
theorem endsOpen_armoured (s : Text) : endsOpen (armoured s) = endsOpen s := by
  rcases List.eq_nil_or_concat s with rfl | ⟨front, c, rfl⟩
  · rfl
  rw [List.concat_eq_append]
  by_cases hc : c = backslash
  · rw [hc, armoured_concat, endsOpen_concat, endsOpen_concat, getLast?_armoured]
  · have hlast := getLast?_armoured (front ++ [c])
    rw [List.getLast?_concat] at hlast
    obtain ⟨front', hfront⟩ := List.getLast?_eq_some_iff.1 hlast
    rw [hfront, endsOpen_concat, endsOpen_concat]
    simp [hc]

/-- A text with a single backslash at its end doubled. -/
def sealed (s : Text) : Text := if endsOpen s then s ++ [backslash] else s

/-- **Escaping doubles a single backslash at the end and makes the tags plain.** -/
theorem escape_eq (s : Text) : escape s = armoured (sealed s) := by
  have hescape : escape s = if endsOpen (armoured s) then armoured s ++ [backslash] else armoured s := rfl
  rw [hescape, endsOpen_armoured, sealed]
  cases endsOpen s with
  | true => exact (armoured_concat s).symm
  | false => rfl

end CampaignDesk.Markup
