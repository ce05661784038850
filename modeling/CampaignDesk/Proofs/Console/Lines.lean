import CampaignDesk.Console.Output
import CampaignDesk.Proofs.Act
import CampaignDesk.Proofs.Console.Rendering
import CampaignDesk.Proofs.Text.Pieces

/-!
# Lines on the console

A message stands behind a mark whose sign is drawn by tags, and goes into the same markup in its escaped form.
A terminal shows a line as it stands if it fits and holds no emoji code.

* `Console.pieces_markup`: **the tags that set a style are those of the mark.** Whatever the message holds is
  shown.
* `Console.shown_markup`: **what is shown** is the sign, a blank, and the message but for some backslashes.
* `Console.line_of_shows`: **a line that the terminal shows as it stands** is that and a line feed.
* `Console.isSurrogate_of_mem_line`: surrogates are never the doing of the terminal.
-/

namespace CampaignDesk

/-- A line that a terminal shows as it stands: it fits, and there is no emoji code in any stretch of it. -/
structure Terminal.Shows (terminal : Terminal) (line : Text) : Prop where
  fits : terminal.fits line = true
  literal : ∀ part, part <:+: line → terminal.emoji part = part

/-- A text without line feeds that fits is a line by itself. -/
theorem Terminal.layOut_of_fits {terminal : Terminal} {t : Text} (hfeed : (0x0A : CodePoint) ∉ t)
    (h : terminal.fits t = true) : terminal.layOut t = t := by
  rw [layOut, Text.splitOn_of_notMem hfeed, List.map_singleton, if_pos h]
  rfl

/-- What a terminal adds to a text, a line feed or what comes of folding, holds no surrogates. -/
theorem Terminal.mem_of_mem_layOut {terminal : Terminal} {t : Text} {c : CodePoint}
    (hc : c ∈ terminal.layOut t) (hsurrogate : c.isSurrogate = true) : c ∈ t := by
  have hne {d : CodePoint} (hd : d.isSurrogate = false) : c ≠ d := by
    rintro rfl
    exact absurd hsurrogate (by simp [hd])
  rcases Text.mem_of_mem_join hc with hfeed | ⟨shown, hshown, hc⟩
  · exact absurd (List.mem_singleton.1 hfeed) (hne (by decide))
  obtain ⟨line, hline, rfl⟩ := List.mem_map.1 hshown
  refine Text.mem_of_mem_splitOn hline ?_
  split at hc
  · exact hc
  · exact terminal.fold_surrogate line c hc hsurrogate

namespace Console

open Markup

variable {message : Text} {terminal : Terminal}

/-! ## The markup of a message -/

/-- The tag in front of the sign of a mark. -/
def opening (m : Mark) : Text := ("[" : Text) ++ m.style ++ ("]" : Text)

/-- The tag behind the sign of a mark. -/
def closing (m : Mark) : Text := ("[/" : Text) ++ m.style ++ ("]" : Text)

theorem isTag_opening (m : Mark) : IsTag (opening m) := by
  have hread : tag? (opening m) = some (opening m, []) := by cases m <;> decide
  exact (tag?_eq_some.1 hread).1

theorem isTag_closing (m : Mark) : IsTag (closing m) := by
  have hread : tag? (closing m) = some (closing m, []) := by cases m <;> decide
  exact (tag?_eq_some.1 hread).1

theorem markup_eq (m : Mark) (message : Text) :
    markup m message = opening m ++ (m.sign ++ (closing m ++ 0x20 :: escape message)) := by
  have hblank : ("] " : Text) = ("]" : Text) ++ [0x20] := by decide
  simp [markup, opening, closing, hblank]

/-- **The tags that set a style are those of the mark**: behind them every tag has been made plain. -/
theorem pieces_markup (m : Mark) (message : Text) : pieces (markup m message) =
    .tag 0 (opening m) :: .plain m.sign :: .tag 0 (closing m) ::
      attach 0x20 ((pieces (sealed message)).map Piece.guarded) := by
  have hplain {c : CodePoint} (hc : c ≠ backslash) (hbracket : c ≠ 0x5B) (rest : Text) :
      pieces (c :: rest) = attach c (pieces rest) :=
    pieces_plain (by rw [unslashed_cons_of_ne hc, tag?_of_ne hbracket])
  have hopening : pieces (opening m ++ (m.sign ++ (closing m ++ 0x20 :: escape message))) =
      .tag 0 (opening m) :: pieces (m.sign ++ (closing m ++ 0x20 :: escape message)) :=
    pieces_tag (isTag_opening m) 0 _
  have hclosing : pieces (closing m ++ 0x20 :: escape message) =
      .tag 0 (closing m) :: pieces (0x20 :: escape message) := pieces_tag (isTag_closing m) 0 _
  obtain ⟨sign, hsign, hslash, hbracket⟩ : ∃ c, m.sign = [c] ∧ c ≠ backslash ∧ c ≠ 0x5B := by
    cases m <;> exact ⟨_, rfl, by decide, by decide⟩
  rw [markup_eq, hopening, hsign, List.singleton_append, hplain hslash hbracket, hclosing,
    hplain (by decide) (by decide), escape_eq, pieces_armoured]
  rfl

/-- **What is shown is the sign, a blank, and the message** but for the backslashes that escaping and
rendering do not agree on. -/
theorem shown_markup (m : Mark) (message : Text) :
    shown (markup m message) = m.sign ++ 0x20 :: bare (sealed message) := by
  have hsign : Piece.shown (.plain m.sign) = m.sign := by cases m <;> decide
  have htag (t : Text) : Piece.shown (.tag 0 t) = [] := rfl
  rw [shown, pieces_markup, List.flatMap_cons, List.flatMap_cons, List.flatMap_cons, hsign, htag, htag,
    flatMap_shown_attach, if_neg fun h => absurd h.1 (by decide), shown_guarded]
  rfl

/-- A tag among what comes behind the mark is one of the message that was made plain. -/
theorem odd_of_mem_guarded {n : Nat} {t : Text} {ps : List Piece}
    (h : Piece.tag n t ∈ attach 0x20 (ps.map Piece.guarded)) : n % 2 = 1 := by
  have hguarded : Piece.tag n t ∈ ps.map Piece.guarded := by
    rcases ps with _ | ⟨run | ⟨k, u⟩, ps⟩
    · cases List.mem_singleton.1 h
    · rcases List.mem_cons.1 h with heq | h
      · cases heq
      · exact List.mem_cons_of_mem _ h
    · rcases List.mem_cons.1 h with heq | h
      · cases heq
      · exact h
  obtain ⟨run | ⟨k, u⟩, -, heq⟩ := List.mem_map.1 hguarded
  · cases heq
  · cases heq
    omega

/-! ## What a terminal shows -/

/-- The line of a message whose mark and text the terminal shows as they stand. -/
theorem line_of_shows {m : Mark} (hcontrol : ∀ c ∈ bare (sealed message), isControl c = false)
    (hfeed : (0x0A : CodePoint) ∉ bare (sealed message))
    (h : terminal.Shows (m.sign ++ 0x20 :: bare (sealed message))) :
    line m message terminal = m.sign ++ 0x20 :: bare (sealed message) ++ ("\n" : Text) := by
  have hsign : ∀ c ∈ m.sign, isControl c = false ∧ c ≠ 0x0A := by
    cases m <;> exact List.forall_mem_singleton.2 (by decide)
  have hkept : (m.sign ++ 0x20 :: bare (sealed message)).filter (!isControl ·) =
      m.sign ++ 0x20 :: bare (sealed message) := by
    refine List.filter_eq_self.2 (List.forall_mem_append.2 ⟨fun c hc => ?_, ?_⟩)
    · rw [(hsign c hc).1]
      rfl
    · exact List.forall_mem_cons.2 ⟨by decide, fun c hc => by rw [hcontrol c hc]; rfl⟩
  have hone : (0x0A : CodePoint) ∉ m.sign ++ 0x20 :: bare (sealed message) := by
    rw [List.mem_append, List.mem_cons]
    rintro (hmem | hblank | hmem)
    · exact (hsign _ hmem).2 rfl
    · exact absurd hblank (by decide)
    · exact hfeed hmem
  have hrender : render terminal.emoji (markup m message) = m.sign ++ 0x20 :: bare (sealed message) := by
    rw [← shown_markup] at h ⊢
    exact render_eq_shown h.literal
  rw [line, hrender, hkept, terminal.layOut_of_fits hone h.fits]

/-- A message is printed as its line. -/
theorem say_apply (m : Mark) (message : Text) (w : World) :
    say m message w = print (line m message w.host.terminal) encodingHint w := by
  rw [say, Act.bind_apply, Act.get_apply]

/-- **A surrogate on a line comes from its message.** -/
theorem isSurrogate_of_mem_line {m : Mark} {c : CodePoint} (hc : c ∈ line m message terminal)
    (hsurrogate : c.isSurrogate = true) : c ∈ message := by
  have hne {d : CodePoint} (hd : d.isSurrogate = false) : c ≠ d := by
    rintro rfl
    exact absurd hsurrogate (by simp [hd])
  rcases List.mem_append.1 hc with hc | hc
  · have hrendered := (List.mem_filter.1 (Terminal.mem_of_mem_layOut hc hsurrogate)).1
    obtain ⟨part, hpart, hc⟩ := List.mem_flatMap.1 hrendered
    have hshown : c ∈ shown (markup m message) := by
      rw [← flatten_parts]
      exact List.mem_flatten.2 ⟨part, hpart, terminal.emoji_surrogate part c hc hsurrogate⟩
    rw [shown_markup] at hshown
    rcases List.mem_append.1 hshown with hsign | hrest
    · cases m <;> exact absurd (List.mem_singleton.1 hsign) (hne (by decide))
    rcases List.mem_cons.1 hrest with hblank | hbare
    · exact absurd hblank (hne (by decide))
    have hsealed : c ∈ sealed message := (bare_sublist _).mem hbare
    unfold sealed at hsealed
    split at hsealed
    · rcases List.mem_append.1 hsealed with hmem | hmem
      · exact hmem
      · exact absurd (List.mem_singleton.1 hmem) (hne (by decide))
    · exact hsealed
  · exact absurd (List.mem_singleton.1 hc) (hne (by decide))

end Console

end CampaignDesk
