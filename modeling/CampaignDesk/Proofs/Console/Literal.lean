import CampaignDesk.Proofs.Console.Lines
import CampaignDesk.Proofs.Sample
import CampaignDesk.Proofs.Text.Utf8

/-!
# Messages on the console

* `Console.told_literally_iff`: **a message is told as it stands exactly if every bracket with a backslash in
  front of it begins a tag, and it does not end with a single backslash**, on a terminal that shows its line as
  it stands. Nothing but backslashes is ever lost or added; `Console.backslashes_fall_short` has a message for
  either.
-/

namespace CampaignDesk.Console

open Markup

variable {message : Text}

/-! ## Messages that are told -/

/-- A code point that is neither a control code nor half of a pair. -/
def isShowable (c : CodePoint) : Bool :=
  0x20 ≤ c.val && !(0x7F ≤ c.val && c.val < 0xA0) && !c.isSurrogate

theorem isControl_of_isShowable {c : CodePoint} (h : isShowable c = true) : isControl c = false := by
  simp only [isShowable, Bool.and_eq_true, decide_eq_true_eq] at h
  have hval : ∀ d : CodePoint, d.val < 0x20 → decide (c = d) = false := by
    intro d hd
    rw [decide_eq_false_iff_not]
    rintro rfl
    omega
  simp only [isControl, hval 7 (by decide), hval 8 (by decide), hval 11 (by decide), hval 12 (by decide),
    hval 13 (by decide), Bool.or_self]

theorem isSurrogate_of_isShowable {c : CodePoint} (h : isShowable c = true) : c.isSurrogate = false := by
  simp only [isShowable, Bool.and_eq_true, Bool.not_eq_true'] at h
  exact h.2

/-- What is shown of a message with nothing but showable code points has no others either. -/
theorem isShowable_bare (h : ∀ c ∈ message, isShowable c = true) :
    ∀ c ∈ bare (sealed message), isShowable c = true := by
  intro c hc
  have hmem : c ∈ sealed message := (bare_sublist _).mem hc
  unfold sealed at hmem
  split at hmem
  · rcases List.mem_append.1 hmem with hmem | hmem
    · exact h c hmem
    · rw [List.mem_singleton.1 hmem]
      decide
  · exact h c hmem

/-- The line of a message with nothing but showable code points. -/
theorem line_of_showable {m : Mark} {terminal : Terminal} (h : ∀ c ∈ message, isShowable c = true)
    (hshows : terminal.Shows (m.sign ++ 0x20 :: bare (sealed message))) :
    line m message terminal = m.sign ++ 0x20 :: bare (sealed message) ++ ("\n" : Text) := by
  have hbare := isShowable_bare h
  refine line_of_shows (fun c hc => isControl_of_isShowable (hbare c hc)) (fun hfeed => ?_) hshows
  exact absurd (hbare _ hfeed) (by decide)

/-- **A message is told as it stands, with one exception.** For every mark and every message without control
codes and surrogates, on a terminal where its line fits and has no emoji codes:

* The tags in its markup that set a style are the two around the sign; every other one is plain, so that
  nothing of the message is taken for markup.
* What is printed is the sign, a blank, the message and a line feed, where in the message a single backslash at
  the end is doubled, and a backslash in front of a bracket that begins no tag is left out. All other code
  points are printed in their order.
* So the message is printed as it stands exactly if every bracket in it with a backslash in front begins a tag,
  and it does not end with a single backslash. -/
theorem told_literally_iff (m : Mark) (message : Text) (w : World)
    (h : ∀ c ∈ message, isShowable c = true)
    (hshows : w.host.terminal.Shows (m.sign ++ 0x20 :: bare (sealed message))) :
    (∃ rest, pieces (markup m message) =
        .tag 0 (opening m) :: .plain m.sign :: .tag 0 (closing m) :: rest ∧
      ∀ n t, .tag n t ∈ rest → n % 2 = 1) ∧
    say m message w = (.ok (), { w with
      out := w.out ++ (m.sign ++ 0x20 :: bare (sealed message) ++ ("\n" : Text)) }) ∧
    (bare (sealed message)).filter (· ≠ backslash) = message.filter (· ≠ backslash) ∧
    (bare (sealed message) = message ↔ Spared message ∧ endsOpen message = false) := by
  refine ⟨⟨_, pieces_markup m message, fun n t => odd_of_mem_guarded⟩, ?_, filter_bare_sealed message,
    bare_sealed_eq_iff message⟩
  have hclean : ∀ c ∈ line m message w.host.terminal, c.isSurrogate = false := by
    intro c hc
    by_contra hsurrogate
    have hmem := isSurrogate_of_mem_line hc ((Bool.not_eq_false _).mp hsurrogate)
    exact hsurrogate (isSurrogate_of_isShowable (h c hmem))
  rcases Utf8.encode?_cases (line m message w.host.terminal) with ⟨bytes, hbytes, -⟩ | ⟨-, -, c, hc, hsurrogate⟩
  · rw [say_apply, print, hbytes, line_of_showable h hshows]
    rfl
  · rw [hclean c hc] at hsurrogate
    cases hsurrogate

/-- A message with a tag, with backslashes in front of a tag and of others, and with a bracket that begins
none. -/
def bracketed : Text := "[red] \\\\[b] C:\\x [0-9] \\\\"

/-- It is told as it stands. -/
theorem told_literally_iff_sample :
    (∀ c ∈ bracketed, isShowable c = true) ∧
    Sample.world.host.terminal.Shows (Mark.failure.sign ++ 0x20 :: bare (sealed bracketed)) ∧
    (say .failure bracketed Sample.world).2.out = "\u2717 [red] \\\\[b] C:\\x [0-9] \\\\\n" ∧
    Spared bracketed := by
  have hshowable : ∀ c ∈ bracketed, isShowable c = true := List.all_eq_true.1 (by decide +kernel)
  have hshows : Sample.world.host.terminal.Shows (Mark.failure.sign ++ 0x20 :: bare (sealed bracketed)) :=
    ⟨by decide +kernel, fun _ _ => rfl⟩
  obtain ⟨-, hsaid, -, hliteral⟩ := told_literally_iff .failure bracketed Sample.world hshowable hshows
  have hsame : bare (sealed bracketed) = bracketed := by decide +kernel
  refine ⟨hshowable, hshows, ?_, (hliteral.1 hsame).1⟩
  rw [hsaid, hsame]
  decide +kernel

/-- **Backslashes can be lost and added.** A regular expression is told without its backslash, and a path
that ends with a backslash is told with two. -/
theorem backslashes_fall_short :
    (say .failure "\\[0-9]" Sample.world).2.out = "\u2717 [0-9]\n" ∧
    (say .info "C:\\out\\" Sample.world).2.out = "\u2139 C:\\out\\\\\n" ∧
    ¬ ∀ (m : Mark) (message : Text) (w : World), (∀ c ∈ message, isShowable c = true) →
      w.host.terminal.Shows (m.sign ++ 0x20 :: message) →
      (say m message w).2.out = w.out ++ (m.sign ++ 0x20 :: message ++ ("\n" : Text)) := by
  have hlost : (say .failure "\\[0-9]" Sample.world).2.out = "\u2717 [0-9]\n" := by decide +kernel
  refine ⟨hlost, by decide +kernel, fun h => ?_⟩
  have hsaid := h .failure "\\[0-9]" Sample.world (List.all_eq_true.1 (by decide +kernel))
    ⟨by decide +kernel, fun _ _ => rfl⟩
  rw [hlost] at hsaid
  exact absurd hsaid (by decide +kernel)

end CampaignDesk.Console
