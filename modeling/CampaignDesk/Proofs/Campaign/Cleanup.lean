import CampaignDesk.Proofs.Engine.Conduct
import CampaignDesk.Proofs.Sample

/-!
# Operations leave no trace

* `perform_leaves_no_trace`: **after an operation on a form all files are as the engine's own
  changes make them**, however the operation ends and at whichever stage. What it wrote itself is
  gone, and so is what the operations inside the engine's call wrote.
-/

namespace CampaignDesk.Dispatch

open World Act

/-- Asked for at the desk, an operation does to files what it does when it is performed. -/
theorem ask_sameBut (call : Call) (operation : Campaign) (form : Form) (w : World) :
    (perform call operation form w).2.SameFiles (Desk.ask call operation (.ok form) w).2 := by
  -- the desk looks at how the operation has ended, and logs at most
  have hask : Desk.ask call operation (.ok form) w =
      Desk.invoke (settle (perform call operation form w).1) (Desk.successMessage operation)
        (perform call operation form w).2 := invoke_congr rfl _
  rw [hask]
  exact sameFiles_incidental.invoke (Within.settle _) _ _

/-- **No leak and no collateral damage.** Let files be removable. Whatever the engine does, once an
operation on a form has ended, performed directly or asked for at the desk, all files are as the
changes of the engine make them that outlast the operation; nothing is left where files were lent to
the engine; and everywhere else but in the log file there is what was there before. -/
theorem perform_leaves_no_trace (engine : EngineRef → Order → Conduct) (operation : Campaign)
    (form : Form) (w : World) (hw : w.Spares .remove) :
    let call : Call := fun e order => (engine e order).run
    let lasting := lasting (fun e order => (engine e order).lasting) operation form w
    ∀ v ∈ [(perform call operation form w).2, (Desk.ask call operation (.ok form) w).2],
      (w.after lasting).SameFiles v ∧
      (∀ x, entered? operation form w = some x → ∀ l ∈ x.lent, v.store.node? l = none) ∧
      ∀ l, (∀ c ∈ lasting, c.location ≠ l) →
        (v.store.node? l = none ↔ w.store.node? l = none) ∧
        (¬ w.logging.WritesAt l → v.store.node? l = w.store.node? l) := by
  intro call lasting v hv
  have hspares : (w.after lasting).Spares .remove := fun f hf => hw f (by simpa using hf)
  have hperform : (w.after lasting).SameFiles (perform call operation form w).2 :=
    (perform_restored (fun e order v => (engine e order).run_restored v) operation form w).sameFiles
      hspares
  have hsame : (w.after lasting).SameFiles v := by
    rcases List.mem_cons.1 hv with rfl | hv
    · exact hperform
    · cases List.mem_singleton.1 hv
      exact hperform.trans (ask_sameBut call operation form w)
  have hkept (l : Location) (hl : ∀ c ∈ lasting, c.location ≠ l) :
      (w.after lasting).store.node? l = w.store.node? l := after_node? hl
  refine ⟨hsame, fun x hx l hl => ?_, fun l hl => ⟨?_, fun hlog => ?_⟩⟩
  · -- changes to what was lent do not outlast the operation
    have hlasting : ∀ c ∈ lasting, c.location ≠ l := by
      intro c hc heq
      simp only [lasting, Dispatch.lasting, hx, List.mem_filter, decide_eq_true_eq] at hc
      exact hc.2 (heq ▸ hl)
    rw [hsame.vacant l (by simp), hkept l hlasting]
    exact Entered.vacant hx l hl
  · rw [← hkept l hl]
    exact hsame.vacant l (by simp)
  · rw [← hkept l hl]
    exact hsame.node l (by simp) (by simpa using hlog)

/-- An engine that writes a report, has a preview made that removes its own template, and is
interrupted then. -/
def reporting : EngineRef → Order → Conduct := fun _ _ =>
  let interrupted : Conduct := .ends (.error (.new .keyboardInterrupt []))
  let previewing : Conduct := .changes ⟨["tmp", "mailgrid-ui-3.html"], none⟩ interrupted
  .changes ⟨["tmp", "report"], some []⟩
    (.performs .preview Sample.form (fun _ _ => previewing) fun _ => interrupted)

/-- All that is left of it is the report. -/
theorem perform_leaves_no_trace_of_reporting :
    let w := (perform (fun e order => (reporting e order).run) .run Sample.form Sample.world).2
    ∀ l, l ≠ (["tmp", "report"] : Location) → w.store.node? l = Sample.world.store.node? l := by
  intro w l hl
  have hspares : Sample.world.Spares .remove := nofun
  have hlasting : lasting (fun e order => (reporting e order).lasting) .run Sample.form Sample.world =
      [⟨["tmp", "report"], some []⟩] := by rfl
  obtain ⟨-, -, hrest⟩ := perform_leaves_no_trace reporting .run Sample.form Sample.world hspares w
    List.mem_cons_self
  rw [hlasting] at hrest
  have hquiet : ¬ Sample.world.logging.WritesAt l := fun ⟨_, hf, _⟩ => nomatch hf
  exact (hrest l (by simpa using hl.symm)).2 hquiet

end CampaignDesk.Dispatch
