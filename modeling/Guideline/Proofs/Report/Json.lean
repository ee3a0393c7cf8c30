import Guideline.Proofs.Document.Json
import Guideline.Proofs.Review.Isolation
import Guideline.Report.Json

/-!
# JSON reports keep what they report

A JSON report is a document of counts, texts, lists and tables, so reading it gives this document again
(`read?_renderJson`). It has every field of a violation but the category.
-/

namespace Guideline

open Document

theorem Severity.name_injective : Function.Injective Severity.name := by
  intro s t h
  cases s <;> cases t <;> first | rfl | exact absurd h (by decide)

namespace Report

/-- What a report tells of a violation. -/
def told (v : Violation) : String × String × String × Nat × String × Severity × String :=
  (v.rule, v.description, v.filePath, v.line, v.lineContent, v.severity, v.suggestion)

theorem told_eq_of_violationValue_eq {v w : Violation} (h : violationValue v = violationValue w) :
    told v = told w := by
  simp only [violationValue, Value.table.injEq, List.cons.injEq, Prod.mk.injEq, Value.text.injEq,
    Value.count.injEq, true_and, and_true] at h
  obtain ⟨hrule, hdescription, hfile, hline, hcontent, hseverity, hsuggestion⟩ := h
  simp only [told, Prod.mk.injEq]
  exact ⟨hrule, hdescription, hfile, hline, hcontent, Severity.name_injective hseverity, hsuggestion⟩

theorem map_told_eq {vs ws : List Violation} (h : vs.map violationValue = ws.map violationValue) :
    vs.map told = ws.map told := by
  induction vs generalizing ws with
  | nil =>
    rw [List.map_eq_nil_iff.1 h.symm]
  | cons v vs ih =>
    obtain ⟨w, ws, rfl, hw, hws⟩ := List.map_eq_cons_iff.1 h.symm
    rw [List.map_cons, List.map_cons, told_eq_of_violationValue_eq hw, ih hws.symm]

/-- Tables of texts and counts can be written. -/
theorem writable_flat {entries : List (String × Value)}
    (h : ∀ e ∈ entries, (∃ s, e.2 = .text s) ∨ ∃ n, e.2 = .count n) : Json.Writable (.table entries) := by
  refine .table fun e he => ?_
  rcases h e he with ⟨s, hs⟩ | ⟨n, hn⟩
  · exact hs ▸ .text s
  · exact hn ▸ .count n

theorem writable_reportValue (r : ReviewResult) : Json.Writable (reportValue r) := by
  have hsummary : Json.Writable (summaryValue r.summary) := writable_flat (by simp)
  have hviolation : ∀ v, Json.Writable (violationValue v) := fun v => writable_flat (by simp)
  refine .table (List.forall_mem_cons.2 ⟨hsummary, List.forall_mem_cons.2 ⟨.list ?_, by simp⟩⟩)
  exact List.forall_mem_map.2 fun v _ => hviolation v

/-- Reading a JSON report gives the counts of the result and the fields of its violations in order. -/
theorem read?_renderJson (r : ReviewResult) :
    Json.read? (renderJson r).toList = some (.table [
      ("summary", .table [
        ("errors", .count (r.violations.countP (·.severity = .error))),
        ("warnings", .count (r.violations.countP (·.severity = .warning))),
        ("info", .count (r.violations.countP (·.severity = .info))),
        ("total_violations", .count r.violations.length)]),
      ("violations", .list (r.violations.map fun v => .table [
        ("rule_name", .text v.rule), ("description", .text v.description),
        ("file_path", .text v.filePath), ("line_number", .count v.line),
        ("line_content", .text v.lineContent), ("severity", .text v.severity.name),
        ("suggestion", .text v.suggestion)]))]) ∧
    ∀ r' : ReviewResult, renderJson r' = renderJson r → r'.violations.map told = r.violations.map told := by
  have hread : ∀ r, Json.read? (renderJson r).toList = some (reportValue r) := by
    intro r
    rw [renderJson, String.toList_ofList, Json.read?_write (writable_reportValue r)]
  refine ⟨?_, fun r' h => map_told_eq ?_⟩
  · rw [hread, reportValue, summaryValue, ReviewResult.summary, Reviewer.total_ofViolations]
    rfl
  · have hvalue := hread r'
    rw [h, hread r] at hvalue
    simp only [Option.some.injEq, reportValue, Value.table.injEq, List.cons.injEq, Prod.mk.injEq,
      Value.list.injEq, true_and, and_true] at hvalue
    exact hvalue.2.symm

end Report

end Guideline
