import Guideline.Proofs.Check.Dispatch
import Guideline.Proofs.Check.FindingLine
import Guideline.Proofs.Review.Order
import Guideline.Proofs.Rule.Merge
import Guideline.Review.Reviewer

/-!
# Where violations come from

A violation in a file is a finding of a matcher or the note that a rule cannot be evaluated. In both
cases it says of its rule and its line what the rule set and the file say (`reviewText_faithful`). A
finding is on a line of the file, so `Finding.violation` has nothing to correct.
-/

namespace Guideline

open Violation

theorem RuleSet.mem_rulesFor {s : RuleSet} {kind : FileKind} {rule : Rule} :
    rule ∈ s.rulesFor kind ↔
      rule ∈ s.rules ∧ rule.appliesTo.covers kind = true ∧ rule.detection.isNote = false := by
  simp [rulesFor]

/-- What a violation repeats of its rule and its file. -/
structure Violation.Repeats (v : Violation) (rule : Rule) (file : CheckedFile) : Prop where
  id : v.rule = rule.id
  severity : v.severity = rule.severity
  description : v.description = rule.description
  category : v.category = rule.category
  filePath : v.filePath = Path.display file.path
  lineContent : v.lineContent = excerpt (file.source.rawLine v.line)

theorem Finding.repeats_violation (f : Finding) (file : CheckedFile) (rule : Rule) :
    (f.violation file rule).Repeats rule file :=
  ⟨rfl, rfl, rfl, rfl, rfl, rfl⟩

namespace Reviewer

variable {r : Reviewer} {file : CheckedFile} {rule : Rule} {v : Violation}

/-- A matcher finds something in the file for a rule that applies to it. -/
structure Finds (r : Reviewer) (file : CheckedFile) (rule : Rule) (f : Finding) : Prop where
  applies : rule ∈ r.rules.rulesFor file.kind
  handled : ∃ m ∈ r.matchers, m.handles rule.detection = true
  found : ∃ found, rule.detection.findings file.source = .ok found ∧ f ∈ found

/-- The note says why a rule that applies to the file cannot be evaluated. -/
structure Notes (r : Reviewer) (file : CheckedFile) (note : Rule) (f : Finding) : Prop where
  known : r.rules.find? matcherFailureId = some note
  first : f.line = 1
  failed : ∃ rule ∈ r.rules.rulesFor file.kind, ∃ reason,
    r.checkRule file rule = .error reason ∧ f.hint = some reason

theorem of_checkRule_eq_ok {vs : List Violation} (h : r.checkRule file rule = .ok vs) :
    (∃ m ∈ r.matchers, m.handles rule.detection = true) ∧
    ∃ found, rule.detection.findings file.source = .ok found ∧ vs = found.map (·.violation file rule) := by
  rw [checkRule] at h
  cases hfind : r.matchers.find? (·.handles rule.detection) with
  | none =>
    rw [hfind] at h
    cases h
  | some m =>
    have hhandles : m.handles rule.detection = true := by simpa using List.find?_some hfind
    simp only [hfind, Matcher.check_of_handles hhandles] at h
    refine ⟨⟨m, List.mem_of_find?_eq_some hfind, hhandles⟩, ?_⟩
    cases hfound : rule.detection.findings file.source with
    | error e =>
      rw [hfound] at h
      cases h
    | ok found =>
      rw [hfound] at h
      exact ⟨found, rfl, (Except.ok.inj h).symm⟩

theorem mem_note {id reason : String} : v ∈ r.note file id reason ↔
    ∃ rule, r.rules.find? id = some rule ∧ v = Finding.violation ⟨1, some reason⟩ file rule := by
  rw [note]
  cases r.rules.find? id <;> simp

theorem finds_or_notes (h : v ∈ r.allViolations file) :
    ∃ rule f, v = f.violation file rule ∧ (r.Finds file rule f ∨ r.Notes file rule f) := by
  obtain ⟨rule, hrule, hv⟩ := List.mem_flatMap.1 h
  rw [ruleViolations] at hv
  cases hcheck : r.checkRule file rule with
  | ok vs =>
    rw [hcheck] at hv
    obtain ⟨hhandled, found, hfound, rfl⟩ := of_checkRule_eq_ok hcheck
    obtain ⟨f, hf, rfl⟩ := List.mem_map.1 hv
    exact ⟨rule, f, rfl, .inl ⟨hrule, hhandled, found, hfound, hf⟩⟩
  | error reason =>
    rw [hcheck] at hv
    obtain ⟨noted, hnoted, rfl⟩ := mem_note.1 hv
    exact ⟨noted, _, rfl, .inr ⟨hnoted, rfl, rule, hrule, reason, hcheck, rfl⟩⟩

theorem mem_allViolations_of_mem_reviewText {path : String} {kind : FileKind} {content : List Char}
    (h : v ∈ r.reviewText path kind content) : v ∈ r.allViolations ⟨path, kind, .parse content⟩ :=
  (List.mem_filter.1 (List.mem_filter.1 (mem_sortForReport.1 h)).1).1

/-- Every violation in a text names a rule of the rule set and repeats what this rule and the line of
the text say. If it is not the note on a rule that cannot be evaluated, then a matcher found it for a
rule that covers the kind of the file, on a line that the text has. -/
theorem reviewText_faithful (rules : List Rule) (r : Reviewer) (hr : r.rules = .ofRules rules)
    (path : String) (kind : FileKind) (content : List Char) :
    let file : CheckedFile := ⟨path, kind, .parse content⟩
    (∀ v ∈ r.reviewText path kind content, ∃ rule f, r.rules.find? v.rule = some rule ∧
      v.Repeats rule file ∧ v = f.violation file rule ∧ (r.Finds file rule f ∨ r.Notes file rule f)) ∧
    ∀ rule f, r.Finds file rule f →
      rule.appliesTo.covers kind = true ∧ 1 ≤ f.line ∧ f.line ≤ file.source.lineCount ∧
      (f.violation file rule).line = f.line ∧ content ≠ [] := by
  intro file
  have hasc : r.rules.Ascending := by
    rw [hr]
    exact RuleSet.ascending_ofRules rules
  constructor
  · intro v hv
    obtain ⟨rule, f, rfl, horigin⟩ := finds_or_notes (mem_allViolations_of_mem_reviewText hv)
    refine ⟨rule, f, ?_, f.repeats_violation file rule, rfl, horigin⟩
    -- The rule of a finding is looked up by its own identifier, that of a note by the note's.
    rcases horigin with hfinds | hnotes
    · exact hasc.find?_eq_some_iff.2 ⟨(RuleSet.mem_rulesFor.1 hfinds.applies).1, rfl⟩
    · have hmem := hasc.find?_eq_some_iff.1 hnotes.known
      exact hasc.find?_eq_some_iff.2 ⟨hmem.1, rfl⟩
  · intro rule f hfinds
    obtain ⟨found, hfound, hf⟩ := hfinds.found
    obtain ⟨hpos, hle⟩ := Detection.line_of_mem_findings hfound hf
    refine ⟨(RuleSet.mem_rulesFor.1 hfinds.applies).2.1, hpos, hle,
      f.line_violation hpos hle rule, ?_⟩
    rintro rfl
    have hempty : (SourceFile.parse []).lineCount = 0 := by decide
    omega

/-- A reviewer for the length of functions and for white space at the ends of lines. -/
def lengthReviewer : Reviewer where
  rules := .ofRules [
    ⟨"length", .structural, "Short functions", .warning, none, .all, .structural (.functionLength 9), []⟩,
    ⟨"blanks", .formatting, "No blanks at the end", .error, none, .all, .structural .trailingWhitespace,
      []⟩,
    ⟨matcherFailureId, .structural, "Skipped", .info, none, .all, .structural .matcherFailure, []⟩]

/-- A function without its end, with a blank after its head. -/
def openContent : List Char :=
  "\nvoid F() \x7b \n  int a;\n".toList

/-- The blank is found on the second line. The unfinished function is noted on the first. -/
theorem reviewText_openContent :
    let r := lengthReviewer
    let file : CheckedFile := ⟨"./a.cc", .source, .parse openContent⟩
    let blank : Violation :=
      ⟨"blanks", "No blanks at the end", "a.cc", 2, "void F() \x7b", .error, "", .formatting⟩
    (∃ rule f, r.rules.find? "blanks" = some rule ∧ blank.Repeats rule file ∧ r.Finds file rule f ∧
      f.line = 2 ∧ f.line ≤ file.source.lineCount) ∧
    ∃ v ∈ r.reviewText "./a.cc" .source openContent, ∃ rule,
      r.rules.find? matcherFailureId = some rule ∧ v.Repeats rule file ∧ v.line = 1 := by
  intro r file blank
  obtain ⟨hall, hlines⟩ := reviewText_faithful _ r rfl "./a.cc" .source openContent
  have hblank : blank ∈ r.reviewText "./a.cc" .source openContent :=
    mem_sortForReport.2 (by decide +kernel)
  have hnote : ⟨matcherFailureId, "Skipped", "a.cc", 1, "", .info,
      "Rule 'length' skipped: unbalanced braces near line 2", .structural⟩ ∈
      r.reviewText "./a.cc" .source openContent := mem_sortForReport.2 (by decide +kernel)
  constructor
  · obtain ⟨rule, f, hfind, hrepeats, hv, horigin⟩ := hall blank hblank
    have hline : 2 = (f.violation file rule).line := congrArg Violation.line hv
    rcases horigin with hfinds | hnotes
    · obtain ⟨-, -, hle, hsame, -⟩ := hlines rule f hfinds
      exact ⟨rule, f, hfind, hrepeats, hfinds, (hline.trans hsame).symm, hle⟩
    · have hone : (f.violation file rule).line = 1 := by
        show max 1 (min f.line (max file.source.lineCount 1)) = 1
        rw [hnotes.first]
        omega
      omega
  · obtain ⟨rule, -, hfind, hrepeats, -⟩ := hall _ hnote
    exact ⟨_, hnote, rule, hfind, hrepeats, rfl⟩

end Reviewer

end Guideline
