import Guideline.Check.Matcher
import Guideline.Proofs.Source.MaskTrace
import Guideline.Proofs.Source.StatementLine

/-!
# Lines of findings

Findings come by their lines in four ways: from the lines of the file one by one, from an offset into a
statement, from the head of a block, and as the first line for a header without guard. All of them are
lines of the file (`line_of_mem_findings`), so a violation is on the line that was found and in an empty
file nothing is found.
-/

namespace Guideline

open Source SourceFile

namespace Check

variable {content : List Char} {f : Finding}

/-- Checks that look at each line on its own report the lines that they pick. -/
theorem line_of_mem_pickedLines {p : Line → Bool} {report : Line → Finding}
    (hreport : ∀ line, (report line).line = line.number)
    (h : f ∈ ((parse content).lines.filter p).map report) :
    1 ≤ f.line ∧ f.line ≤ (parse content).lineCount := by
  obtain ⟨line, hline, rfl⟩ := List.mem_map.1 h
  obtain ⟨hpos, hle, -⟩ := mem_lines_parse.1 (List.mem_of_mem_filter hline)
  rw [hreport]
  exact ⟨hpos, hle⟩

theorem line_of_mem_misnamed {construct : Construct} {pattern : Pattern}
    (h : f ∈ misnamed (parse content) construct pattern) :
    1 ≤ f.line ∧ f.line ≤ (parse content).lineCount := by
  obtain ⟨s, hs, hf⟩ := List.mem_flatMap.1 h
  obtain ⟨name, -, hname⟩ := List.mem_filterMap.1 hf
  split_ifs at hname
  rw [← Option.some.inj hname]
  exact lineAt_of_mem_statements hs name.offset

theorem mem_statements_of_mem_functions {source : SourceFile}
    {p : Statement × Declaration.Signature} (h : p ∈ functions source) : p.1 ∈ source.statements := by
  obtain ⟨s, hs, hsig⟩ := List.mem_filterMap.1 h
  obtain ⟨sig, -, rfl⟩ := Option.map_eq_some_iff.1 hsig
  exact hs

theorem line_of_mem_functionsWith {p : Statement → Declaration.Signature → Bool}
    {hint : Declaration.Signature → Option String}
    (h : f ∈ functionsWith (parse content) p hint) :
    1 ≤ f.line ∧ f.line ≤ (parse content).lineCount := by
  obtain ⟨⟨s, sig⟩, hfunction, rfl⟩ := List.mem_map.1 h
  have hs : s ∈ (parse content).statements :=
    mem_statements_of_mem_functions (List.mem_of_mem_filter hfunction)
  exact lineAt_of_mem_statements hs sig.offset

/-- A header is without guard only if it has code. -/
theorem line_of_mem_missingGuard (h : f ∈ missingGuard (parse content)) :
    1 ≤ f.line ∧ f.line ≤ (parse content).lineCount := by
  unfold missingGuard at h
  split_ifs at h with hguard
  · simp at h
  · rw [List.mem_singleton.1 h]
    have hcode : (parse content).code ≠ [] := by
      intro hnil
      apply hguard
      rw [hasIncludeGuard, hnil]
      rfl
    have hlen : (parse content).code.length = (parse content).lineCount :=
      length_maskLinesFrom .code (Text.lines content)
    have hpos := List.length_pos_iff.2 hcode
    exact ⟨Nat.le_refl 1, by rwa [hlen] at hpos⟩

theorem line_of_mem_longFunctions {max : Nat} (h : f ∈ longFunctions (parse content) max) :
    1 ≤ f.line ∧ f.line ≤ (parse content).lineCount := by
  obtain ⟨b, hb, hf⟩ := List.mem_filterMap.1 h
  have hline : f.line = b.headerLine := by
    split at hf
    · simp only at hf
      split_ifs at hf
      rw [← Option.some.inj hf]
    · cases hf
  obtain ⟨hpos, hle⟩ := header_blocks content b hb
  have hopen : b.openLine ≤ (parse content).lineCount := by
    have hmem : (b.openLine, b.closeLine) ∈ Brace.matching (parse content).braces := by
      rw [← map_blocks]
      exact List.mem_map_of_mem hb
    obtain ⟨u, v, hw, -⟩ := Brace.exists_of_mem_matching hmem
    refine (line_of_mem_braces content (x := .opening b.openLine) ?_).2
    rw [hw]
    simp
  omega

end Check

open Check

theorem StructuralCheck.line_of_mem_findings {check : StructuralCheck} {content : List Char}
    {found : List Finding} (h : check.findings (parse content) = .ok found) {f : Finding}
    (hf : f ∈ found) : 1 ≤ f.line ∧ f.line ≤ (parse content).lineCount := by
  unfold findings at h
  cases check with
  | functionLength max =>
    cases hbraces : (parse content).firstUnbalanced with
    | some line => simp [hbraces] at h
    | none =>
      simp only [hbraces, Except.ok.injEq] at h
      exact line_of_mem_longFunctions (h ▸ hf)
  | includeGuard => exact line_of_mem_missingGuard (Except.ok.inj h ▸ hf)
  | functionParameters max => exact line_of_mem_functionsWith (Except.ok.inj h ▸ hf)
  | functionComments => exact line_of_mem_functionsWith (Except.ok.inj h ▸ hf)
  | explicitConstructors => exact line_of_mem_functionsWith (Except.ok.inj h ▸ hf)
  | lineLength max => exact line_of_mem_pickedLines (fun _ => rfl) (Except.ok.inj h ▸ hf)
  | trailingWhitespace => exact line_of_mem_pickedLines (fun _ => rfl) (Except.ok.inj h ▸ hf)
  | tabIndentation => exact line_of_mem_pickedLines (fun _ => rfl) (Except.ok.inj h ▸ hf)
  | unreadableFile => simp [← Except.ok.inj h] at hf
  | matcherFailure => simp [← Except.ok.inj h] at hf

theorem Detection.line_of_mem_findings {d : Detection} {content : List Char} {found : List Finding}
    (h : d.findings (parse content) = .ok found) {f : Finding} (hf : f ∈ found) :
    1 ≤ f.line ∧ f.line ≤ (parse content).lineCount := by
  cases d with
  | naming construct p => exact line_of_mem_misnamed (Except.ok.inj h ▸ hf)
  | pattern p exception target => exact line_of_mem_pickedLines (fun _ => rfl) (Except.ok.inj h ▸ hf)
  | keywords words p exception target => exact line_of_mem_pickedLines (fun _ => rfl) (Except.ok.inj h ▸ hf)
  | structural check => exact check.line_of_mem_findings h hf

/-- On a line of the file nothing has to be corrected. -/
theorem Finding.line_violation {f : Finding} {file : CheckedFile} (hpos : 1 ≤ f.line)
    (hle : f.line ≤ file.source.lineCount) (rule : Rule) : (f.violation file rule).line = f.line := by
  show max 1 (min f.line (max file.source.lineCount 1)) = f.line
  omega

end Guideline
