import Guideline.Proofs.Check.Dispatch
import Guideline.Proofs.Check.FindingLine
import Guideline.Proofs.Collection.Selection
import Guideline.Proofs.Source.Extension
import Mathlib.Data.List.Infix

/-!
# Findings stay when a file grows

Most checks look at a line or a statement and at what is above it. Text added at the end of a file
leaves their findings as they are and can only add more (`check_append_isPrefix`). The two others look
at the whole file: a guard may be completed by the next line of code, and the length of a function waits
for its closing brace.
-/

namespace Guideline

open Source SourceFile Check

namespace SourceFile.Extends

variable {f g : SourceFile} (h : f.Extends g)

include h

theorem longLines (max : Nat) : Check.longLines f max <+: Check.longLines g max := by
  refine List.IsPrefix.map _ (Collection.isPrefix_filter h.lines fun line hline => ?_)
  have hcomment := h.isCommentOnly_eq (number_le_of_mem_lines hline)
  simp only [mayBeLong, hcomment]

/-- Documentation is looked for above a line only. -/
theorem hasDocFrom_eq {n : Nat} (hn : n ≤ f.lineCount) : hasDocFrom g n = hasDocFrom f n := by
  induction n with
  | zero => rfl
  | succ n ih =>
    rw [hasDocFrom, hasDocFrom, h.rawLine_eq hn, h.isCommentOnly_eq hn, ih (by omega)]

theorem functionsWith {p q : Statement → Declaration.Signature → Bool}
    (hpq : ∀ s ∈ f.statements, ∀ sig, p s sig = q s sig)
    (hint : Declaration.Signature → Option String) :
    Check.functionsWith f p hint <+: Check.functionsWith g q hint := by
  have hfunctions : functions f <+: functions g := h.statements.filterMap _
  refine List.IsPrefix.map _ (Collection.isPrefix_filter hfunctions fun a ha => ?_)
  exact hpq a.1 (mem_statements_of_mem_functions ha) a.2

theorem undocumented (hlines : ∀ s ∈ f.statements, s.firstLine ≤ f.lineCount) :
    Check.undocumented f <+: Check.undocumented g := by
  refine h.functionsWith (fun s hs sig => ?_) _
  have hle := hlines s hs
  rw [h.hasDocFrom_eq (by omega)]

/-- A finding on a line of the shorter file makes the same violation in both. -/
theorem violation_eq {finding : Finding} (hpos : 1 ≤ finding.line) (hle : finding.line ≤ f.lineCount)
    (path : String) (kind : FileKind) (rule : Rule) :
    finding.violation ⟨path, kind, g⟩ rule = finding.violation ⟨path, kind, f⟩ rule := by
  have hf : (finding.violation ⟨path, kind, f⟩ rule).line = finding.line :=
    finding.line_violation hpos hle rule
  have hg : (finding.violation ⟨path, kind, g⟩ rule).line = finding.line :=
    finding.line_violation hpos (Nat.le_trans hle h.lineCount_le) rule
  simp only [Finding.violation] at hf hg ⊢
  rw [hf, hg, h.rawLine_eq hle]

end SourceFile.Extends

/-- The check looks at a line or statement and at what is above it. -/
def Detection.looksBack : Detection → Bool
  | .naming .. | .pattern .. | .keywords .. => true
  | .structural check =>
    match check with
    | .lineLength _ | .trailingWhitespace | .tabIndentation | .functionParameters _
    | .functionComments | .explicitConstructors => true
    | .includeGuard | .functionLength _ | .unreadableFile | .matcherFailure => false

theorem Detection.isNote_of_looksBack {d : Detection} (h : d.looksBack = true) : d.isNote = false := by
  cases d with
  | structural check =>
    cases check with
    | unreadableFile | matcherFailure => cases h
    | _ => rfl
  | _ => rfl

section

variable {t : List Char} (ht : t = [] ∨ t.getLast? = some '\n') (u : List Char)

include ht

theorem StructuralCheck.findings_isPrefix {check : StructuralCheck}
    (h : (Detection.structural check).looksBack = true) :
    ∃ found found', check.findings (parse t) = .ok found ∧
      check.findings (parse (t ++ u)) = .ok found' ∧ found <+: found' := by
  have hext := extends_parse_append ht u
  cases check with
  | includeGuard | functionLength | unreadableFile | matcherFailure => cases h
  | functionParameters max => exact ⟨_, _, rfl, rfl, hext.functionsWith (fun _ _ _ => rfl) _⟩
  | functionComments =>
    exact ⟨_, _, rfl, rfl, hext.undocumented fun s hs => (lineAt_of_mem_statements hs 0).2⟩
  | explicitConstructors => exact ⟨_, _, rfl, rfl, hext.functionsWith (fun _ _ _ => rfl) _⟩
  | lineLength max => exact ⟨_, _, rfl, rfl, hext.longLines max⟩
  | trailingWhitespace => exact ⟨_, _, rfl, rfl, (hext.lines.filter _).map _⟩
  | tabIndentation => exact ⟨_, _, rfl, rfl, (hext.lines.filter _).map _⟩

theorem Detection.findings_isPrefix {d : Detection} (h : d.looksBack = true) :
    ∃ found found', d.findings (parse t) = .ok found ∧
      d.findings (parse (t ++ u)) = .ok found' ∧ found <+: found' := by
  have hext := extends_parse_append ht u
  cases d with
  | naming construct p => exact ⟨_, _, rfl, rfl, hext.statements.flatMap _⟩
  | pattern p exception target => exact ⟨_, _, rfl, rfl, (hext.lines.filter _).map _⟩
  | keywords words p exception target => exact ⟨_, _, rfl, rfl, (hext.lines.filter _).map _⟩
  | structural check => exact check.findings_isPrefix ht u h

end

/-- Where a rule looks back only, text added behind a line feed leaves the violations that its matcher
finds as they are and can only add more. -/
theorem Matcher.check_append_isPrefix (rule : Rule) (hrule : rule.detection.looksBack = true)
    (path : String) (kind : FileKind) (t u : List Char) (ht : t = [] ∨ t.getLast? = some '\n') :
    ∃ m vs ws, (∀ m' : Matcher, m'.handles rule.detection = true ↔ m' = m) ∧
      m.check ⟨path, kind, parse t⟩ rule = .ok vs ∧
      m.check ⟨path, kind, parse (t ++ u)⟩ rule = .ok ws ∧ vs <+: ws := by
  obtain ⟨m, hm⟩ := Detection.isSome_matcher? (Detection.isNote_of_looksBack hrule)
  have honly : ∀ m' : Matcher, m'.handles rule.detection = true ↔ m' = m := by
    intro m'
    rw [Detection.handles_iff, hm, Option.some.injEq]
    exact eq_comm
  obtain ⟨found, found', hfound, hfound', hprefix⟩ := Detection.findings_isPrefix ht u hrule
  have hsame : found.map (·.violation ⟨path, kind, parse t⟩ rule) =
      found.map (·.violation ⟨path, kind, parse (t ++ u)⟩ rule) := by
    refine List.map_congr_left fun finding hmem => ?_
    obtain ⟨hpos, hle⟩ := Detection.line_of_mem_findings hfound hmem
    exact ((extends_parse_append ht u).violation_eq hpos hle path kind rule).symm
  refine ⟨m, _, _, honly, ?_, ?_, hprefix.map (·.violation ⟨path, kind, parse (t ++ u)⟩ rule)⟩
  · rw [Matcher.check_of_handles ((honly m).2 rfl), hfound, ← hsame]
    rfl
  · rw [Matcher.check_of_handles ((honly m).2 rfl), hfound']
    rfl

/-- A rule on documentation. -/
def documentationRule : Rule :=
  ⟨"docs", .structural, "Document functions", .warning, none, .headers, .structural .functionComments, []⟩

/-- One documented function, and one that is not. -/
def functionsContent : List Char :=
  "/// f\nvoid F();\n\nvoid\nG();\n".toList

theorem Matcher.check_append_functionsContent :
    documentationRule.detection.looksBack = true ∧ functionsContent.getLast? = some '\n' ∧
    ∃ vs ws, structural.check ⟨"a.h", .header, parse functionsContent⟩ documentationRule = .ok vs ∧
      structural.check ⟨"a.h", .header, parse (functionsContent ++ "\x7d int\nH();".toList)⟩
        documentationRule = .ok ws ∧
      vs <+: ws ∧ vs.map Violation.line = [5] ∧ ws.map Violation.line = [5, 7] := by
  have hlast : functionsContent.getLast? = some '\n' := by decide
  obtain ⟨m, vs, ws, honly, hvs, hws, hprefix⟩ := check_append_isPrefix documentationRule rfl "a.h"
    .header functionsContent "\x7d int\nH();".toList (.inr hlast)
  obtain rfl : structural = m := (honly structural).1 rfl
  have hone : (structural.check ⟨"a.h", .header, parse functionsContent⟩ documentationRule).map
      (·.map Violation.line) = .ok [5] := by
    decide +kernel
  have htwo : (structural.check ⟨"a.h", .header, parse (functionsContent ++ "\x7d int\nH();".toList)⟩
      documentationRule).map (·.map Violation.line) = .ok [5, 7] := by
    decide +kernel
  rw [hvs] at hone
  rw [hws] at htwo
  exact ⟨rfl, hlast, vs, ws, hvs, hws, hprefix, Except.ok.inj hone, Except.ok.inj htwo⟩

end Guideline
