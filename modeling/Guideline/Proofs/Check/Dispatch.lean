import Guideline.Check.Matcher
import Mathlib.Data.List.Basic

/-!
# The matcher of a rule

Every detection but the notes has one matcher that handles it (`handles_iff`), so the order in which
the matchers are asked does not matter. The matcher fails only where functions are to be measured and
braces do not balance (`findings_eq_error_iff`).
-/

namespace Guideline

namespace Detection

/-- The matcher for a kind of detection; no matcher looks for notes. -/
def matcher? : Detection → Option Matcher
  | .naming .. => some .naming
  | .pattern .. => some .pattern
  | .keywords .. => some .pattern
  | .structural check =>
    match check with
    | .includeGuard | .functionLength _ | .functionParameters _ | .functionComments
    | .explicitConstructors => some .structural
    | .lineLength _ | .trailingWhitespace | .tabIndentation => some .formatting
    | .unreadableFile | .matcherFailure => none

theorem handles_iff {m : Matcher} {d : Detection} : m.handles d = true ↔ d.matcher? = some m := by
  cases d with
  | structural check => cases check <;> cases m <;> simp [Matcher.handles, matcher?]
  | _ => cases m <;> simp [Matcher.handles, matcher?]

theorem isSome_matcher? {d : Detection} (h : d.isNote = false) : ∃ m, d.matcher? = some m := by
  cases d with
  | structural check =>
    cases check with
    | unreadableFile | matcherFailure => exact absurd h (by decide)
    | _ => exact ⟨_, rfl⟩
  | _ => exact ⟨_, rfl⟩

theorem find?_handles {ms : List Matcher} (h : ms.Perm Matcher.all) (d : Detection) :
    ms.find? (·.handles d) = d.matcher? := by
  cases hd : d.matcher? with
  | none =>
    refine List.find?_eq_none.2 fun m _ hm => ?_
    rw [handles_iff, hd] at hm
    cases hm
  | some m =>
    have hmem : m ∈ ms := h.mem_iff.2 (by cases m <;> decide)
    have hsome : (ms.find? (·.handles d)).isSome :=
      List.find?_isSome.2 ⟨m, hmem, handles_iff.2 hd⟩
    obtain ⟨m', hm'⟩ := Option.isSome_iff_exists.1 hsome
    have hhandles : m'.handles d = true := by simpa using List.find?_some hm'
    rw [hm', ← hd, handles_iff.1 hhandles]

/-- The detection measures functions. -/
def isLength : Detection → Bool
  | .structural (.functionLength _) => true
  | _ => false

theorem isLength_iff {d : Detection} :
    d.isLength = true ↔ ∃ max, d = .structural (.functionLength max) := by
  constructor
  · intro h
    unfold isLength at h
    split at h
    · exact ⟨_, rfl⟩
    · cases h
  · rintro ⟨max, rfl⟩
    rfl

theorem findings_eq_error_iff {d : Detection} {source : SourceFile} {e : MatcherError} :
    d.findings source = .error e ↔
      d.isLength = true ∧ ∃ line, source.firstUnbalanced = some line ∧ e = .unbalanced line := by
  by_cases hlength : d.isLength = true
  · obtain ⟨max, rfl⟩ := isLength_iff.1 hlength
    simp only [findings, StructuralCheck.findings, hlength, true_and]
    cases source.firstUnbalanced with
    | none => simp
    | some line => simp [eq_comm]
  · have hok : ∃ found, d.findings source = .ok found := by
      cases d with
      | structural check =>
        cases check with
        | functionLength max => exact absurd rfl hlength
        | _ => exact ⟨_, rfl⟩
      | _ => exact ⟨_, rfl⟩
    obtain ⟨found, hok⟩ := hok
    simp [hok, hlength]

end Detection

/-- A matcher that handles a rule fails as the detection does. -/
theorem Matcher.check_of_handles {m : Matcher} {rule : Rule} (h : m.handles rule.detection = true)
    (file : CheckedFile) : m.check file rule =
      (rule.detection.findings file.source).map fun found => found.map (·.violation file rule) :=
  if_pos h

end Guideline
