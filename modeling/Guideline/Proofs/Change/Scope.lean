import Guideline.Change.Scope
import Guideline.Proofs.Collection.Selection
import Guideline.Proofs.Collection.Sorted
import Guideline.Proofs.Path.Order
import Guideline.Proofs.Path.Spelling

/-!
# What a scope answers

A scope lists files by their components without a leading `.`, and is asked by these too. So its answers are
about paths and not about spellings: it contains what is listed last under any spelling of the path
(`contains_ofFiles_iff`, `contains_ofLines_iff`), and it covers the files of which it contains a line
(`coversFile_iff`).
-/

namespace Guideline

namespace Change.ChangeScope

variable {scope : ChangeScope} {path : String} {line : Nat}

theorem coversFile_iff : scope.coversFile path = true ↔ ∃ line, scope.contains path line = true := by
  match scope with
  | .unscoped => simp [coversFile, contains]
  | .scoped files =>
    simp only [coversFile, contains]
    cases selection? files path with
    | none => simp
    | some selection =>
      cases selection with
      | every => simp [LineSelection.isEmpty, LineSelection.contains]
      | only lines =>
        have hlines : (!lines.isEmpty) = true ↔ ∃ line, line ∈ lines := by
          rw [Bool.not_eq_true', List.isEmpty_eq_false_iff_exists_mem]
        simpa [LineSelection.isEmpty, LineSelection.contains] using hlines

/-- Listed items select lines of the files that they name: the last one that names a file, however spelled,
counts. -/
theorem selection?_eq_some_iff {α : Type} {name : α → String} {selected : α → LineSelection} {l : List α}
    {selection : LineSelection} :
    selection? (Collection.ofEntries Path.cmpComponents
        (l.map fun a => (Path.normalComponents (name a), selected a))) path = some selection ↔
      ∃ before a after, l = before ++ a :: after ∧ Path.SamePath (name a) path ∧
        (∀ b ∈ after, ¬ Path.SamePath (name b) path) ∧ selected a = selection := by
  rw [selection?, Collection.find?_ofEntries_eq_some_iff]
  simp only [← Path.normalComponents_eq_iff]
  constructor
  · rintro ⟨before, after, heq, hafter⟩
    obtain ⟨before, rest, rfl, rfl, hrest⟩ := List.map_eq_append_iff.1 heq
    obtain ⟨a, after, rfl, ha, rfl⟩ := List.map_eq_cons_iff.1 hrest
    obtain ⟨hname, hselected⟩ := Prod.mk.inj ha
    exact ⟨before, a, after, rfl, hname, fun b hb => hafter _ (List.mem_map_of_mem hb), hselected⟩
  · rintro ⟨before, a, after, rfl, hname, hafter, rfl⟩
    refine ⟨before.map _, after.map _, by rw [List.map_append, List.map_cons, hname], ?_⟩
    exact List.forall_mem_map.2 hafter

theorem contains_ofFiles_iff {files : List String} :
    (ofFiles files).contains path line = true ↔ ∃ file ∈ files, Path.SamePath file path := by
  rw [ofFiles, contains, Option.any_eq_true]
  constructor
  · rintro ⟨selection, hselection, -⟩
    obtain ⟨before, file, after, rfl, hsame, -⟩ := selection?_eq_some_iff.1 hselection
    exact ⟨file, by simp, hsame⟩
  · intro h
    obtain ⟨before, file, after, heq, hsame, hafter⟩ := Collection.exists_last h
    exact ⟨.every, selection?_eq_some_iff.2 ⟨before, file, after, heq, hsame, hafter, rfl⟩, rfl⟩

theorem contains_ofLines_iff {files : ChangedLines} : (ofLines files).contains path line = true ↔
    ∃ before file lines after, files = before ++ (file, lines) :: after ∧ Path.SamePath file path ∧
      (∀ e ∈ after, ¬ Path.SamePath e.1 path) ∧ line ∈ lines := by
  rw [ofLines, contains, Option.any_eq_true]
  constructor
  · rintro ⟨selection, hselection, hline⟩
    obtain ⟨before, ⟨file, lines⟩, after, rfl, hsame, hafter, rfl⟩ := selection?_eq_some_iff.1 hselection
    exact ⟨before, file, lines, after, rfl, hsame, hafter, List.contains_iff_mem.1 hline⟩
  · rintro ⟨before, file, lines, after, heq, hsame, hafter, hline⟩
    exact ⟨.only lines, selection?_eq_some_iff.2 ⟨before, (file, lines), after, heq, hsame, hafter, rfl⟩,
      List.contains_iff_mem.2 hline⟩

theorem contains_of_samePath {p q : String} (h : Path.SamePath p q) (line : Nat) :
    scope.contains p line = scope.contains q line := by
  match scope with
  | .unscoped => rfl
  | .scoped files => rw [contains, contains, selection?, selection?, Path.normalComponents_eq_iff.2 h]

/-- A scope of listed files answers for a path, however it is spelled in the list and in the question. -/
theorem answers_spelling (files : List String) (changed : ChangedLines) :
    (∀ path line, (ofFiles files).contains path line = true ↔ ∃ file ∈ files, Path.SamePath file path) ∧
    (∀ path line, (ofLines changed).contains path line = true ↔
      ∃ before file lines after, changed = before ++ (file, lines) :: after ∧ Path.SamePath file path ∧
        (∀ e ∈ after, ¬ Path.SamePath e.1 path) ∧ line ∈ lines) ∧
    (∀ scope ∈ [ofFiles files, ofLines changed],
      (∀ p q, Path.SamePath p q →
        (∀ line, scope.contains p line = scope.contains q line) ∧ scope.coversFile p = scope.coversFile q) ∧
      ∀ p, scope.coversFile p = true ↔ ∃ line, scope.contains p line = true) ∧
    (∀ p, Path.normalize (Path.normalize p) = Path.normalize p) ∧
    ∀ p q, (Path.normalize p = Path.normalize q ↔ Path.SamePath p q) ∧
      (Path.cmp (Path.normalize p) (Path.normalize q) = .eq ↔ Path.SamePath p q) := by
  refine ⟨fun _ _ => contains_ofFiles_iff, fun _ _ => contains_ofLines_iff, fun scope _ => ⟨fun p q h => ?_,
    fun p => coversFile_iff⟩, fun p => Path.normalize_eq_iff.2 (Path.samePath_normalize p),
    fun p q => ⟨Path.normalize_eq_iff, ?_⟩⟩
  · have hcontains : ∀ line, scope.contains p line = scope.contains q line := contains_of_samePath h
    refine ⟨hcontains, Bool.eq_iff_iff.2 ?_⟩
    rw [coversFile_iff, coversFile_iff]
    simp only [hcontains]
  · rw [Path.cmp_eq_eq_iff, Path.components_normalize, Path.components_normalize,
      Path.normalComponents_eq_iff]

end Change.ChangeScope

end Guideline
