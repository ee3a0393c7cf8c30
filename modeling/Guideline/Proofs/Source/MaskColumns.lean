import Guideline.Proofs.Source.BlockMatching
import Guideline.Proofs.Source.MaskTrace

/-!
# Columns of masked code

Masking writes one character for each one it reads, whatever the lines hold. `maskFrom` goes character
by character, but a step decides about several characters at once: both of a comment mark or an escape,
all of a raw string's delimiter. `writeFrom` writes them all before it reads on, so its columns stay in
place only if the line has as many characters as were decided about. `Covers` says that it has, every
step keeps to it (`covers_step`), and so both ways of masking give one result (`writeFrom_eq_maskFrom`).
-/

namespace Guideline.Source

/-- The decisions made ahead are about characters that the rest of the line starts with, and what they
keep is a quote. -/
inductive Covers : List Bool → List Char → Prop
  | nil (rest : List Char) : Covers [] rest
  | blank (c : Char) {ahead : List Bool} {rest : List Char} : Covers ahead rest →
      Covers (false :: ahead) (c :: rest)
  | quote {ahead : List Bool} {rest : List Char} : Covers ahead rest →
      Covers (true :: ahead) ('"' :: rest)

theorem covers_replicate {n : Nat} {rest : List Char} (h : n ≤ rest.length) :
    Covers (List.replicate n false) rest := by
  induction n generalizing rest with
  | zero => exact .nil rest
  | succ n ih =>
    cases rest with
    | nil => simp at h
    | cons c rest =>
      rw [List.length_cons] at h
      exact .blank c (ih (by omega))

theorem covers_rawEnd {delimiter rest : List Char} (h : delimiter ++ ['"'] <+: rest) :
    Covers (List.replicate delimiter.length false ++ [true]) rest := by
  obtain ⟨after, rfl⟩ := h
  induction delimiter with
  | nil => exact .quote (.nil after)
  | cons c delimiter ih => exact .blank c ih

theorem covers_of_head? {c : Char} {rest : List Char} (h : rest.head? = some c) : Covers [false] rest := by
  obtain ⟨rest', rfl⟩ := List.head?_eq_some_iff.1 h
  exact .blank c (.nil rest')

/-- A delimiter and its parenthesis are in the line. -/
theorem length_lt_of_rawDelimiterFrom {read rest delimiter : List Char}
    (h : rawDelimiterFrom read rest = some delimiter) : delimiter.length < read.length + rest.length := by
  induction rest generalizing read with
  | nil => cases h
  | cons c rest ih =>
    rw [rawDelimiterFrom] at h
    rw [List.length_cons]
    split_ifs at h with hopen hstop
    · obtain rfl := Option.some.inj h
      omega
    · have := ih h
      rw [List.length_append, List.length_singleton] at this
      omega

theorem length_lt_of_rawDelimiter? {before rest delimiter : List Char}
    (h : rawDelimiter? before rest = some delimiter) : delimiter.length < rest.length := by
  rw [rawDelimiter?] at h
  split_ifs at h
  have := length_lt_of_rawDelimiterFrom h
  rwa [List.length_nil, Nat.zero_add] at this

namespace Cursor

variable (before : List Char) (c : Char) (rest : List Char)

theorem covers_stepCode (n : Bool) : Covers (stepCode n before c rest).2.ahead rest := by
  rw [stepCode]
  split_ifs with hline hblock
  · exact .nil rest
  · rw [Bool.and_eq_true, beq_iff_eq] at hblock
    exact covers_of_head? hblock.2
  · split
    · rename_i delimiter hdelimiter
      have := length_lt_of_rawDelimiter? hdelimiter
      exact covers_replicate (by omega)
    · exact .nil rest
  · exact .nil rest
  · exact .nil rest
  · exact .nil rest

theorem covers_stepLiteral (r : Region) (quote : Char) (n : Bool) :
    Covers (stepLiteral r quote n c rest).2.ahead rest := by
  rw [stepLiteral]
  split_ifs with hescape hempty
  · exact .nil rest
  · cases rest with
    | nil => exact absurd rfl hempty
    | cons d rest => exact .blank d (.nil rest)
  · exact .nil rest
  · exact .nil rest

/-- A step that nothing was decided for before decides about characters of the line only. -/
theorem covers_step (r : Region) (n : Bool) : Covers (step ⟨r, n, []⟩ before c rest).2.ahead rest := by
  match r with
  | .code => exact covers_stepCode before c rest n
  | .lineComment => exact .nil rest
  | .blockComment =>
    simp only [step]
    split_ifs with hend
    · rw [Bool.and_eq_true, beq_iff_eq] at hend
      exact covers_of_head? hend.2
    · exact .nil rest
  | .string => exact covers_stepLiteral c rest .string '"' n
  | .character => exact covers_stepLiteral c rest .character '\'' n
  | .raw delimiter =>
    simp only [step]
    split_ifs with hend
    · rw [Bool.and_eq_true, Text.startsWith_iff] at hend
      exact covers_rawEnd hend.2
    · exact .nil rest

end Cursor

/-- What is written for decisions without looking at the characters they are about. -/
def written (ahead : List Bool) : List Char :=
  ahead.map fun keep => if keep then '"' else ' '

/-- Masks the rest of a line decision by decision: writes all that a step has decided and goes on behind
as many characters. -/
def writeFrom (region : Region) (inNumber : Bool) (before : List Char) :
    List Char → List Char × Region
  | [] => ([], region)
  | c :: rest =>
    let (keep, next) := Cursor.step ⟨region, inNumber, []⟩ before c rest
    let taken := rest.take next.ahead.length
    let (masked, last) := writeFrom next.region next.inNumber (taken.reverse ++ c :: before)
      (rest.drop next.ahead.length)
    ((if keep then c else ' ') :: written next.ahead ++ masked, last)
termination_by line => line.length
decreasing_by
  simp only [List.length_drop, List.length_cons]
  omega

/-- Masks lines decision by decision. -/
def writeLinesFrom (region : Region) : List (List Char) → List (List Char)
  | [] => []
  | line :: rest =>
    let (masked, last) := writeFrom region false [] line
    masked :: writeLinesFrom (last.nextLine line) rest

/-- Going through decided characters one by one writes what was decided. -/
theorem maskFrom_of_covers {ahead : List Bool} {line : List Char} (h : Covers ahead line) (region : Region)
    (n : Bool) (before : List Char) :
    let after := maskFrom ⟨region, n, []⟩ ((line.take ahead.length).reverse ++ before)
      (line.drop ahead.length)
    maskFrom ⟨region, n, ahead⟩ before line = (written ahead ++ after.1, after.2) := by
  induction h generalizing before with
  | nil line => rfl
  | blank c _ ih =>
    have := ih (c :: before)
    simp only [maskFrom, Cursor.step, this, List.length_cons, List.take_succ_cons, List.drop_succ_cons,
      List.reverse_cons, List.append_assoc, List.singleton_append]
    rfl
  | quote _ ih =>
    have := ih ('"' :: before)
    simp only [maskFrom, Cursor.step, this, List.length_cons, List.take_succ_cons, List.drop_succ_cons,
      List.reverse_cons, List.append_assoc, List.singleton_append]
    rfl

theorem writeFrom_eq_maskFrom (region : Region) (n : Bool) (before line : List Char) :
    writeFrom region n before line = maskFrom ⟨region, n, []⟩ before line := by
  fun_induction writeFrom region n before line with
  | case1 region n before => rfl
  | case2 region n before c rest keep next hstep taken masked last hrest ih =>
    have hcovers := Cursor.covers_step before c rest region n
    rw [hstep] at hcovers
    have hnext := maskFrom_of_covers hcovers next.region next.inNumber (c :: before)
    rw [← ih, hrest] at hnext
    rw [maskFrom, hstep]
    exact congrArg (fun after : List Char × Region => ((if keep then c else ' ') :: after.1, after.2))
      hnext.symm

theorem writeLinesFrom_eq_maskLinesFrom (region : Region) (lines : List (List Char)) :
    writeLinesFrom region lines = maskLinesFrom region lines := by
  induction lines generalizing region with
  | nil => rfl
  | cons line rest ih =>
    rw [writeLinesFrom, writeFrom_eq_maskFrom]
    exact congrArg ((maskLine region line).1 :: ·) (ih (maskLine region line).2)

/-- The character at a column of a line, both counted from zero. -/
def charAt (lines : List (List Char)) (n column : Nat) : Option Char :=
  lines[n]?.bind (·[column]?)

theorem getElem?_maskFrom (cursor : Cursor) (before cs : List Char) (column : Nat) :
    (maskFrom cursor before cs).1[column]? = cs[column]? ∨
      (maskFrom cursor before cs).1[column]? = some ' ' := by
  have hlength := length_maskFrom cursor before cs
  by_cases hlt : column < cs.length
  · have hmem : (cs[column], (maskFrom cursor before cs).1[column]) ∈
        cs.zip (maskFrom cursor before cs).1 :=
      List.mem_iff_getElem?.2 ⟨column, by simp [hlt, hlength]⟩
    rw [List.getElem?_eq_getElem hlt, List.getElem?_eq_getElem (by omega), Option.some.injEq, Option.some.injEq]
    exact eq_or_eq_of_mem_zip hmem
  · left
    rw [List.getElem?_eq_none (by omega), List.getElem?_eq_none (by omega)]

/-- Masking any lines keeps their number and the length of each, and at every column the character or a
blank; and no decision about several characters runs over the end of a line. -/
theorem maskLines_columns (lines : List (List Char)) :
    writeLinesFrom .code lines = maskLines lines ∧
    (maskLines lines).length = lines.length ∧
    (∀ n : Nat, (maskLines lines)[n]?.map List.length = lines[n]?.map List.length) ∧
    ∀ n column, charAt (maskLines lines) n column = charAt lines n column ∨
      charAt (maskLines lines) n column = some ' ' := by
  have hline : ∀ n : Nat, (maskLines lines)[n]? =
      lines[n]?.map fun line => (maskFrom { region := regionAt .code lines n } [] line).1 :=
    getElem?_maskLinesFrom .code lines
  refine ⟨writeLinesFrom_eq_maskLinesFrom .code lines, length_maskLinesFrom .code lines, ?_, ?_⟩
  · intro n
    rw [hline, Option.map_map]
    exact congrArg (lines[n]?.map ·) (funext fun line => length_maskFrom _ [] line)
  · intro n column
    rw [charAt, charAt, hline]
    cases lines[n]? with
    | none => exact .inl rfl
    | some line => exact getElem?_maskFrom _ [] line column

end Guideline.Source
