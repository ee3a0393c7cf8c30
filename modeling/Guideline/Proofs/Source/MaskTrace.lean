import Guideline.Proofs.Source.LexemeMask
import Guideline.Source.File
import Mathlib.Data.List.Chain

/-!
# The course of masking

`Cursor.after` is the cursor behind the first characters of a line and `regionAt` the region that a
line starts in, so that what masking does at a place can be told. `Cursor.Sound` says what decisions
made ahead may be about; it holds all along a line.

Two consequences are used elsewhere: a slash before another one is never kept (`Sound.blanks_slashes`),
and identifier characters that stand side by side are kept or blanked out together
(`Sound.keeps_iff`), so that a word of the masked line is a word of the line (`wordAt_of_maskLine`).
-/

namespace Guideline.Source

namespace Cursor

/-- The cursor behind the characters `done` of a line, of which `rest` is still to come; `before` is
what is before them, last character first. -/
def after (cursor : Cursor) (before : List Char) : (done rest : List Char) → Cursor
  | [], _ => cursor
  | c :: done, rest => (cursor.step before c (done ++ rest)).2.after (c :: before) done rest

theorem after_append (cursor : Cursor) (before done done' rest : List Char) :
    cursor.after before (done ++ done') rest =
      (cursor.after before done (done' ++ rest)).after (done.reverse ++ before) done' rest := by
  induction done generalizing cursor before with
  | nil => rfl
  | cons c done ih =>
    rw [List.cons_append, after, after, ih, List.append_assoc, List.reverse_cons, List.append_assoc]
    rfl

theorem drop_maskFrom (cursor : Cursor) (before done rest : List Char) :
    (maskFrom cursor before (done ++ rest)).1.drop done.length =
      (maskFrom (cursor.after before done rest) (done.reverse ++ before) rest).1 := by
  induction done generalizing cursor before with
  | nil => rfl
  | cons c done ih =>
    rw [List.cons_append, maskFrom, List.length_cons, List.drop_succ_cons, ih, after, List.reverse_cons,
      List.append_assoc]
    rfl

/-- What the decisions made ahead are about: characters of a comment or literal to blank out, or, once
masking is back in code, the slash of a block comment's end or the end of a raw string. -/
inductive Sound : Cursor → List Char → Prop
  | code (n : Bool) (rest : List Char) : Sound ⟨.code, n, []⟩ rest
  | commentEnd (n : Bool) {rest : List Char} (h : rest.head? = some '/') :
      Sound ⟨.code, n, [false]⟩ rest
  | rawEnd (n : Bool) {d rest : List Char} (h : d ++ ['"'] <+: rest) :
      Sound ⟨.code, n, List.replicate d.length false ++ [true]⟩ rest
  | inside {r : Region} (n : Bool) {ahead : List Bool} (rest : List Char) (hr : r ≠ .code)
      (ha : ∀ keep ∈ ahead, keep = false) : Sound ⟨r, n, ahead⟩ rest

theorem sound_start (region : Region) (rest : List Char) : Sound { region } rest := by
  by_cases h : region = .code
  · subst h
    exact .code false rest
  · exact .inside false rest h (by simp)

section

variable {cursor : Cursor} {c : Char} {rest : List Char} (before : List Char)

theorem sound_stepCode (n : Bool) : Sound (stepCode n before c rest).2 rest := by
  rw [stepCode]
  split_ifs
  · exact .inside n rest (by simp) (by simp)
  · exact .inside n rest (by simp) (by simp)
  · split
    · exact .inside n rest (by simp) fun keep hk => (List.mem_replicate.1 hk).2
    · exact .inside false rest (by simp) (by simp)
  · exact .code n rest
  · exact .inside false rest (by simp) (by simp)
  · exact .code _ rest

theorem sound_stepLiteral {r : Region} (hr : r ≠ .code) (quote : Char) (n : Bool) :
    Sound (stepLiteral r quote n c rest).2 rest := by
  rw [stepLiteral]
  split_ifs
  · exact .inside n rest hr (by simp)
  · exact .inside n rest hr (by simp)
  · exact .code n rest
  · exact .inside n rest hr (by simp)

theorem sound_step_nil {r : Region} (hr : r ≠ .code) (n : Bool) :
    Sound (step ⟨r, n, []⟩ before c rest).2 rest := by
  match r with
  | .code => exact absurd rfl hr
  | .lineComment => exact .inside n rest hr (by simp)
  | .blockComment =>
    simp only [step]
    split_ifs with h
    · exact .commentEnd n (by simp_all)
    · exact .inside n rest hr (by simp)
  | .string => exact sound_stepLiteral hr _ n
  | .character => exact sound_stepLiteral hr _ n
  | .raw d =>
    simp only [step]
    split_ifs with h
    · rw [Bool.and_eq_true, Text.startsWith_iff] at h
      exact .rawEnd n h.2
    · exact .inside n rest hr (by simp)

theorem Sound.step (h : cursor.Sound (c :: rest)) : Sound (cursor.step before c rest).2 rest := by
  cases h with
  | code n => exact sound_stepCode before n
  | commentEnd n => exact .code n rest
  | @rawEnd n d _ h =>
    cases d with
    | nil => exact .code n rest
    | cons x d => exact .rawEnd n (List.cons_prefix_cons.1 h).2
  | @inside r n ahead _ hr ha =>
    cases ahead with
    | nil => exact sound_step_nil before hr n
    | cons keep ahead => exact .inside n rest hr fun k hk => ha k (by simp [hk])

theorem Sound.after {done : List Char} (h : cursor.Sound (done ++ rest)) :
    Sound (cursor.after before done rest) rest := by
  induction done generalizing cursor before with
  | nil => exact h
  | cons c done ih => exact ih (c :: before) (h.step before)

/-- A slash before another one is blanked out: it starts a comment, or is in one or in a literal. -/
theorem Sound.blanks_slashes (h : cursor.Sound ('/' :: '/' :: rest)) :
    (cursor.step before '/' ('/' :: rest)).1 = false := by
  cases h with
  | code n => rfl
  | commentEnd n => rfl
  | @rawEnd n d _ h =>
    cases d with
    | nil => exact absurd (List.cons_prefix_cons.1 h).1 (by decide)
    | cons x d => rfl
  | @inside r n ahead _ hr ha =>
    cases ahead with
    | nil => cases r <;> simp_all [Cursor.step, stepLiteral]
    | cons keep ahead => exact ha keep (by simp)

theorem step_ident (hc : isIdentChar c = true) (n : Bool) :
    ∃ n', step ⟨.code, n, []⟩ before c rest = (true, ⟨.code, n', []⟩) :=
  ⟨_, stepCode_plain (isIdentChar_ne hc (by decide)) (isIdentChar_ne hc (by decide))
    (isIdentChar_ne hc (by decide)) n before rest⟩

theorem ne_of_isIdentChar (hc : isIdentChar c = true) :
    c ≠ '/' ∧ c ≠ '"' ∧ c ≠ '\'' ∧ c ≠ '\\' ∧ c ≠ '*' ∧ c ≠ ')' :=
  ⟨isIdentChar_ne hc (by decide), isIdentChar_ne hc (by decide), isIdentChar_ne hc (by decide),
    isIdentChar_ne hc (by decide), isIdentChar_ne hc (by decide), isIdentChar_ne hc (by decide)⟩

/-- An identifier character in a comment or literal is blanked out and does not lead out of it. -/
theorem step_inside {r : Region} {n : Bool} {ahead : List Bool} (hr : r ≠ .code)
    (ha : ∀ keep ∈ ahead, keep = false) (hc : isIdentChar c = true) :
    (step ⟨r, n, ahead⟩ before c rest).1 = false ∧
      (step ⟨r, n, ahead⟩ before c rest).2.region ≠ .code := by
  obtain ⟨-, hq, hs, hb, ht, hp⟩ := ne_of_isIdentChar hc
  cases ahead with
  | nil => cases r <;> simp_all [Cursor.step, stepLiteral]
  | cons keep ahead => exact ⟨ha keep (by simp), hr⟩

/-- Identifier characters are kept in code only. -/
theorem Sound.keeps_ident_iff (h : cursor.Sound (c :: rest)) (hc : isIdentChar c = true) :
    (cursor.step before c rest).1 = true ↔ ∃ n, cursor = ⟨.code, n, []⟩ := by
  constructor
  · intro hkeep
    cases h with
    | code n => exact ⟨n, rfl⟩
    | commentEnd n => cases hkeep
    | @rawEnd n d _ h =>
      cases d with
      | nil => exact absurd (List.cons_prefix_cons.1 h).1.symm (ne_of_isIdentChar hc).2.1
      | cons x d => cases hkeep
    | @inside r n ahead _ hr ha =>
      rw [(step_inside before hr ha hc).1] at hkeep
      cases hkeep
  · rintro ⟨n, rfl⟩
    obtain ⟨n', hs⟩ := step_ident before hc n
    rw [hs]

/-- An identifier character behind which masking goes on in code was kept. -/
theorem Sound.keeps_of_next (h : cursor.Sound (c :: rest)) (hc : isIdentChar c = true) {n : Bool}
    (hnext : (cursor.step before c rest).2 = ⟨.code, n, []⟩) :
    (cursor.step before c rest).1 = true := by
  cases h with
  | code n =>
    obtain ⟨n', hs⟩ := step_ident before hc n
    rw [hs]
  | commentEnd n h => exact absurd (Option.some.inj h) (ne_of_isIdentChar hc).1
  | @rawEnd n d _ h =>
    cases d with
    | nil => exact absurd (List.cons_prefix_cons.1 h).1.symm (ne_of_isIdentChar hc).2.1
    | cons x d =>
      have hahead := congrArg Cursor.ahead hnext
      simp [Cursor.step, List.replicate_succ] at hahead
  | inside n _ hr ha => exact absurd (congrArg Cursor.region hnext) (step_inside before hr ha hc).2

/-- Of two identifier characters side by side both are kept or none. -/
theorem Sound.keeps_iff {d : Char} (h : cursor.Sound (c :: d :: rest)) (hc : isIdentChar c = true)
    (hd : isIdentChar d = true) : (cursor.step before c (d :: rest)).1 = true ↔
      ((cursor.step before c (d :: rest)).2.step (c :: before) d rest).1 = true := by
  rw [(h.step before).keeps_ident_iff (c :: before) hd]
  constructor
  · intro hkeep
    obtain ⟨n, rfl⟩ := (h.keeps_ident_iff before hc).1 hkeep
    obtain ⟨n', hs⟩ := step_ident before hc n
    exact ⟨n', by rw [hs]⟩
  · rintro ⟨n, hnext⟩
    exact h.keeps_of_next before hc hnext

end

end Cursor

/-- No word runs on from the end of `a` or into the start of `b`. -/
def Delimits (a b : List Char) : Prop :=
  (∀ c ∈ a.getLast?, isIdentChar c = false) ∧ ∀ c ∈ b.head?, isIdentChar c = false

/-- The text `w` stands at a column of a line, with no identifier character right before or after it. -/
def WordAt (line : List Char) (column : Nat) (w : List Char) : Prop :=
  ∃ a b, line = a ++ w ++ b ∧ a.length = column ∧ Delimits a b

/-- Two characters with what masking made of them: if both are identifier characters, both are kept or
none. -/
def SameFate (p q : Char × Char) : Prop :=
  isIdentChar p.1 = true → isIdentChar q.1 = true → (p.2 = p.1 ↔ q.2 = q.1)

theorem length_maskFrom (cursor : Cursor) (before line : List Char) :
    (maskFrom cursor before line).1.length = line.length := by
  induction line generalizing cursor before with
  | nil => rfl
  | cons c rest ih => rw [maskFrom, List.length_cons, List.length_cons, ih]

theorem masked_eq_iff {c : Char} (hc : isIdentChar c = true) (keep : Bool) :
    (if keep then c else ' ') = c ↔ keep = true := by
  have hblank : c ≠ ' ' := isIdentChar_ne hc (by decide)
  cases keep
  · exact ⟨fun h => absurd h.symm hblank, nofun⟩
  · exact ⟨fun _ => rfl, fun _ => rfl⟩

theorem isChain_sameFate {cursor : Cursor} {line : List Char} (h : cursor.Sound line)
    (before : List Char) : (line.zip (maskFrom cursor before line).1).IsChain SameFate := by
  induction line generalizing cursor before with
  | nil => exact .nil
  | cons c rest ih =>
    rw [maskFrom, List.zip_cons_cons]
    refine (ih (h.step before) (c :: before)).cons fun p hp => ?_
    cases rest with
    | nil => cases hp
    | cons d rest =>
      rw [maskFrom, List.zip_cons_cons, List.head?_cons, Option.mem_some_iff] at hp
      subst hp
      intro hc hd
      rw [masked_eq_iff hc, masked_eq_iff hd]
      exact h.keeps_iff before hc hd

theorem eq_or_eq_of_mem_zip {cursor : Cursor} {before line : List Char} {p : Char × Char}
    (hp : p ∈ line.zip (maskFrom cursor before line).1) : p.2 = p.1 ∨ p.2 = ' ' := by
  induction line generalizing cursor before with
  | nil => cases hp
  | cons c rest ih =>
    rw [maskFrom, List.zip_cons_cons] at hp
    rcases List.mem_cons.1 hp with rfl | hp
    · cases (cursor.step before c rest).1
      · exact .inr rfl
      · exact .inl rfl
    · exact ih hp

theorem SameFate.isIdentChar_eq_false {p q : Char × Char} (h : SameFate p q) (hq : q.2 = q.1)
    (hident : isIdentChar q.1 = true) (hp : isIdentChar p.2 = false) : isIdentChar p.1 = false := by
  by_contra hc
  rw [Bool.not_eq_false] at hc
  have hkept : p.2 = p.1 := (h hc hident).2 hq
  rw [hkept, hc] at hp
  cases hp

theorem SameFate.symm {p q : Char × Char} (h : SameFate p q) : SameFate q p :=
  fun hq hp => (h hp hq).symm

theorem wordAt_fst_of_snd {z : List (Char × Char)} {w : List Char} {column : Nat}
    (hfate : z.IsChain SameFate) (hkept : ∀ p ∈ z, p.2 = p.1 ∨ p.2 = ' ')
    (h : WordAt (z.map Prod.snd) column w) (hne : w ≠ []) (hw : ∀ c ∈ w, isIdentChar c = true) :
    WordAt (z.map Prod.fst) column w := by
  obtain ⟨a, b, hz, rfl, ha, hb⟩ := h
  obtain ⟨z', zb, rfl, hz', rfl⟩ := List.map_eq_append_iff.1 hz
  obtain ⟨za, zw, rfl, rfl, rfl⟩ := List.map_eq_append_iff.1 hz'
  have hsame : ∀ p ∈ zw, p.2 = p.1 ∧ isIdentChar p.1 = true := by
    intro p hp
    have hident : isIdentChar p.2 = true := hw _ (List.mem_map_of_mem hp)
    rcases hkept p (by simp [hp]) with hpe | hpe
    · exact ⟨hpe, hpe ▸ hident⟩
    · exact absurd hpe (isIdentChar_ne hident (by decide))
  obtain ⟨hfate, -, hright⟩ := List.isChain_append.1 hfate
  obtain ⟨-, -, hleft⟩ := List.isChain_append.1 hfate
  have hzw : zw ≠ [] := by
    rintro rfl
    exact hne rfl
  refine ⟨za.map Prod.fst, zb.map Prod.fst, ?_, by simp, ?_, ?_⟩
  · rw [List.map_append, List.map_append,
      List.map_congr_left (g := Prod.snd) fun p hp => (hsame p hp).1.symm]
  · intro c hc
    rw [List.getLast?_map] at hc ha
    obtain ⟨p, hp, rfl⟩ := Option.map_eq_some_iff.1 hc
    obtain ⟨q, hq⟩ := Option.isSome_iff_exists.1 (List.isSome_head?.2 hzw)
    obtain ⟨hqe, hqi⟩ := hsame q (List.mem_of_mem_head? hq)
    exact (hleft p hp q hq).isIdentChar_eq_false hqe hqi (ha p.2 (by simp [hp]))
  · intro c hc
    rw [List.head?_map] at hc hb
    obtain ⟨p, hp, rfl⟩ := Option.map_eq_some_iff.1 hc
    obtain ⟨q, hq⟩ := Option.isSome_iff_exists.1 (List.getLast?_isSome.2 hzw)
    obtain ⟨hqe, hqi⟩ := hsame q (List.mem_of_mem_getLast? hq)
    exact (hright q (by simp [List.getLast?_append, hq]) p hp).symm.isIdentChar_eq_false hqe hqi
      (hb p.2 (by simp [hp]))

/-- A word of the masked line is a word of the line. -/
theorem wordAt_of_maskLine {region : Region} {line w : List Char} {column : Nat}
    (h : WordAt (maskLine region line).1 column w) (hne : w ≠ [])
    (hw : ∀ c ∈ w, isIdentChar c = true) : WordAt line column w := by
  have hlen := length_maskFrom { region } [] line
  have hword : WordAt ((line.zip (maskFrom { region } [] line).1).map Prod.snd) column w := by
    rw [List.map_snd_zip hlen.le]
    exact h
  have := wordAt_fst_of_snd (isChain_sameFate (Cursor.sound_start region line) [])
    (fun _ => eq_or_eq_of_mem_zip) hword hne hw
  rwa [List.map_fst_zip hlen.ge] at this

/-- The region that a line starts in, counting lines from zero. -/
def regionAt (region : Region) : List (List Char) → Nat → Region
  | line :: rest, n + 1 => regionAt (maskLine region line).2 rest n
  | _, _ => region

theorem getElem?_maskLinesFrom (region : Region) (lines : List (List Char)) (n : Nat) :
    (maskLinesFrom region lines)[n]? =
      lines[n]?.map fun line => (maskLine (regionAt region lines n) line).1 := by
  induction lines generalizing region n with
  | nil => rfl
  | cons line rest ih =>
    cases n with
    | zero => rfl
    | succ n => exact ih _ n

/-- Masking lines goes on where it left off. -/
theorem maskLinesFrom_append (region : Region) (ls ls' : List (List Char)) :
    maskLinesFrom region (ls ++ ls') =
      maskLinesFrom region ls ++ maskLinesFrom (regionAt region ls ls.length) ls' := by
  induction ls generalizing region with
  | nil => cases ls' <;> rfl
  | cons l ls ih => exact congrArg ((maskLine region l).1 :: ·) (ih (maskLine region l).2)

end Guideline.Source

namespace Guideline.SourceFile

open Source

/-- The region that a line starts in. -/
def regionAt (f : SourceFile) (line : Nat) : Region :=
  Source.regionAt .code f.raw (line - 1)

theorem getElem?_code_parse (content : List Char) (n : Nat) : (parse content).code[n]? =
    (parse content).raw[n]?.map fun line => (maskLine ((parse content).regionAt (n + 1)) line).1 :=
  getElem?_maskLinesFrom .code (Text.lines content) n

theorem codeLine_parse (content : List Char) (n : Nat) : (parse content).codeLine n =
    (maskLine ((parse content).regionAt n) ((parse content).rawLine n)).1 := by
  cases n with
  | zero => rfl
  | succ n =>
    change (parse content).code[n]?.getD [] = (maskLine _ ((parse content).raw[n]?.getD [])).1
    rw [getElem?_code_parse]
    cases (parse content).raw[n]? <;> rfl

theorem le_lineCount_of_rawLine_ne_nil {f : SourceFile} {n : Nat} (h : f.rawLine n ≠ []) :
    1 ≤ n ∧ n ≤ f.lineCount := by
  cases n with
  | zero => exact absurd rfl h
  | succ n =>
    refine ⟨Nat.succ_pos n, ?_⟩
    by_contra hlt
    have hnone : f.raw[n]? = none := List.getElem?_eq_none (Nat.le_of_not_lt hlt)
    exact h (by simp [rawLine, atLine, hnone])

theorem mem_lines_parse {content : List Char} {line : Line} : line ∈ (parse content).lines ↔
    1 ≤ line.number ∧ line.number ≤ (parse content).lineCount ∧
      line.raw = (parse content).rawLine line.number ∧
      line.code = (parse content).codeLine line.number := by
  obtain ⟨number, raw, code⟩ := line
  simp only [lines, List.mem_map, Prod.exists, List.mem_zipIdx_iff_getElem?, List.getElem?_zip_eq_some]
  constructor
  · rintro ⟨r, c, i, ⟨hr, hc⟩, h⟩
    obtain ⟨rfl, rfl, rfl⟩ := Line.mk.inj h
    obtain ⟨hlt, -⟩ := List.getElem?_eq_some_iff.1 hr
    refine ⟨Nat.succ_pos i, hlt, ?_, ?_⟩
    · simp [rawLine, atLine, hr]
    · simp [codeLine, atLine, hc]
  · rintro ⟨hpos, hle, rfl, rfl⟩
    obtain ⟨i, rfl⟩ := Nat.exists_eq_succ_of_ne_zero (Nat.ne_of_gt hpos)
    have hr := List.getElem?_eq_getElem hle
    have hc := getElem?_code_parse content i
    rw [hr, Option.map_some] at hc
    refine ⟨_, _, i, ⟨hr, hc⟩, ?_⟩
    simp [rawLine, codeLine, atLine, hr, hc]

end Guideline.SourceFile
