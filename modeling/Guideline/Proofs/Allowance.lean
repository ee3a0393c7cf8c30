import Guideline.Allowance
import Guideline.Proofs.Source.MaskTrace

/-!
# Where allow comments are found

A line comment starts at two slashes that masking meets in code (`CommentAt`). `lineComment?` does not
see how masking came to a place; it takes the first two slashes with nothing but blanks behind them in
the masked line (`Vanishing`). Slashes in a literal or a block comment that runs to the end of the line
are such a place too, and so are those of a block comment before the line comment: a decoy. The main
result tells the allow comments of a line by its line comment, or by its first decoy if it has one.
-/

namespace Guideline

namespace Source

/-- A line comment with the text `t` starts behind `a`: masking meets its slashes in code. -/
structure CommentAt (region : Region) (line a t : List Char) : Prop where
  line_eq : line = a ++ '/' :: '/' :: t
  in_code : ∃ n, Cursor.after { region } [] a ('/' :: '/' :: t) = ⟨.code, n, []⟩

theorem after_lineComment (n : Bool) (before done rest : List Char) :
    Cursor.after ⟨.lineComment, n, []⟩ before done rest = ⟨.lineComment, n, []⟩ := by
  induction done generalizing before with
  | nil => rfl
  | cons c done ih => exact ih (c :: before)

theorem maskFrom_lineComment (n : Bool) (before line : List Char) :
    (maskFrom ⟨.lineComment, n, []⟩ before line).1 = List.replicate line.length ' ' := by
  induction line generalizing before with
  | nil => rfl
  | cons c line ih => exact congrArg (' ' :: ·) (ih (c :: before))

theorem CommentAt.drop_maskLine {region : Region} {line a t : List Char}
    (h : CommentAt region line a t) :
    (maskLine region line).1.drop a.length = List.replicate (t.length + 2) ' ' := by
  obtain ⟨rfl, n, hcode⟩ := h
  change (maskFrom { region } [] (a ++ '/' :: '/' :: t)).1.drop a.length = _
  rw [Cursor.drop_maskFrom, hcode, List.replicate_succ]
  exact congrArg (' ' :: ·) (maskFrom_lineComment n _ ('/' :: t))

/-- Nothing after the start of a line comment is met in code. -/
theorem CommentAt.length_le {region : Region} {line a b t u : List Char}
    (h : CommentAt region line a t) (h' : CommentAt region line b u) : b.length ≤ a.length := by
  obtain ⟨rfl, n, hcode⟩ := h
  obtain ⟨hline, n', hcode'⟩ := h'
  by_contra hlt
  obtain ⟨a', rfl⟩ : a <+: b := List.prefix_of_prefix_length_le (List.prefix_append a _)
    (hline ▸ List.prefix_append b _) (by omega)
  rw [List.append_assoc, List.append_cancel_left_eq] at hline
  cases a' with
  | nil => simp at hlt
  | cons c a' =>
    rw [List.cons_append] at hline
    obtain ⟨rfl, htail⟩ := List.cons_eq_cons.1 hline
    rw [Cursor.after_append, List.cons_append, ← hline, hcode, Cursor.after, ← htail] at hcode'
    have hregion := (after_lineComment n _ a' ('/' :: '/' :: u)).symm.trans hcode'
    exact absurd (congrArg Cursor.region hregion) (by simp)

theorem CommentAt.text_eq {region : Region} {line a b t u : List Char}
    (h : CommentAt region line a t) (h' : CommentAt region line b u) : t = u := by
  have hlen : a.length = b.length := le_antisymm (h'.length_le h) (h.length_le h')
  have := (List.append_inj (h.line_eq.symm.trans h'.line_eq) hlen).2
  simpa using this

/-- A slash before another one is blanked out. -/
theorem getElem?_maskLine_slashes (region : Region) (a t : List Char) :
    (maskLine region (a ++ '/' :: '/' :: t)).1[a.length]? = some ' ' := by
  have hsound := (Cursor.sound_start region (a ++ '/' :: '/' :: t)).after []
  change (maskFrom { region } [] (a ++ '/' :: '/' :: t)).1[a.length]? = some ' '
  rw [← List.head?_drop, Cursor.drop_maskFrom, maskFrom, List.head?_cons,
    hsound.blanks_slashes (a.reverse ++ [])]
  rfl

end Source

namespace Allowance

open Source

/-- Two slashes behind `a` from which on nothing but blanks is left of a line; `t` is what follows
them. -/
structure Vanishing (raw code a t : List Char) : Prop where
  raw_eq : raw = a ++ '/' :: '/' :: t
  blank : Text.allBlank (code.drop a.length) = true

/-- The first such slashes of a line. -/
structure FirstVanishing (raw code a t : List Char) : Prop extends Vanishing raw code a t where
  first : ∀ b u, Vanishing raw code b u → a.length ≤ b.length

/-- What masking does to slashes that stand together: all but the last are blanked out. -/
def BlanksSlashes (raw code : List Char) : Prop :=
  ∀ a t, raw = a ++ '/' :: '/' :: t → code[a.length]? = some ' '

section

variable {c : Char} {raw code a t : List Char}

theorem BlanksSlashes.tail (h : BlanksSlashes (c :: raw) code) : BlanksSlashes raw (code.drop 1) := by
  intro a t hraw
  rw [List.getElem?_drop, Nat.add_comm]
  exact h (c :: a) t (by rw [hraw, List.cons_append])

theorem vanishing_cons_cons :
    Vanishing (c :: raw) code (c :: a) t ↔ Vanishing raw (code.drop 1) a t := by
  constructor
  · rintro ⟨hraw, hblank⟩
    exact ⟨(List.cons_eq_cons.1 hraw).2, by rwa [List.drop_drop, Nat.add_comm]⟩
  · rintro ⟨hraw, hblank⟩
    exact ⟨by rw [hraw, List.cons_append], by rwa [List.drop_drop, Nat.add_comm] at hblank⟩

/-- Slashes that do not vanish at the start of a line are passed over. -/
theorem firstVanishing_cons (h : ∀ t, ¬ Vanishing (c :: raw) code [] t) :
    FirstVanishing (c :: raw) code a t ↔
      ∃ a', a = c :: a' ∧ FirstVanishing raw (code.drop 1) a' t := by
  constructor
  · rintro ⟨hv, hfirst⟩
    cases a with
    | nil => exact absurd hv (h t)
    | cons d a =>
      obtain ⟨rfl, -⟩ := List.cons_eq_cons.1 hv.raw_eq
      refine ⟨a, rfl, vanishing_cons_cons.1 hv, fun b u hb => ?_⟩
      exact Nat.le_of_succ_le_succ (hfirst (c :: b) u (vanishing_cons_cons.2 hb))
  · rintro ⟨a, rfl, hv, hfirst⟩
    refine ⟨vanishing_cons_cons.2 hv, fun b u hb => ?_⟩
    cases b with
    | nil => exact absurd hb (h u)
    | cons d b =>
      obtain ⟨rfl, -⟩ := List.cons_eq_cons.1 hb.raw_eq
      exact Nat.succ_le_succ (hfirst b u (vanishing_cons_cons.1 hb))

theorem firstVanishing_of_allBlank (h : Text.allBlank code = true) {u : List Char} :
    FirstVanishing ('/' :: '/' :: raw) code a u ↔ a = [] ∧ u = raw := by
  constructor
  · rintro ⟨hv, hfirst⟩
    obtain rfl : a = [] := List.eq_nil_of_length_eq_zero (Nat.le_zero.1 (hfirst [] raw ⟨rfl, h⟩))
    exact ⟨rfl, by simpa using hv.raw_eq.symm⟩
  · rintro ⟨rfl, rfl⟩
    exact ⟨⟨rfl, h⟩, fun b u _ => Nat.zero_le _⟩

/-- Looking for slashes two characters at a time misses none: where the second of three slashes
vanishes, so does the first. -/
theorem lineComment?_eq_some_iff (h : BlanksSlashes raw code) :
    lineComment? raw code = some t ↔ ∃ a, FirstVanishing raw code a t := by
  fun_induction lineComment? raw code with
  | case1 code =>
    refine ⟨nofun, fun ⟨a, hv⟩ => ?_⟩
    simpa using hv.raw_eq
  | case2 raw code hblank =>
    simp only [firstVanishing_of_allBlank hblank, Option.some_inj]
    exact ⟨fun ht => ⟨[], rfl, ht.symm⟩, fun ⟨_, _, ht⟩ => ht.symm⟩
  | case3 raw code hblank ih =>
    have hstart : ∀ t, ¬ Vanishing ('/' :: '/' :: raw) code [] t := fun t hv => hblank hv.blank
    have hnext : ∀ t, ¬ Vanishing ('/' :: raw) (code.drop 1) [] t := by
      intro t hv
      have hhead : code[0]? = some ' ' := h [] raw rfl
      obtain ⟨rest, rfl⟩ := List.head?_eq_some_iff.1 (List.head?_eq_getElem? ▸ hhead)
      exact hblank (by simpa [Text.allBlank, Text.isBlank] using hv.blank)
    rw [ih (by simpa only [List.drop_drop] using h.tail.tail)]
    simp only [firstVanishing_cons hstart, firstVanishing_cons hnext, List.drop_drop]
    constructor
    · rintro ⟨a, hv⟩
      exact ⟨_, _, rfl, _, rfl, hv⟩
    · rintro ⟨_, _, rfl, a, rfl, hv⟩
      exact ⟨a, hv⟩
  | case4 c raw code hne ih =>
    have hstart : ∀ t, ¬ Vanishing (c :: raw) code [] t := by
      intro t hv
      obtain ⟨rfl, rfl⟩ := List.cons_eq_cons.1 hv.raw_eq
      exact hne t rfl rfl
    rw [ih h.tail]
    simp only [firstVanishing_cons hstart]
    constructor
    · rintro ⟨a, hv⟩
      exact ⟨_, _, rfl, hv⟩
    · rintro ⟨_, a, rfl, hv⟩
      exact ⟨a, hv⟩

end

/-- A further slash at the start of a comment does not count. -/
theorem read?_slash (t : List Char) : read? ('/' :: t) = read? t := by
  simp [read?]

/-- Slashes that are taken for a line comment although none starts there or right behind the first of
them. -/
structure Decoy (region : Region) (line a t : List Char) : Prop
    extends Vanishing line (maskLine region line).1 a t where
  apart : ∀ b u, CommentAt region line b u → a.length + 2 ≤ b.length

/-- The first decoy of a line. -/
structure FirstDecoy (region : Region) (line a t : List Char) : Prop extends Decoy region line a t where
  first : ∀ b u, Decoy region line b u → a.length ≤ b.length

section

variable {region : Region} {line a t : List Char}

theorem blanksSlashes_maskLine (region : Region) (line : List Char) :
    BlanksSlashes line (maskLine region line).1 := by
  rintro a t rfl
  exact getElem?_maskLine_slashes region a t

theorem vanishing_of_commentAt (h : CommentAt region line a t) :
    Vanishing line (maskLine region line).1 a t := by
  refine ⟨h.line_eq, ?_⟩
  rw [h.drop_maskLine, Text.allBlank, List.all_replicate]
  rfl

theorem exists_firstVanishing {raw code : List Char} (h : Vanishing raw code a t) :
    ∃ b u, FirstVanishing raw code b u := by
  induction hn : a.length using Nat.strong_induction_on generalizing a t with
  | _ n ih =>
    by_cases hfirst : ∀ b u, Vanishing raw code b u → a.length ≤ b.length
    · exact ⟨a, t, h, hfirst⟩
    · push Not at hfirst
      obtain ⟨b, u, hb, hlt⟩ := hfirst
      exact ih b.length (hn ▸ hlt) hb rfl

/-- A line with a decoy is read from its first decoy on. -/
theorem firstVanishing_iff_firstDecoy {b u : List Char} (hb : Decoy region line b u) :
    FirstVanishing line (maskLine region line).1 a t ↔ FirstDecoy region line a t := by
  constructor
  · rintro ⟨hv, hfirst⟩
    have hle : a.length ≤ b.length := hfirst b u hb.toVanishing
    refine ⟨⟨hv, fun c w hc => ?_⟩, fun c w hc => hfirst c w hc.toVanishing⟩
    have := hb.apart c w hc
    omega
  · rintro ⟨hd, hfirst⟩
    refine ⟨hd.toVanishing, fun c w hc => ?_⟩
    by_contra hlt
    have hdecoy : Decoy region line c w := ⟨hc, fun e x he => by have := hd.apart e x he; omega⟩
    exact hlt (hfirst c w hdecoy)

/-- Vanishing slashes at the start of a line comment, or one character before it, say what the comment
says. -/
theorem read?_eq_of_vanishing {code b u : List Char} (hv : Vanishing line code a t)
    (hc : CommentAt region line b u) (hle : a.length ≤ b.length) (hlt : b.length < a.length + 2) :
    read? t = read? u := by
  have heq := hv.raw_eq.symm.trans hc.line_eq
  obtain ⟨b', rfl⟩ : a <+: b := List.prefix_of_prefix_length_le (List.prefix_append a _)
    (heq ▸ List.prefix_append b _) hle
  rw [List.append_assoc, List.append_cancel_left_eq] at heq
  match b' with
  | [] =>
    obtain rfl : t = u := by simpa using heq
    rfl
  | [c] =>
    obtain ⟨rfl, rfl⟩ : '/' = c ∧ t = '/' :: u := by simpa using heq
    exact read?_slash u
  | _ :: _ :: _ =>
    simp only [List.length_append, List.length_cons] at hlt
    omega

/-- Without decoys a line is read from its line comment on. -/
theorem exists_firstVanishing_iff_of_not_decoy (h : ∀ a t, ¬ Decoy region line a t) (d : Allowance) :
    (∃ a t, FirstVanishing line (maskLine region line).1 a t ∧ read? t = some d) ↔
      ∃ a t, CommentAt region line a t ∧ read? t = some d := by
  have hcomment : ∀ {a t}, FirstVanishing line (maskLine region line).1 a t →
      ∃ b u, CommentAt region line b u ∧ read? t = read? u := by
    intro a t hv
    obtain ⟨b, u, hc, hlt⟩ : ∃ b u, CommentAt region line b u ∧ b.length < a.length + 2 := by
      by_contra hno
      push Not at hno
      exact h a t ⟨hv.toVanishing, hno⟩
    exact ⟨b, u, hc, read?_eq_of_vanishing hv.toVanishing hc
      (hv.first b u (vanishing_of_commentAt hc)) hlt⟩
  constructor
  · rintro ⟨a, t, hv, hread⟩
    obtain ⟨b, u, hc, hsame⟩ := hcomment hv
    exact ⟨b, u, hc, hsame ▸ hread⟩
  · rintro ⟨b, u, hc, hread⟩
    obtain ⟨a, t, hv⟩ := exists_firstVanishing (vanishing_of_commentAt hc)
    obtain ⟨b', u', hc', hsame⟩ := hcomment hv
    exact ⟨a, t, hv, by rw [hsame, ← hc.text_eq hc', hread]⟩

theorem bind_read?_lineComment?_iff (region : Region) (line : List Char) (d : Allowance) :
    (lineComment? line (maskLine region line).1).bind read? = some d ↔
      ∃ a t, FirstVanishing line (maskLine region line).1 a t ∧ read? t = some d := by
  simp only [Option.bind_eq_some_iff, lineComment?_eq_some_iff (blanksSlashes_maskLine region line)]
  constructor
  · rintro ⟨t, ⟨a, hv⟩, hread⟩
    exact ⟨a, t, hv, hread⟩
  · rintro ⟨a, t, hv, hread⟩
    exact ⟨t, ⟨a, hv⟩, hread⟩

end

end Allowance

namespace Allowances

open Source Allowance

theorem mem_entries_scan_parse {content : List Char} {n : Nat} {d : Allowance} :
    (n, d) ∈ (scan (SourceFile.parse content)).entries ↔
      (lineComment? ((SourceFile.parse content).rawLine n)
        ((SourceFile.parse content).codeLine n)).bind read? = some d := by
  simp only [scan, List.mem_filterMap, Option.map_eq_some_iff, Prod.mk.injEq]
  constructor
  · rintro ⟨line, hline, d, hd, rfl, rfl⟩
    obtain ⟨-, -, hraw, hcode⟩ := SourceFile.mem_lines_parse.1 hline
    rwa [hraw, hcode] at hd
  · intro hd
    have hne : (SourceFile.parse content).rawLine n ≠ [] := by
      intro hnil
      rw [hnil] at hd
      cases hd
    obtain ⟨hpos, hle⟩ := SourceFile.le_lineCount_of_rawLine_ne_nil hne
    exact ⟨⟨n, _, _⟩, SourceFile.mem_lines_parse.2 ⟨hpos, hle, rfl, rfl⟩, d, hd, rfl, rfl⟩

/-- The allow comments of a file, line by line. A line with a decoy is taken to say what follows its
first decoy; every other line says what its line comment says. -/
theorem mem_entries_scan_iff (content : List Char) (n : Nat) (d : Allowance) :
    (n, d) ∈ (scan (SourceFile.parse content)).entries ↔
      (∃ a t, FirstDecoy ((SourceFile.parse content).regionAt n)
          ((SourceFile.parse content).rawLine n) a t ∧ read? t = some d) ∨
        (∀ a t, ¬ Decoy ((SourceFile.parse content).regionAt n)
          ((SourceFile.parse content).rawLine n) a t) ∧
        ∃ a t, CommentAt ((SourceFile.parse content).regionAt n)
          ((SourceFile.parse content).rawLine n) a t ∧ read? t = some d := by
  rw [mem_entries_scan_parse, SourceFile.codeLine_parse, bind_read?_lineComment?_iff]
  by_cases hdecoy : ∃ b u, Decoy ((SourceFile.parse content).regionAt n)
    ((SourceFile.parse content).rawLine n) b u
  · obtain ⟨b, u, hb⟩ := hdecoy
    simp only [firstVanishing_iff_firstDecoy hb]
    exact ⟨.inl, fun h => h.resolve_right fun hno => hno.1 b u hb⟩
  · push Not at hdecoy
    rw [exists_firstVanishing_iff_of_not_decoy hdecoy]
    refine ⟨fun h => .inr ⟨hdecoy, h⟩, fun h => (h.resolve_left ?_).2⟩
    rintro ⟨a, t, hfirst, -⟩
    exact hdecoy a t hfirst.toDecoy

/-- A line comment behind an address in a block comment. -/
def addressContent : List Char :=
  "int a; /* see http://x.y */ // guidelint: allow(all)\n".toList

/-- An allow comment's text in a raw string of three lines. -/
def rawStringContent : List Char :=
  "const char* s = R\"(\n// guidelint: allow(all)\n)\";\n".toList

theorem not_commentAt_rawStringContent (a t : List Char) :
    ¬ CommentAt ((SourceFile.parse rawStringContent).regionAt 2)
      ((SourceFile.parse rawStringContent).rawLine 2) a t := by
  have hregion : ∀ i ≤ ((SourceFile.parse rawStringContent).rawLine 2).length,
      (Cursor.after { region := (SourceFile.parse rawStringContent).regionAt 2 } []
        (((SourceFile.parse rawStringContent).rawLine 2).take i)
        (((SourceFile.parse rawStringContent).rawLine 2).drop i)).region ≠ .code := by
    decide
  rintro ⟨hline, n, hcode⟩
  refine hregion a.length (by simp [hline]) ?_
  rw [hline, List.take_left, List.drop_left, hcode]

/-- The comment of the first file is lost, and one is found in the second although no line comment
starts on that line. -/
theorem scan_addressContent_rawStringContent :
    CommentAt ((SourceFile.parse addressContent).regionAt 1)
        ((SourceFile.parse addressContent).rawLine 1) "int a; /* see http://x.y */ ".toList
        " guidelint: allow(all)".toList ∧
      read? " guidelint: allow(all)".toList = some ⟨["all"], none⟩ ∧
      (scan (SourceFile.parse addressContent)).entries = [] ∧
      (∀ a t, ¬ CommentAt ((SourceFile.parse rawStringContent).regionAt 2)
        ((SourceFile.parse rawStringContent).rawLine 2) a t) ∧
      (scan (SourceFile.parse rawStringContent)).entries = [(2, ⟨["all"], none⟩)] := by
  refine ⟨⟨by decide, false, by decide⟩, by decide, by decide, not_commentAt_rawStringContent, ?_⟩
  decide

end Allowances

end Guideline
