import Guideline.Proofs.Allowance
import Guideline.Proofs.Source.CodeStart
import Guideline.Proofs.Text.Split
import Guideline.Proofs.Text.Trim
import Guideline.Rule.Id

/-!
# Allow comments as they are written

A line may end in an allow comment behind any code that it starts with (`WrittenAllowance`). Its comment
is found at its slashes, whatever the literals before it hold (`lineComment?_line`), and read as it is
meant: the names without the white space around them, and the reason up to its quote (`read?_comment`).
So a rule is allowed on a line if and only if the comment on the line or the one above lists it
(`check?_written`).
-/

namespace Guideline

/-- A rule identifier in the parentheses of an allow comment, with the white space around it. -/
structure WrittenName where
  before : List Char
  id : String
  after : List Char
deriving DecidableEq, Repr

namespace WrittenName

def text (x : WrittenName) : List Char :=
  x.before ++ (x.id.toList ++ x.after)

@[mk_iff]
structure WellFormed (x : WrittenName) : Prop where
  before : Text.allBlank x.before = true
  /-- The name that stands for every rule passes too. -/
  id : checkRuleId x.id = .ok ()
  after : Text.allBlank x.after = true

instance (x : WrittenName) : Decidable x.WellFormed :=
  decidable_of_iff _ x.wellFormed_iff.symm

end WrittenName

/-- The reason of an allow comment, with the white space before it. -/
structure WrittenReason where
  before : List Char
  text : List Char
deriving DecidableEq, Repr

/-- The reason in quotes. -/
def WrittenReason.quoted (r : WrittenReason) : List Char :=
  "reason=".toList ++ ('"' :: (r.text ++ ['"']))

structure WrittenReason.WellFormed (r : WrittenReason) : Prop where
  before : Text.allBlank r.before = true
  text : '"' ∉ r.text

/-- A line with an allow comment behind some code. -/
structure WrittenAllowance where
  code : List Char
  names : List WrittenName
  reason : Option WrittenReason
  /-- The white space at the end of the line. -/
  blanks : List Char
deriving DecidableEq, Repr

namespace WrittenAllowance

open Allowance

/-- What is in the parentheses. -/
def list (w : WrittenAllowance) : List Char :=
  [','].intercalate (w.names.map WrittenName.text)

/-- What follows the parentheses. -/
def because (w : WrittenAllowance) : List Char :=
  match w.reason with
  | none => []
  | some r => r.before ++ r.quoted

/-- What follows the slashes of the comment. -/
def comment (w : WrittenAllowance) : List Char :=
  " guidelint: allow(".toList ++ (w.list ++ ')' :: (w.because ++ w.blanks))

def line (w : WrittenAllowance) : List Char :=
  w.code ++ '/' :: '/' :: w.comment

/-- What the comment says. -/
def allowance (w : WrittenAllowance) : Allowance where
  rules := w.names.map WrittenName.id
  reason := w.reason.map fun r => String.ofList r.text

structure WellFormed (w : WrittenAllowance) : Prop where
  code : ∃ n, Source.CodeStart w.code n
  code_last : w.code.getLast? ≠ some '/'
  names_ne_nil : w.names ≠ []
  names : ∀ x ∈ w.names, x.WellFormed
  reason : ∀ r ∈ w.reason, r.WellFormed
  blanks : Text.allBlank w.blanks = true

end WrittenAllowance

/-! ### Reading the comment -/

theorem not_isBlank_of_isRuleIdChar {c : Char} (h : isRuleIdChar c = true) : Text.isBlank c = false := by
  have hrange : 45 ≤ c.toNat ∧ c.toNat ≤ 122 := by
    rw [isRuleIdChar, Bool.or_eq_true, Bool.or_eq_true, Bool.or_eq_true, beq_iff_eq, beq_iff_eq] at h
    rcases h with ((hlower | hdigit) | rfl) | rfl
    · obtain ⟨hge, hle⟩ := Bool.and_eq_true_iff.1 hlower
      have hge : 97 ≤ c.toNat := of_decide_eq_true hge
      have hle : c.toNat ≤ 122 := of_decide_eq_true hle
      omega
    · obtain ⟨hge, hle⟩ := Bool.and_eq_true_iff.1 hdigit
      have hge : 48 ≤ c.toNat := of_decide_eq_true hge
      have hle : c.toNat ≤ 57 := of_decide_eq_true hle
      omega
    · decide
    · decide
  simp only [Text.isBlank]
  grind

namespace WrittenName.WellFormed

variable {x : WrittenName}

theorem id_ne_nil (h : x.WellFormed) : x.id.toList ≠ [] := by
  intro hnil
  have hid := h.id
  rw [checkRuleId, if_pos (by simpa using hnil)] at hid
  cases hid

theorem isRuleIdChar_of_mem (h : x.WellFormed) {c : Char} (hc : c ∈ x.id.toList) :
    isRuleIdChar c = true := by
  have hid := h.id
  rw [checkRuleId] at hid
  split_ifs at hid with _ hall
  exact List.all_eq_true.1 hall c hc

theorem isTrimmed (h : x.WellFormed) : Text.IsTrimmed x.id.toList :=
  .of_forall fun _ hc => not_isBlank_of_isRuleIdChar (h.isRuleIdChar_of_mem hc)

/-- A name holds no character that ends it or the list. -/
theorem notMem_text (h : x.WellFormed) {c : Char} (hblank : Text.isBlank c = false)
    (hid : isRuleIdChar c = false) : c ∉ x.text := by
  intro hc
  rw [text, List.mem_append, List.mem_append] at hc
  rcases hc with hc | hc | hc
  · rw [List.all_eq_true.1 h.before c hc] at hblank
    cases hblank
  · rw [h.isRuleIdChar_of_mem hc] at hid
    cases hid
  · rw [List.all_eq_true.1 h.after c hc] at hblank
    cases hblank

end WrittenName.WellFormed

theorem WrittenReason.isTrimmed_quoted (r : WrittenReason) : Text.IsTrimmed r.quoted := by
  have hstart : Text.IsTrimmed "reason=".toList := .of_all (by decide)
  have hquote : Text.IsTrimmed ['"'] := .of_all (by decide)
  exact hstart.enclose (by decide) hquote (List.cons_ne_nil _ _) ('"' :: r.text)

namespace Allowance

/-- The reason in quotes is read as it stands. -/
theorem reason?_quoted {r : WrittenReason} (h : r.WellFormed) :
    reason? r.quoted = some (String.ofList r.text) := by
  have hafter : Text.after? "reason=".toList r.quoted = some ('"' :: (r.text ++ ['"'])) :=
    Text.after?_append _ _
  have htrimmed : Text.IsTrimmed ('"' :: (r.text ++ ['"'])) :=
    have hquote : Text.IsTrimmed ['"'] := .of_all (by decide)
    hquote.enclose (by simp) hquote (by simp) r.text
  have htrim : Text.trim ('"' :: (r.text ++ ['"'])) = '"' :: (r.text ++ ['"']) :=
    htrimmed.trim_append (a := []) rfl
  have hopen : Text.after? ['"'] ('"' :: (r.text ++ ['"'])) = some (r.text ++ ['"']) :=
    Text.after?_append ['"'] _
  rw [reason?, hafter]
  simp only [Option.bind_eq_bind, Option.bind_some, htrim, hopen, List.contains_append, List.contains_cons,
    BEq.rfl, Bool.true_or, Bool.or_true, if_true, Text.takeWhile_ne h.text]

/-- The parts that a comment is read by. -/
theorem read?_eq_some {comment directive inside list rest : List Char} {ids : List String}
    (hcomment : Text.trim (comment.dropWhile fun c => c = '/' || c = '!') =
      "guidelint:".toList ++ directive)
    (hdirective : Text.trim directive = "allow(".toList ++ inside)
    (hinside : Text.trim inside = list ++ ')' :: rest) (hlist : ')' ∉ list)
    (hids : (((Text.splitAtChar ',' list).map Text.trim).filter fun name => !name.isEmpty) =
      ids.map String.toList) (hne : ids ≠ []) :
    read? comment = some ⟨ids, reason? (Text.trim rest)⟩ := by
  have hcontains : (list ++ ')' :: rest).contains ')' = true := by simp
  have hrules : (ids.map String.toList).map String.ofList = ids := by simp
  rw [read?]
  simp only [hcomment, hdirective, hinside, Text.after?_append, Option.bind_eq_bind,
    Option.bind_some, hcontains, Text.takeWhile_ne hlist, Text.dropWhile_ne hlist, hids, hrules,
    List.isEmpty_eq_false_iff.2 hne, Bool.not_true, Bool.false_eq_true, if_false, List.drop_succ_cons,
    List.drop_zero]

end Allowance

namespace WrittenAllowance

open Allowance

variable {w : WrittenAllowance}

/-- The parenthesis that closes the list, with the reason. -/
def closing (w : WrittenAllowance) : List Char :=
  ')' :: w.because

theorem isTrimmed_closing (w : WrittenAllowance) : Text.IsTrimmed w.closing := by
  have hclose : Text.IsTrimmed [')'] := .of_all (by decide)
  rw [closing, because]
  cases w.reason with
  | none => exact hclose
  | some r =>
    have hne : r.quoted ≠ [] := List.append_ne_nil_of_right_ne_nil _ (List.cons_ne_nil _ _)
    exact hclose.enclose (List.cons_ne_nil _ _) r.isTrimmed_quoted hne r.before

theorem reason?_because (h : w.WellFormed) :
    reason? (Text.trim w.because) = w.allowance.reason := by
  rw [because, allowance]
  cases hreason : w.reason with
  | none => rfl
  | some r =>
    have hr : r.WellFormed := h.reason r hreason
    have htrim : Text.trim (r.before ++ r.quoted) = r.quoted := r.isTrimmed_quoted.trim_append hr.before
    exact htrim ▸ reason?_quoted hr

theorem trim_comment (h : w.WellFormed) :
    Text.trim (w.comment.dropWhile fun c => c = '/' || c = '!') =
      "guidelint:".toList ++ (" allow(".toList ++ (w.list ++ w.closing)) := by
  have hmark : " guidelint: allow(".toList = ' ' :: ("guidelint:".toList ++ " allow(".toList) := by decide
  have hcomment : w.comment = [' '] ++
      ("guidelint:".toList ++ (" allow(".toList ++ w.list ++ w.closing) ++ w.blanks) := by
    unfold comment closing
    rewrite [hmark]
    -- Left as literals, the marks would be spelled out.
    generalize "guidelint:".toList = mark
    generalize " allow(".toList = mark'
    simp
  have hstart : Text.IsTrimmed "guidelint:".toList := .of_all (by decide)
  have htrimmed := hstart.enclose (by decide) w.isTrimmed_closing (List.cons_ne_nil _ _)
    (" allow(".toList ++ w.list)
  have hdrop : w.comment.dropWhile (fun c => c = '/' || c = '!') = w.comment := by
    rw [hcomment]
    exact List.dropWhile_cons_of_neg (by decide)
  rw [hdrop, hcomment, htrimmed.trim_eq (by decide) h.blanks, List.append_assoc]

theorem trim_directive (w : WrittenAllowance) : Text.trim (" allow(".toList ++ (w.list ++ w.closing)) =
    "allow(".toList ++ (w.list ++ w.closing) := by
  have hmark : " allow(".toList = [' '] ++ "allow(".toList := by decide
  have hstart : Text.IsTrimmed "allow(".toList := .of_all (by decide)
  have htrimmed := hstart.enclose (by decide) w.isTrimmed_closing (List.cons_ne_nil _ _) w.list
  rw [hmark, List.append_assoc, htrimmed.trim_append (by decide)]

/-! ### The names -/

/-- The list without the white space before its first name, in pieces. -/
def pieces (x : WrittenName) (xs : List WrittenName) : List (List Char) :=
  (x.id.toList ++ x.after) :: xs.map WrittenName.text

section

variable {x : WrittenName} {xs : List WrittenName}

theorem notMem_of_mem_pieces (h : ∀ y ∈ x :: xs, y.WellFormed) {c : Char} (hblank : Text.isBlank c = false)
    (hid : isRuleIdChar c = false) {piece : List Char} (hpiece : piece ∈ pieces x xs) : c ∉ piece := by
  have hnotMem : ∀ y ∈ x :: xs, c ∉ y.text := fun y hy => (h y hy).notMem_text hblank hid
  rw [pieces, List.mem_cons, List.mem_map] at hpiece
  rcases hpiece with rfl | ⟨y, hy, rfl⟩
  · exact fun hc => hnotMem x List.mem_cons_self (List.mem_append_right _ hc)
  · exact hnotMem y (List.mem_cons_of_mem x hy)

theorem notMem_intercalate_pieces (h : ∀ y ∈ x :: xs, y.WellFormed) :
    ')' ∉ [','].intercalate (pieces x xs) :=
  Text.notMem_intercalate (by decide) fun _ => notMem_of_mem_pieces h (by decide) (by decide)

theorem map_trim_pieces (h : ∀ y ∈ x :: xs, y.WellFormed) :
    (pieces x xs).map Text.trim = (x :: xs).map fun y => y.id.toList := by
  have htext : ∀ y ∈ x :: xs, Text.trim y.text = y.id.toList := fun y hy =>
    (h y hy).isTrimmed.trim_eq (h y hy).before (h y hy).after
  have hx := h x List.mem_cons_self
  have hfirst : Text.trim (x.id.toList ++ x.after) = x.id.toList :=
    hx.isTrimmed.trim_eq (a := []) rfl hx.after
  rw [pieces, List.map_cons, hfirst, List.map_cons, List.map_map]
  congr 1
  exact List.map_congr_left fun y hy => htext y (List.mem_cons_of_mem x hy)

theorem names_of_pieces (h : ∀ y ∈ x :: xs, y.WellFormed) :
    (((Text.splitAtChar ',' ([','].intercalate (pieces x xs))).map Text.trim).filter
      fun name => !name.isEmpty) = ((x :: xs).map WrittenName.id).map String.toList := by
  have hsplit : Text.splitAtChar ',' ([','].intercalate (pieces x xs)) = pieces x xs :=
    Text.splitAtChar_intercalate (List.cons_ne_nil _ _)
      fun _ => notMem_of_mem_pieces h (by decide) (by decide)
  have hne : ∀ name ∈ (x :: xs).map fun y => y.id.toList, (!name.isEmpty) = true := by
    intro name hname
    obtain ⟨y, hy, rfl⟩ := List.mem_map.1 hname
    simpa using (h y hy).id_ne_nil
  rw [hsplit, map_trim_pieces h, List.filter_eq_self.2 hne, List.map_map]
  rfl

/-- The white space before the first name is gone when the list is split. -/
theorem trim_inside (h : x.WellFormed) (hnames : w.names = x :: xs) :
    Text.trim (w.list ++ w.closing) = [','].intercalate (pieces x xs) ++ ')' :: w.because := by
  have hlist : w.list = x.before ++ [','].intercalate (pieces x xs) := by
    rw [list, hnames]
    exact Text.intercalate_append_cons _ _ _ _
  have hpieces : [','].intercalate (pieces x xs) =
      x.id.toList ++ [','].intercalate (x.after :: xs.map WrittenName.text) :=
    Text.intercalate_append_cons _ _ _ _
  have htrimmed : Text.IsTrimmed ([','].intercalate (pieces x xs) ++ w.closing) := by
    rw [hpieces, List.append_assoc]
    exact h.isTrimmed.enclose h.id_ne_nil w.isTrimmed_closing (List.cons_ne_nil _ _) _
  rw [hlist, List.append_assoc, htrimmed.trim_append h.before]
  rfl

end

/-- The comment is read as it is meant. -/
theorem read?_comment (h : w.WellFormed) : read? w.comment = some w.allowance := by
  obtain ⟨x, xs, hnames⟩ := List.exists_cons_of_ne_nil h.names_ne_nil
  have hxs : ∀ y ∈ x :: xs, y.WellFormed := hnames ▸ h.names
  rw [read?_eq_some (trim_comment h) w.trim_directive (trim_inside (hxs x List.mem_cons_self) hnames)
    (notMem_intercalate_pieces hxs) (names_of_pieces hxs) (by simp), reason?_because h, allowance, hnames]

/-! ### Finding the comment -/

open Source

/-- The comment starts at the first slashes that vanish. -/
theorem lineComment?_line (h : w.WellFormed) :
    lineComment? w.line (maskLine .code w.line).1 = some w.comment := by
  obtain ⟨n, hcode⟩ := h.code
  have hacross : NoCommentAcross w.code ('/' :: '/' :: w.comment) := fun hlast => absurd hlast h.code_last
  have hcomment : CommentAt .code w.line w.code w.comment := ⟨rfl, n, hcode.after_eq hacross⟩
  refine (lineComment?_eq_some_iff (blanksSlashes_maskLine .code w.line)).2
    ⟨w.code, vanishing_of_commentAt hcomment, fun b u hb => ?_⟩
  rcases hacross.slashes hb.raw_eq with ⟨v, hv⟩ | ⟨b', rfl, -⟩
  · have hkept := hcode.not_allBlank hv hacross
    have hblank : Text.allBlank ((maskFrom {} [] w.line).1.drop b.length) = true := hb.blank
    rw [line, hkept] at hblank
    cases hblank
  · simp

/-- The comment names the rule, or all rules. -/
def Lists (w : WrittenAllowance) (rule : String) : Prop :=
  ∃ x ∈ w.names, x.id = rule ∨ x.id = everyRule

theorem covers_allowance (w : WrittenAllowance) (rule : String) :
    w.allowance.covers rule = true ↔ w.Lists rule := by
  simp only [covers, allowance, Bool.or_eq_true, List.contains_iff_mem, List.mem_map, Lists]
  constructor
  · rintro (⟨x, hx, rfl⟩ | ⟨x, hx, hall⟩)
    · exact ⟨x, hx, .inl rfl⟩
    · exact ⟨x, hx, .inr hall⟩
  · rintro ⟨x, hx, hrule | hall⟩
    · exact .inl ⟨x, hx, hrule⟩
    · exact .inr ⟨x, hx, hall⟩

end WrittenAllowance

namespace Allowances

open Source Allowance

/-- The lines of a text with allow comments are those of `written`, and start in code. Slashes stand
together on no other line. -/
structure Written (content : List Char) (written : Nat → Option WrittenAllowance) : Prop where
  wellFormed : ∀ n w, written n = some w → w.WellFormed
  rawLine : ∀ n w, written n = some w → (SourceFile.parse content).rawLine n = w.line
  regionAt : ∀ n w, written n = some w → (SourceFile.parse content).regionAt n = .code
  other : ∀ n, written n = none → ¬ ['/', '/'] <:+: (SourceFile.parse content).rawLine n

theorem find?_entries_scan (content : List Char) (n : Nat) :
    (((scan (SourceFile.parse content)).entries.find? fun (m, _) => m = n).map (·.2)) =
      (lineComment? ((SourceFile.parse content).rawLine n)
        ((SourceFile.parse content).codeLine n)).bind read? := by
  refine Option.ext fun d => ?_
  rw [← mem_entries_scan_parse, Option.map_eq_some_iff]
  constructor
  · rintro ⟨⟨m, d'⟩, hfind, rfl⟩
    obtain rfl : m = n := by simpa using List.find?_some hfind
    exact List.mem_of_find?_eq_some hfind
  · intro hmem
    obtain ⟨⟨m, d'⟩, hfind⟩ : ∃ e, (scan (SourceFile.parse content)).entries.find?
        (fun (m, _) => m = n) = some e :=
      Option.isSome_iff_exists.1 (List.find?_isSome.2 ⟨(n, d), hmem, by simp⟩)
    obtain rfl : m = n := by simpa using List.find?_some hfind
    -- A line has one comment, so the entry that is found is the one sought.
    have hmem' := mem_entries_scan_parse.1 (List.mem_of_find?_eq_some hfind)
    rw [mem_entries_scan_parse.1 hmem, Option.some_inj] at hmem'
    exact ⟨_, hfind, hmem'.symm⟩

variable {content : List Char} {written : Nat → Option WrittenAllowance}

/-- Each line says what is written on it. -/
theorem Written.lineComment?_bind_read? (h : Written content written) (n : Nat) :
    (lineComment? ((SourceFile.parse content).rawLine n)
      ((SourceFile.parse content).codeLine n)).bind read? = (written n).map WrittenAllowance.allowance := by
  rw [SourceFile.codeLine_parse]
  cases hn : written n with
  | none =>
    have hnone : lineComment? ((SourceFile.parse content).rawLine n)
        (maskLine ((SourceFile.parse content).regionAt n) ((SourceFile.parse content).rawLine n)).1 = none := by
      refine Option.eq_none_iff_forall_ne_some.2 fun t ht => h.other n hn ?_
      obtain ⟨a, hv⟩ := (lineComment?_eq_some_iff (blanksSlashes_maskLine _ _)).1 ht
      exact ⟨a, t, by rw [hv.raw_eq]; simp⟩
    rw [hnone]
    rfl
  | some w =>
    have hw := h.wellFormed n w hn
    rw [h.regionAt n w hn, h.rawLine n w hn, WrittenAllowance.lineComment?_line hw]
    exact WrittenAllowance.read?_comment hw

theorem Written.coveringAt?_eq_some_iff (h : Written content written) {n : Nat} {rule : String}
    {d : Allowance} : (scan (SourceFile.parse content)).coveringAt? n rule = some d ↔
      ∃ w, written n = some w ∧ w.Lists rule ∧ w.allowance = d := by
  rw [coveringAt?, find?_entries_scan, h.lineComment?_bind_read?, Option.filter_eq_some_iff,
    Option.map_eq_some_iff]
  constructor
  · rintro ⟨⟨w, hw, rfl⟩, hcovers⟩
    exact ⟨w, hw, (w.covers_allowance rule).1 hcovers, rfl⟩
  · rintro ⟨w, hw, hlists, rfl⟩
    exact ⟨⟨w, hw, rfl⟩, (w.covers_allowance rule).2 hlists⟩

theorem Written.coveringAt?_eq_none (h : Written content written) {n : Nat} {rule : String}
    (hn : ∀ w, written n = some w → ¬ w.Lists rule) :
    (scan (SourceFile.parse content)).coveringAt? n rule = none := by
  refine Option.eq_none_iff_forall_ne_some.2 fun d hd => ?_
  obtain ⟨w, hw, hlists, -⟩ := h.coveringAt?_eq_some_iff.1 hd
  exact hn w hw hlists

theorem Written.zero (h : Written content written) : written 0 = none := by
  refine Option.eq_none_iff_forall_ne_some.2 fun w hw => ?_
  have hline : [] = w.line := h.rawLine 0 w hw
  simp [WrittenAllowance.line] at hline

/-- Above the first line there is no comment. -/
theorem Written.check?_eq (h : Written content written) (line : Nat) (rule : String) :
    (scan (SourceFile.parse content)).check? line rule =
      ((scan (SourceFile.parse content)).coveringAt? line rule).or
        ((scan (SourceFile.parse content)).coveringAt? (line - 1) rule) := by
  cases line with
  | zero =>
    have hnone : (scan (SourceFile.parse content)).coveringAt? 0 rule = none :=
      h.coveringAt?_eq_none (by simp [h.zero])
    rw [check?, hnone]
    rfl
  | succ above => rfl

/-- A rule is allowed on a line if and only if the comment on the line or the one above lists it. If both
do, the comment on the line is the one that counts, with its reason. -/
theorem check?_written (h : Written content written) (line : Nat) (rule : String) :
    let found := (scan (SourceFile.parse content)).check? line rule
    (found.isSome = true ↔
      ∃ w, (written line = some w ∨ written (line - 1) = some w) ∧ w.Lists rule) ∧
    (∀ w, written line = some w → w.Lists rule → found = some w.allowance) ∧
    ∀ w, written (line - 1) = some w → w.Lists rule →
      (∀ w', written line = some w' → ¬ w'.Lists rule) → found = some w.allowance := by
  have hisSome : ∀ n, ((scan (SourceFile.parse content)).coveringAt? n rule).isSome = true ↔
      ∃ w, written n = some w ∧ w.Lists rule := by
    intro n
    rw [Option.isSome_iff_exists]
    constructor
    · rintro ⟨d, hd⟩
      obtain ⟨w, hw, hlists, -⟩ := h.coveringAt?_eq_some_iff.1 hd
      exact ⟨w, hw, hlists⟩
    · rintro ⟨w, hw, hlists⟩
      exact ⟨w.allowance, h.coveringAt?_eq_some_iff.2 ⟨w, hw, hlists, rfl⟩⟩
  intro found
  have hfound : found = _ := h.check?_eq line rule
  rw [hfound]
  refine ⟨?_, fun w hw hlists => ?_, fun w hw hlists hline => ?_⟩
  · rw [Option.isSome_or, Bool.or_eq_true, hisSome, hisSome]
    constructor
    · rintro (⟨w, hw, hlists⟩ | ⟨w, hw, hlists⟩)
      · exact ⟨w, .inl hw, hlists⟩
      · exact ⟨w, .inr hw, hlists⟩
    · rintro ⟨w, hw | hw, hlists⟩
      · exact .inl ⟨w, hw, hlists⟩
      · exact .inr ⟨w, hw, hlists⟩
  · rw [h.coveringAt?_eq_some_iff.2 ⟨w, hw, hlists, rfl⟩, Option.some_or]
  · rw [h.coveringAt?_eq_none hline, Option.none_or]
    exact h.coveringAt?_eq_some_iff.2 ⟨w, hw, hlists, rfl⟩

/-- A comment with two names and a reason, behind slashes in a string. -/
def commentBehindString : WrittenAllowance where
  code := "s(\"//\"); ".toList
  names := [⟨[], "a", [' ']⟩, ⟨[' '], "all", []⟩]
  reason := some ⟨[' '], ['x']⟩
  blanks := [' ']

/-- A comment with one name, behind a slash in a character literal. -/
def commentBehindCharacter : WrittenAllowance where
  code := "t('/'); ".toList
  names := [⟨[], "c", []⟩]
  reason := none
  blanks := []

def twoComments : Nat → Option WrittenAllowance
  | 1 => some commentBehindString
  | 2 => some commentBehindCharacter
  | _ => none

def twoCommentsContent : List Char :=
  ("s(\"//\"); // guidelint: allow(a , all) reason=\"x\" \n" ++
    "t('/'); // guidelint: allow(c)\nu(1/2);\n").toList

theorem wellFormed_commentBehindString : commentBehindString.WellFormed where
  code := by
    obtain ⟨n, hopen⟩ := CodeStart.nil.append_run (by decide) ['s', '('] (by decide) (by decide)
      (by decide)
    have hbody : LiteralBody '"' ['/', '/'] :=
      .plain (by decide) (by decide) (by decide) (.plain (by decide) (by decide) (by decide) .nil)
    have hclosed := hopen.literal (.string (by decide) hbody)
    exact hclosed.append_run (by decide) [')', ';', ' '] (by decide) (by decide) (by decide)
  code_last := by decide
  names_ne_nil := by decide
  names := by decide
  reason := by
    rintro r ⟨⟩
    exact ⟨by decide, by decide⟩
  blanks := by decide

theorem wellFormed_commentBehindCharacter : commentBehindCharacter.WellFormed where
  code := by
    obtain ⟨n, hopen⟩ := CodeStart.nil.append_run (by decide) ['t', '('] (by decide) (by decide)
      (by decide)
    have hbody : LiteralBody '\'' ['/'] := .plain (by decide) (by decide) (by decide) .nil
    have hclosed := hopen.literal (.character (by rintro - c ⟨⟩; decide) hbody)
    exact hclosed.append_run (by decide) [')', ';', ' '] (by decide) (by decide) (by decide)
  code_last := by decide
  names_ne_nil := by decide
  names := by decide
  reason := by rintro r ⟨⟩
  blanks := by decide

theorem written_twoComments : Written twoCommentsContent twoComments := by
  have hraw : (SourceFile.parse twoCommentsContent).raw =
      [commentBehindString.line, commentBehindCharacter.line, "u(1/2);".toList] := by decide +kernel
  have hrawLine : ∀ n, (SourceFile.parse twoCommentsContent).rawLine n =
      (SourceFile.atLine [commentBehindString.line, commentBehindCharacter.line, "u(1/2);".toList]
        n).getD [] := by
    intro n
    rw [SourceFile.rawLine, hraw]
  have hcases : ∀ n w, twoComments n = some w →
      n = 1 ∧ w = commentBehindString ∨ n = 2 ∧ w = commentBehindCharacter := by
    intro n w hn
    rcases n with _ | _ | _ | n
    · cases hn
    · exact .inl ⟨rfl, (Option.some_inj.1 hn).symm⟩
    · exact .inr ⟨rfl, (Option.some_inj.1 hn).symm⟩
    · cases hn
  constructor
  · intro n w hn
    rcases hcases n w hn with ⟨-, rfl⟩ | ⟨-, rfl⟩
    · exact wellFormed_commentBehindString
    · exact wellFormed_commentBehindCharacter
  · intro n w hn
    rcases hcases n w hn with ⟨rfl, rfl⟩ | ⟨rfl, rfl⟩
    · exact hrawLine 1
    · exact hrawLine 2
  · intro n w hn
    rcases hcases n w hn with ⟨rfl, -⟩ | ⟨rfl, -⟩
    · rw [SourceFile.regionAt, hraw]
      rfl
    · decide +kernel
  · intro n hn
    rw [hrawLine]
    rcases n with _ | _ | _ | _ | n
    · decide
    · cases hn
    · cases hn
    · decide +kernel
    · exact (by decide : ¬ ['/', '/'] <:+: [])

/-- On the second line both comments list the rule, and the one on the line counts. The third line is
below the second alone. -/
theorem check?_twoComments : Written twoCommentsContent twoComments ∧
    (scan (SourceFile.parse twoCommentsContent)).check? 2 "c" = some ⟨["c"], none⟩ ∧
    (scan (SourceFile.parse twoCommentsContent)).check? 2 "b" = some ⟨["a", "all"], some "x"⟩ ∧
    ((scan (SourceFile.parse twoCommentsContent)).check? 3 "b").isSome = false := by
  have hall : commentBehindString.Lists "b" := ⟨⟨[' '], "all", []⟩, by decide, .inr rfl⟩
  have hc : commentBehindCharacter.Lists "c" := ⟨⟨[], "c", []⟩, by decide, .inl rfl⟩
  have hb : ¬ commentBehindCharacter.Lists "b" := by
    rintro ⟨x, hx, hid⟩
    rw [List.mem_singleton.1 hx] at hid
    revert hid
    decide
  have hbelow : ∀ w, twoComments 2 = some w → ¬ w.Lists "b" := by
    rintro w ⟨⟩
    exact hb
  refine ⟨written_twoComments, (check?_written written_twoComments 2 "c").2.1 _ rfl hc,
    (check?_written written_twoComments 2 "b").2.2 _ rfl hall hbelow, ?_⟩
  rw [Bool.eq_false_iff, Ne, (check?_written written_twoComments 3 "b").1]
  rintro ⟨w, hw | hw, hlists⟩
  · cases hw
  · exact hbelow w hw hlists

end Allowances

end Guideline
