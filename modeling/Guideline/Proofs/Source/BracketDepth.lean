import Guideline.Proofs.Declaration.Named
import Guideline.Proofs.Declaration.Nesting
import Mathlib.Algebra.BigOperators.Intervals
import Mathlib.Algebra.Order.Ring.Int

/-!
# Matching brackets by depth

Both matchers read on from an opening bracket and keep a depth; for angle brackets a second count says
whether parentheses are open, and it stays at zero where more are closed than were opened. Depths are
told here without either count: `parenDepth` is a sum over the tokens in between, and `angleDepth` a sum
over those of them that stand outside of parentheses (`OutsideParens`, which the second count decides by
`CountsParens.eq_zero_iff`).

`scan` is the reading of either matcher with a depth that cannot go below zero: it fails where a depth
of zero would be lowered. It does not fail behind an opening bracket (`isFirst_scan`), it finds what the
matchers find (`eq_of_scan`), and that is the first index where the depth is back to zero.
-/

namespace Guideline.Source

/-! ### Depths -/

/-- What a token does to the depth of one kind of brackets. -/
inductive Turn where
  | opens
  | closes
  | passes
deriving DecidableEq, Repr

def Turn.weight : Turn → Int
  | .opens => 1
  | .closes => -1
  | .passes => 0

def Bracket.turn (b : Bracket) (t : Token) : Turn :=
  if t.isPunct b.opening then .opens
  else if t.isPunct b.closing then .closes
  else .passes

/-- The token at an index opens a bracket. -/
def OpensAt (b : Bracket) (tokens : List Token) (i : Nat) : Prop :=
  ∃ t ∈ tokens[i]?, t.isPunct b.opening = true

instance (b : Bracket) (tokens : List Token) (i : Nat) : Decidable (OpensAt b tokens i) :=
  decidable_of_iff (tokens[i]?.any (·.isPunct b.opening) = true) (by simp [OpensAt, Option.any_eq_true])

/-- What the token at an index adds to the depth. -/
def weightAt (b : Bracket) (tokens : List Token) (i : Nat) : Int :=
  (tokens[i]?.map fun t => (b.turn t).weight).getD 0

/-- Opening less closing parentheses from the index `start` up to, but not at, the index `stop`. -/
def parenDepth (tokens : List Token) (start stop : Nat) : Int :=
  ∑ i ∈ Finset.Ico start stop, weightAt .paren tokens i

/-- Every parenthesis opened behind `start` is closed again before the index `i`. -/
def OutsideParens (tokens : List Token) (start i : Nat) : Prop :=
  ∀ p, p < i → start < p → OpensAt .paren tokens p →
    ∃ q, q < i ∧ p < q ∧ parenDepth tokens p (q + 1) = 0

instance (tokens : List Token) (start i : Nat) : Decidable (OutsideParens tokens start i) :=
  inferInstanceAs (Decidable (∀ p, p < i → start < p → OpensAt .paren tokens p →
    ∃ q, q < i ∧ p < q ∧ parenDepth tokens p (q + 1) = 0))

/-- Opening less closing angle brackets outside of parentheses, from the index `start` up to `stop`. -/
def angleDepth (tokens : List Token) (start stop : Nat) : Int :=
  ∑ i ∈ Finset.Ico start stop, if OutsideParens tokens start i then weightAt .angle tokens i else 0

section

variable {tokens : List Token} {b : Bracket} {i : Nat} {t : Token}

theorem weightAt_eq (h : tokens[i]? = some t) : weightAt b tokens i = (b.turn t).weight := by
  rw [weightAt, h]
  rfl

theorem neg_one_le_weightAt (b : Bracket) (tokens : List Token) (i : Nat) : -1 ≤ weightAt b tokens i := by
  rw [weightAt]
  cases tokens[i]? with
  | none => exact neg_one_lt_zero.le
  | some t =>
    rw [Option.map_some, Option.getD_some]
    cases b.turn t <;> decide

theorem weightAt_of_opensAt (h : OpensAt b tokens i) : weightAt b tokens i = 1 := by
  obtain ⟨t, ht, hopens⟩ := h
  rw [weightAt_eq ht, Bracket.turn, if_pos hopens]
  rfl

theorem opensAt_or_weightAt_le (b : Bracket) (tokens : List Token) (i : Nat) :
    OpensAt b tokens i ∨ weightAt b tokens i ≤ 0 := by
  cases ht : tokens[i]? with
  | none =>
    right
    rw [weightAt, ht]
    exact le_rfl
  | some t =>
    by_cases hopens : t.isPunct b.opening = true
    · exact .inl ⟨t, ht, hopens⟩
    · right
      rw [weightAt_eq ht, Bracket.turn, if_neg hopens]
      split_ifs <;> decide

end

section

variable {tokens : List Token} {start p q i : Nat}

theorem parenDepth_succ (h : start ≤ i) :
    parenDepth tokens start (i + 1) = parenDepth tokens start i + weightAt .paren tokens i :=
  Finset.sum_Ico_succ_top h _

theorem parenDepth_self : parenDepth tokens i i = 0 := by
  simp [parenDepth]

theorem parenDepth_add (tokens : List Token) (hpq : p ≤ q) (hqi : q ≤ i) :
    parenDepth tokens p q + parenDepth tokens q i = parenDepth tokens p i :=
  Finset.sum_Ico_consecutive _ hpq hqi

theorem angleDepth_succ (h : start ≤ i) : angleDepth tokens start (i + 1) = angleDepth tokens start i +
    if OutsideParens tokens start i then weightAt .angle tokens i else 0 :=
  Finset.sum_Ico_succ_top h _

theorem parenDepth_fall (h : start ≤ i) :
    parenDepth tokens start i - 1 ≤ parenDepth tokens start (i + 1) := by
  have := neg_one_le_weightAt .paren tokens i
  rw [parenDepth_succ h]
  omega

theorem angleDepth_fall (h : start ≤ i) :
    angleDepth tokens start i - 1 ≤ angleDepth tokens start (i + 1) := by
  have := neg_one_le_weightAt .angle tokens i
  rw [angleDepth_succ h]
  split_ifs <;> omega

theorem angleDepth_self : angleDepth tokens i i = 0 := by
  simp [angleDepth]

/-- A depth that falls by at most one at a time passes zero on its way down. -/
theorem exists_eq_zero_of_le (depth : Nat → Int) {a b : Nat} (hab : a ≤ b)
    (hstep : ∀ j, a ≤ j → depth j - 1 ≤ depth (j + 1)) (ha : 0 < depth a) (hb : depth b ≤ 0) :
    ∃ q, q < b ∧ a ≤ q ∧ depth (q + 1) = 0 := by
  induction b, hab using Nat.le_induction with
  | base => omega
  | succ b hab ih =>
    by_cases hle : depth b ≤ 0
    · obtain ⟨q, hqb, haq, hq⟩ := ih hle
      exact ⟨q, by omega, haq, hq⟩
    · have hfall := hstep b hab
      exact ⟨b, by omega, hab, by omega⟩

/-- Outside of parentheses means that at no index behind `start` more have been opened since than closed. -/
theorem outsideParens_iff : OutsideParens tokens start i ↔
    ∀ p, start < p → p < i → parenDepth tokens p i ≤ 0 := by
  constructor
  · intro h p hstart hpi
    -- Going back from `i`: a parenthesis at `p` is closed at some `q`, and what is behind `q` comes first.
    induction hk : i - p using Nat.strong_induction_on generalizing p with
    | _ k ih =>
      have hrest : ∀ q, p < q → q ≤ i → parenDepth tokens q i ≤ 0 := by
        intro q hpq hqi
        by_cases heq : q = i
        · rw [heq, parenDepth_self]
        · exact ih (i - q) (by omega) q (by omega) (by omega) rfl
      rcases opensAt_or_weightAt_le .paren tokens p with hopens | hle
      · obtain ⟨q, hqi, hpq, hzero⟩ := h p hpi hstart hopens
        have := parenDepth_add tokens (show p ≤ q + 1 by omega) hqi
        have := hrest (q + 1) (by omega) hqi
        omega
      · have hsplit := parenDepth_add tokens (show p ≤ p + 1 by omega) hpi
        rw [parenDepth_succ le_rfl, parenDepth_self] at hsplit
        have := hrest (p + 1) (by omega) hpi
        omega
  · intro h p hpi hstart hopens
    have hone : parenDepth tokens p (p + 1) = 1 := by
      rw [parenDepth_succ le_rfl, parenDepth_self, weightAt_of_opensAt hopens]
      rfl
    obtain ⟨q, hqi, hpq, hzero⟩ := exists_eq_zero_of_le (parenDepth tokens p) (show p + 1 ≤ i from hpi)
      (fun j hj => parenDepth_fall (by omega)) (by omega) (h p hstart hpi)
    exact ⟨q, hqi, hpq, hzero⟩

end

/-! ### The scan -/

/-- Reads tokens from the index `i` on, with a depth and whatever else decides what a token does, and
gives the index at which the depth is back to zero. Fails where a depth of zero would be lowered. -/
def scan {σ : Type} (turn : σ → Token → Turn) (next : σ → Token → σ) (s : σ) (depth i : Nat) :
    List Token → Option (Option Nat)
  | [] => some none
  | t :: rest =>
    match turn s t with
    | .opens => scan turn next (next s t) (depth + 1) (i + 1) rest
    | .closes =>
      match depth with
      | 0 => none
      | 1 => some (some i)
      | depth + 2 => scan turn next (next s t) (depth + 1) (i + 1) rest
    | .passes => scan turn next (next s t) depth (i + 1) rest

/-- The open parentheses behind a token, of which there are never less than none. -/
def parensBehind (parens : Nat) (t : Token) : Nat :=
  match Bracket.turn .paren t with
  | .opens => parens + 1
  | .closes => parens - 1
  | .passes => parens

/-- What a token does to the depth of angle brackets inside of `parens` parentheses. -/
def angleTurn (parens : Nat) (t : Token) : Turn :=
  if parens = 0 then Bracket.turn .angle t else .passes

def scanParen (tokens : List Token) (start : Nat) : Option (Option Nat) :=
  scan (fun (_ : Unit) t => Bracket.turn .paren t) (fun _ _ => ()) () 0 start (tokens.drop start)

def scanAngle (tokens : List Token) (start : Nat) : Option (Option Nat) :=
  scan angleTurn parensBehind 0 0 start (tokens.drop start)

/-- The first index from `i` on behind which the depth is zero is the one found, if there is one. -/
def IsFirst (depth : Nat → Int) (size i : Nat) : Option Nat → Prop
  | some c => i ≤ c ∧ c < size ∧ depth (c + 1) = 0 ∧ ∀ j, i ≤ j → j < c → depth (j + 1) ≠ 0
  | none => ∀ j, i ≤ j → j < size → depth (j + 1) ≠ 0

theorem IsFirst.of_succ {depth : Nat → Int} {size i : Nat} {found : Option Nat}
    (h : IsFirst depth size (i + 1) found) (hi : depth (i + 1) ≠ 0) : IsFirst depth size i found := by
  have hrest : ∀ {j n : Nat}, (∀ k, i + 1 ≤ k → k < n → depth (k + 1) ≠ 0) → i ≤ j → j < n →
      depth (j + 1) ≠ 0 := by
    intro j n hn hij hjn
    rcases Nat.eq_or_lt_of_le hij with rfl | hlt
    · exact hi
    · exact hn j hlt hjn
  cases found with
  | none => exact fun j => hrest h
  | some c =>
    obtain ⟨hle, hsize, hzero, hbefore⟩ := h
    exact ⟨by omega, hsize, hzero, fun j => hrest hbefore⟩

section

variable {σ : Type} {turn : σ → Token → Turn} {next : σ → Token → σ} {tokens : List Token}

/-- What is true of the state at every index that is read, and says what tokens do to the depth. -/
structure Tracks (turn : σ → Token → Turn) (next : σ → Token → σ) (tokens : List Token)
    (depth : Nat → Int) (inv : σ → Nat → Prop) : Prop where
  next : ∀ {s i t}, inv s i → tokens[i]? = some t → inv (next s t) (i + 1)
  turn : ∀ {s i t}, inv s i → tokens[i]? = some t → depth (i + 1) = depth i + (turn s t).weight

/-- From a positive depth on the scan does not fail. -/
theorem isFirst_scan {depth : Nat → Int} {inv : σ → Nat → Prop} (h : Tracks turn next tokens depth inv)
    {s : σ} {i d : Nat} (hinv : inv s i) (hdepth : depth i = d) (hpos : 0 < d) :
    ∃ found, scan turn next s d i (tokens.drop i) = some found ∧ IsFirst depth tokens.length i found := by
  induction hts : tokens.drop i generalizing s i d with
  | nil =>
    refine ⟨none, rfl, fun j hij hj => ?_⟩
    have := List.drop_eq_nil_iff.1 hts
    omega
  | cons t rest ih =>
    have hlt : i < tokens.length := by
      by_contra hge
      rw [List.drop_eq_nil_of_le (by omega)] at hts
      cases hts
    rw [List.drop_eq_getElem_cons hlt, List.cons.injEq] at hts
    obtain ⟨rfl, hrest⟩ := hts
    have hget : tokens[i]? = some tokens[i] := List.getElem?_eq_getElem hlt
    have hinv' := h.next hinv hget
    have hturn := h.turn hinv hget
    -- One step further on, where the depth is not back to zero.
    have hgo : ∀ {d' : Nat}, depth (i + 1) = d' → 0 < d' →
        ∃ found, scan turn next (next s tokens[i]) d' (i + 1) rest = some found ∧
          IsFirst depth tokens.length i found := by
      intro d' hd' hpos'
      obtain ⟨found, hscan, hfirst⟩ := ih hinv' hd' hpos' hrest
      exact ⟨found, hscan, hfirst.of_succ (by omega)⟩
    unfold scan
    cases hcase : turn s tokens[i] with
    | opens =>
      rw [hcase, Turn.weight] at hturn
      exact hgo (by omega) (Nat.succ_pos d)
    | passes =>
      rw [hcase, Turn.weight] at hturn
      exact hgo (by omega) hpos
    | closes =>
      rw [hcase, Turn.weight] at hturn
      match d with
      | 0 => omega
      | 1 => exact ⟨some i, rfl, le_rfl, hlt, by omega, fun j hij hji => by omega⟩
      | d + 2 => exact hgo (by omega) (Nat.succ_pos d)

/-- A matcher that goes by the same turns, but takes a depth of zero for one. -/
structure FollowsTurns (turn : σ → Token → Turn) (next : σ → Token → σ)
    (close : σ → Nat → List Token → Option Nat) : Prop where
  nil : ∀ s d, close s d [] = none
  opens : ∀ {s d t rest}, turn s t = .opens →
    close s d (t :: rest) = (close (next s t) (d + 1) rest).map (· + 1)
  last : ∀ {s t rest}, turn s t = .closes → close s 1 (t :: rest) = some 1
  closes : ∀ {s d t rest}, turn s t = .closes →
    close s (d + 2) (t :: rest) = (close (next s t) (d + 1) rest).map (· + 1)
  passes : ∀ {s d t rest}, turn s t = .passes →
    close s d (t :: rest) = (close (next s t) d rest).map (· + 1)

/-- Where the scan does not fail, it finds what the matcher finds. -/
theorem eq_of_scan {close : σ → Nat → List Token → Option Nat} (h : FollowsTurns turn next close)
    {s : σ} {d i : Nat} {ts : List Token} {found : Option Nat} (hscan : scan turn next s d i ts = some found) :
    (close s d ts).map (i + · - 1) = found := by
  induction ts generalizing s d i with
  | nil =>
    rw [h.nil]
    exact Option.some.inj hscan
  | cons t rest ih =>
    have hnext : ∀ o : Option Nat, (o.map (· + 1)).map (i + · - 1) = o.map (i + 1 + · - 1) := by
      intro o
      rw [Option.map_map]
      congr 1
      funext n
      simp only [Function.comp_apply]
      omega
    unfold scan at hscan
    cases hturn : turn s t with
    | opens =>
      rw [hturn] at hscan
      rw [h.opens hturn, hnext, ih hscan]
    | passes =>
      rw [hturn] at hscan
      rw [h.passes hturn, hnext, ih hscan]
    | closes =>
      rw [hturn] at hscan
      match d with
      | 0 => cases hscan
      | 1 =>
        rw [h.last hturn, ← Option.some.inj hscan]
        rfl
      | d + 2 => rw [h.closes hturn, hnext, ih hscan]

end

/-! ### The matchers -/

section

variable {b : Bracket} {t : Token}

theorem Bracket.of_turn_opens (h : b.turn t = .opens) : t.isPunct b.opening = true := by
  rw [turn] at h
  split_ifs at h
  assumption

theorem Bracket.of_turn_closes (h : b.turn t = .closes) :
    t.isPunct b.opening = false ∧ t.isPunct b.closing = true := by
  rw [turn] at h
  split_ifs at h with hopening hclosing
  exact ⟨by simpa using hopening, hclosing⟩

theorem Bracket.of_turn_passes (h : b.turn t = .passes) :
    t.isPunct b.opening = false ∧ t.isPunct b.closing = false := by
  rw [turn] at h
  split_ifs at h with hopening hclosing
  exact ⟨by simpa using hopening, by simpa using hclosing⟩

end

theorem followsTurns_parenEnd :
    FollowsTurns (fun (_ : Unit) t => Bracket.turn .paren t) (fun _ _ => ()) fun _ => parenEnd := by
  refine ⟨fun _ _ => rfl, ?_, ?_, ?_, ?_⟩
  · intro _ d t rest h
    have hopen : t.isPunct '(' = true := Bracket.of_turn_opens (b := .paren) h
    exact parenEnd_opening hopen d
  · intro _ t rest h
    have hclose : t.isPunct ')' = true := (Bracket.of_turn_closes (b := .paren) h).2
    exact parenEnd_last hclose
  · intro _ d t rest h
    have hclose : t.isPunct ')' = true := (Bracket.of_turn_closes (b := .paren) h).2
    exact parenEnd_closing hclose (Nat.succ_pos d)
  · intro _ d t rest h
    have hplain : t.isPunct '(' = false ∧ t.isPunct ')' = false := Bracket.of_turn_passes (b := .paren) h
    exact parenEnd_plain hplain.1 hplain.2 d

theorem parensBehind_of_angle {t : Token} (h : t.isPunct '<' = true ∨ t.isPunct '>' = true) (parens : Nat) :
    parensBehind parens t = parens := by
  have hplain : t.isPunct '(' = false ∧ t.isPunct ')' = false :=
    Bracket.isPunct_eq_false_of_ne (b := .angle) (show Bracket.angle ≠ .paren by decide) h
  simp [parensBehind, Bracket.turn, Bracket.opening, Bracket.closing, hplain]

/-- Angle brackets count outside of parentheses only. -/
theorem of_angleTurn {parens : Nat} {t : Token} {turn : Turn} (h : angleTurn parens t = turn)
    (hne : turn ≠ .passes) : parens = 0 ∧ Bracket.turn .angle t = turn := by
  rw [angleTurn] at h
  split_ifs at h with hparens
  · exact ⟨hparens, h⟩
  · exact absurd h.symm hne

theorem angleEnd_passes {parens : Nat} {t : Token} (h : angleTurn parens t = .passes) (d : Nat)
    (rest : List Token) :
    angleEnd parens d (t :: rest) = (angleEnd (parensBehind parens t) d rest).map (· + 1) := by
  rw [parensBehind]
  cases hparen : Bracket.turn .paren t with
  | opens =>
    have hopen : t.isPunct '(' = true := Bracket.of_turn_opens (b := .paren) hparen
    exact angleEnd_openParen hopen parens d
  | closes =>
    have hclose : t.isPunct ')' = true := (Bracket.of_turn_closes (b := .paren) hparen).2
    cases parens with
    | zero => simp [angleEnd, Token.isPunct_eq hclose]
    | succ parens => exact angleEnd_closeParen hclose parens d
  | passes =>
    have hplain : t.isPunct '(' = false ∧ t.isPunct ')' = false := Bracket.of_turn_passes (b := .paren) hparen
    refine angleEnd_other hplain ?_ d
    rw [angleTurn] at h
    split_ifs at h with hparens
    · exact .inr (Bracket.of_turn_passes (b := .angle) h)
    · exact .inl (Nat.pos_of_ne_zero hparens)

theorem followsTurns_angleEnd : FollowsTurns angleTurn parensBehind angleEnd := by
  refine ⟨fun _ _ => rfl, ?_, ?_, ?_, ?_⟩
  · intro parens d t rest h
    obtain ⟨rfl, hturn⟩ := of_angleTurn h (by decide)
    have hopen : t.isPunct '<' = true := Bracket.of_turn_opens (b := .angle) hturn
    rw [parensBehind_of_angle (.inl hopen)]
    exact angleEnd_opening hopen d
  · intro parens t rest h
    obtain ⟨rfl, hturn⟩ := of_angleTurn h (by decide)
    have hclose : t.isPunct '>' = true := (Bracket.of_turn_closes (b := .angle) hturn).2
    exact angleEnd_last hclose
  · intro parens d t rest h
    obtain ⟨rfl, hturn⟩ := of_angleTurn h (by decide)
    have hclose : t.isPunct '>' = true := (Bracket.of_turn_closes (b := .angle) hturn).2
    rw [parensBehind_of_angle (.inr hclose)]
    exact angleEnd_closing hclose (Nat.succ_pos d)
  · intro parens d t rest h
    exact angleEnd_passes h d rest

section

variable {tokens : List Token} {start : Nat}

theorem tracks_paren (tokens : List Token) (start : Nat) :
    Tracks (fun (_ : Unit) t => Bracket.turn .paren t) (fun _ _ => ()) tokens (parenDepth tokens start)
      fun _ i => start ≤ i := by
  refine ⟨fun h _ => Nat.le_succ_of_le h, fun h ht => ?_⟩
  rw [parenDepth_succ h, weightAt_eq ht]

/-- The count of open parentheses is the largest depth reached since an index behind `start`, and never
less than none. -/
def CountsParens (tokens : List Token) (start parens i : Nat) : Prop :=
  start < i ∧ ∀ m : Nat, parens ≤ m ↔ ∀ p, start < p → p < i → parenDepth tokens p i ≤ m

theorem CountsParens.eq_zero_iff {parens i : Nat} (h : CountsParens tokens start parens i) :
    parens = 0 ↔ OutsideParens tokens start i := by
  rw [← Nat.le_zero, h.2 0, outsideParens_iff]
  rfl

/-- The indices before `i` go on from their depth at `i`, and `i` itself is new. -/
theorem parenDepth_succ_le_iff {i : Nat} {t : Token} (hstart : start < i) (ht : tokens[i]? = some t) (m : Nat) :
    (∀ p, start < p → p < i + 1 → parenDepth tokens p (i + 1) ≤ m) ↔
      (Bracket.turn .paren t).weight ≤ m ∧
        ∀ p, start < p → p < i → parenDepth tokens p i + (Bracket.turn .paren t).weight ≤ m := by
  constructor
  · intro hall
    refine ⟨?_, fun p hp hpi => ?_⟩
    · have hself := hall i hstart (by omega)
      rwa [parenDepth_succ le_rfl, parenDepth_self, zero_add, weightAt_eq ht] at hself
    · have hp' := hall p hp (by omega)
      rwa [parenDepth_succ hpi.le, weightAt_eq ht] at hp'
  · rintro ⟨hself, hbefore⟩ p hp hpi
    rw [parenDepth_succ (by omega), weightAt_eq ht]
    rcases Nat.eq_or_lt_of_le (Nat.le_of_lt_succ hpi) with rfl | hlt
    · rwa [parenDepth_self, zero_add]
    · exact hbefore p hp hlt

theorem CountsParens.step {parens i : Nat} {t : Token} (h : CountsParens tokens start parens i)
    (ht : tokens[i]? = some t) : CountsParens tokens start (parensBehind parens t) (i + 1) := by
  obtain ⟨hstart, hcount⟩ := h
  refine ⟨by omega, fun m => ?_⟩
  rw [parenDepth_succ_le_iff hstart ht, parensBehind]
  cases Bracket.turn .paren t with
  | opens =>
    simp only [Turn.weight]
    cases m with
    | zero => omega
    | succ m =>
      rw [Nat.add_le_add_iff_right, hcount m]
      constructor
      · intro hall
        refine ⟨by omega, fun p hp hpi => ?_⟩
        have := hall p hp hpi
        push_cast
        omega
      · rintro ⟨-, hall⟩ p hp hpi
        have := hall p hp hpi
        push_cast at this
        omega
  | closes =>
    simp only [Turn.weight]
    rw [Nat.sub_le_iff_le_add, hcount (m + 1)]
    constructor
    · intro hall
      refine ⟨by omega, fun p hp hpi => ?_⟩
      have := hall p hp hpi
      push_cast at this
      omega
    · rintro ⟨-, hall⟩ p hp hpi
      have := hall p hp hpi
      push_cast
      omega
  | passes =>
    simp only [Turn.weight, add_zero]
    rw [hcount m]
    exact (and_iff_right (by omega)).symm

theorem tracks_angle (tokens : List Token) (start : Nat) :
    Tracks angleTurn parensBehind tokens (angleDepth tokens start) (CountsParens tokens start) := by
  refine ⟨fun h ht => h.step ht, fun {parens i t} h ht => ?_⟩
  rw [angleDepth_succ h.1.le, angleTurn, weightAt_eq ht]
  by_cases hout : OutsideParens tokens start i
  · rw [if_pos hout, if_pos (h.eq_zero_iff.2 hout)]
  · rw [if_neg hout, if_neg fun hparens => hout (h.eq_zero_iff.1 hparens)]
    rfl

end

/-! ### What the matchers find -/

/-- What is found for the bracket at `start`: the least index behind it at which the depth is back to
zero. -/
structure FindsClose (depth : Nat → Int) (size start : Nat) (found : Option Nat) : Prop where
  some_iff : ∀ c, found = some c ↔ IsLeast {i | start < i ∧ i < size ∧ depth (i + 1) = 0} c
  none_iff : found = none ↔ ∀ i, start < i → i < size → depth (i + 1) ≠ 0
  /-- At every index that is read the depth is positive, so that it can be lowered. -/
  positive : ∀ i, start < i → i < size → (∀ c ∈ found, i ≤ c) → 0 < depth i

theorem IsFirst.findsClose {depth : Nat → Int} {size start : Nat} {found : Option Nat}
    (h : IsFirst depth size (start + 1) found) (hone : depth (start + 1) = 1)
    (hfall : ∀ j, start ≤ j → depth j - 1 ≤ depth (j + 1)) : FindsClose depth size start found := by
  have hleast : ∀ c, found = some c → IsLeast {i | start < i ∧ i < size ∧ depth (i + 1) = 0} c := by
    rintro c rfl
    obtain ⟨hle, hsize, hzero, hbefore⟩ := h
    refine ⟨⟨hle, hsize, hzero⟩, fun i hi => ?_⟩
    by_contra hlt
    exact hbefore i hi.1 (by omega) hi.2.2
  have hnone : found = none → ∀ i, start < i → i < size → depth (i + 1) ≠ 0 := by
    rintro rfl
    exact h
  refine ⟨fun c => ⟨hleast c, fun hc => ?_⟩, ⟨hnone, fun hall => ?_⟩, fun i hstart hi hread => ?_⟩
  · cases found with
    | none => exact absurd hc.1.2.2 (hnone rfl c hc.1.1 hc.1.2.1)
    | some c' => exact congrArg some ((hleast c' rfl).unique hc)
  · cases found with
    | none => rfl
    | some c =>
      have hc := (hleast c rfl).1
      exact absurd hc.2.2 (hall c hc.1 hc.2.1)
  · -- A depth that is not positive was zero before, and there the reading would have ended.
    by_contra hle
    obtain ⟨q, hqi, hstartq, hq⟩ := exists_eq_zero_of_le depth (show start + 1 ≤ i from hstart)
      (fun j hj => hfall j (by omega)) (by omega) (by omega)
    cases found with
    | none => exact hnone rfl q hstartq (by omega) hq
    | some c =>
      have hcq : c ≤ q := (hleast c rfl).2 ⟨hstartq, by omega, hq⟩
      have hic : i ≤ c := hread c rfl
      omega

/-- A matcher that starts at an opening bracket finds where it is closed, without failing. -/
theorem findsClose_of_opens {σ : Type} {turn : σ → Token → Turn} {next : σ → Token → σ}
    {close : σ → Nat → List Token → Option Nat} {tokens : List Token} {depth : Nat → Int}
    {inv : σ → Nat → Prop} (htracks : Tracks turn next tokens depth inv)
    (hturns : FollowsTurns turn next close) {s : σ} {t : Token} {start : Nat} (ht : tokens[start]? = some t)
    (hopens : turn s t = .opens) (hinv : inv (next s t) (start + 1)) (hone : depth (start + 1) = 1)
    (hfall : ∀ j, start ≤ j → depth j - 1 ≤ depth (j + 1)) :
    let found := (close s 0 (tokens.drop start)).map (start + · - 1)
    scan turn next s 0 start (tokens.drop start) = some found ∧ FindsClose depth tokens.length start found := by
  obtain ⟨hlt, rfl⟩ := List.getElem?_eq_some_iff.1 ht
  obtain ⟨found, hscan, hfirst⟩ := isFirst_scan htracks hinv hone Nat.one_pos
  have hstart : scan turn next s 0 start (tokens.drop start) = some found := by
    rw [List.drop_eq_getElem_cons hlt]
    unfold scan
    rw [hopens]
    exact hscan
  have hfound := eq_of_scan hturns hstart
  exact ⟨by rw [hfound, hstart], hfound ▸ hfirst.findsClose hone hfall⟩

section

variable {tokens : List Token} {start : Nat}

theorem findsClose_matchingParen (h : OpensAt .paren tokens start) :
    scanParen tokens start = some (matchingParen tokens start) ∧
      FindsClose (parenDepth tokens start) tokens.length start (matchingParen tokens start) := by
  have hone : parenDepth tokens start (start + 1) = 1 := by
    rw [parenDepth_succ le_rfl, parenDepth_self, weightAt_of_opensAt h, zero_add]
  obtain ⟨t, ht, hopen⟩ := h
  have hturn : Bracket.turn .paren t = .opens := if_pos hopen
  exact findsClose_of_opens (tracks_paren tokens start) followsTurns_parenEnd ht hturn (Nat.le_succ start) hone
    fun j => parenDepth_fall

theorem findsClose_matchingAngle (h : OpensAt .angle tokens start) :
    scanAngle tokens start = some (matchingAngle tokens start) ∧
      FindsClose (angleDepth tokens start) tokens.length start (matchingAngle tokens start) := by
  have hone : angleDepth tokens start (start + 1) = 1 := by
    have hout : OutsideParens tokens start start := fun p hp hstart => absurd hp (by omega)
    rw [angleDepth_succ le_rfl, angleDepth_self, if_pos hout, weightAt_of_opensAt h, zero_add]
  obtain ⟨t, ht, hopen⟩ := h
  have hturn : angleTurn 0 t = .opens := if_pos hopen
  have hcount : CountsParens tokens start (parensBehind 0 t) (start + 1) := by
    rw [parensBehind_of_angle (.inl hopen)]
    exact ⟨Nat.lt_succ_self start, fun m => ⟨fun _ p hp hpi => by omega, fun _ => Nat.zero_le m⟩⟩
  exact findsClose_of_opens (tracks_angle tokens start) followsTurns_angleEnd ht hturn hcount hone
    fun j => angleDepth_fall

end

/-! ### Template heads -/

/-- The tokens start with `template <`. -/
def StartsTemplate (tokens : List Token) : Prop :=
  ∃ t ∈ tokens[0]?, t.isWord "template" = true ∧ OpensAt .angle tokens 1

/-- One template head is taken off, or everything if its bracket is not closed. -/
def DropsTemplate (tokens tokens' : List Token) : Prop :=
  StartsTemplate tokens ∧
    tokens' = ((matchingAngle tokens 1).map fun c => tokens.drop (c + 1)).getD []

theorem DropsTemplate.length_lt {tokens tokens' : List Token} (h : DropsTemplate tokens tokens') :
    tokens'.length < tokens.length := by
  obtain ⟨⟨t, ht, -⟩, rfl⟩ := h
  obtain ⟨hlt, -⟩ := List.getElem?_eq_some_iff.1 ht
  cases matchingAngle tokens 1 with
  | none => exact hlt
  | some c =>
    simp only [Option.map_some, Option.getD_some, List.length_drop]
    omega

theorem DropsTemplate.isSuffix {tokens tokens' : List Token} (h : DropsTemplate tokens tokens') :
    tokens' <:+ tokens := by
  obtain ⟨-, rfl⟩ := h
  cases matchingAngle tokens 1 with
  | none => exact List.nil_suffix
  | some c => exact List.drop_suffix (c + 1) tokens

theorem isSuffix_of_drops {tokens tokens' : List Token} (h : Relation.ReflTransGen DropsTemplate tokens tokens') :
    tokens' <:+ tokens := by
  induction h with
  | refl => exact List.suffix_refl tokens
  | tail _ hlast ih => exact hlast.isSuffix.trans ih

theorem startsTemplate_cons {t u : Token} {rest : List Token} : StartsTemplate (t :: u :: rest) ↔
    (t.isWord "template" && u.isPunct '<') = true := by
  simp [StartsTemplate, OpensAt, Bracket.opening]

/-- Template heads are taken off until none is left. -/
theorem skipTemplate_drops (tokens : List Token) :
    Relation.ReflTransGen DropsTemplate tokens (skipTemplate tokens) ∧ ¬ StartsTemplate (skipTemplate tokens) := by
  fun_induction skipTemplate tokens with
  | case1 t u rest hstarts n hend ih =>
    have hclose : matchingAngle (t :: u :: rest) 1 = some n := by
      simp [matchingAngle, hend]
    have hdrops : DropsTemplate (t :: u :: rest) ((u :: rest).drop n) :=
      ⟨startsTemplate_cons.2 hstarts, by rw [hclose]; rfl⟩
    exact ⟨.head hdrops ih.1, ih.2⟩
  | case2 t u rest hstarts hend =>
    have hclose : matchingAngle (t :: u :: rest) 1 = none := by
      simp [matchingAngle, hend]
    have hdrops : DropsTemplate (t :: u :: rest) [] :=
      ⟨startsTemplate_cons.2 hstarts, by rw [hclose]; rfl⟩
    exact ⟨.single hdrops, by simp [StartsTemplate]⟩
  | case3 t u rest hstarts => exact ⟨.refl, fun h => hstarts (startsTemplate_cons.1 h)⟩
  | case4 tokens hshort =>
    refine ⟨.refl, ?_⟩
    rintro ⟨t, ht, -, u, hu, -⟩
    cases tokens with
    | nil => cases ht
    | cons t tail =>
      cases tail with
      | nil => cases hu
      | cons u rest => exact hshort t u rest rfl

/-- Brackets are matched by depth: what is found for an opening bracket is the least index behind it at
which the depth is back to zero, the depth is never lowered from zero, and so template heads can be taken
off until none is left. -/
theorem matching_brackets (tokens : List Token) (start : Nat) :
    (OpensAt .paren tokens start →
      scanParen tokens start = some (matchingParen tokens start) ∧
      FindsClose (parenDepth tokens start) tokens.length start (matchingParen tokens start)) ∧
    (OpensAt .angle tokens start →
      scanAngle tokens start = some (matchingAngle tokens start) ∧
      FindsClose (angleDepth tokens start) tokens.length start (matchingAngle tokens start)) ∧
    WellFounded (fun tokens' tokens => DropsTemplate tokens tokens') ∧
    Relation.ReflTransGen DropsTemplate tokens (skipTemplate tokens) ∧
    skipTemplate tokens <:+ tokens ∧ ¬ StartsTemplate (skipTemplate tokens) := by
  obtain ⟨hdrops, hstarts⟩ := skipTemplate_drops tokens
  have hwf : WellFounded (fun tokens' tokens => DropsTemplate tokens tokens') :=
    Subrelation.wf (fun h => h.length_lt) (measure List.length).wf
  exact ⟨findsClose_matchingParen, findsClose_matchingAngle, hwf, hdrops, isSuffix_of_drops hdrops, hstarts⟩

/-- A template head with an angle bracket in parentheses, before a call in a call. -/
def templateHead : List Token :=
  tokenize "template<f(a>b)>g(h())".toList

theorem matching_brackets_templateHead :
    (OpensAt .paren templateHead 10 ∧ FindsClose (parenDepth templateHead 10) 15 10 (some 14)) ∧
    (OpensAt .angle templateHead 1 ∧ FindsClose (angleDepth templateHead 1) 15 1 (some 8)) := by
  have hlength : templateHead.length = 15 := by decide +kernel
  have hparen : OpensAt .paren templateHead 10 := by decide +kernel
  have hangle : OpensAt .angle templateHead 1 := by decide +kernel
  have hfoundParen : matchingParen templateHead 10 = some 14 := by decide +kernel
  have hfoundAngle : matchingAngle templateHead 1 = some 8 := by decide +kernel
  have hclosesParen := ((matching_brackets templateHead 10).1 hparen).2
  have hclosesAngle := ((matching_brackets templateHead 1).2.1 hangle).2
  rw [hlength, hfoundParen] at hclosesParen
  rw [hlength, hfoundAngle] at hclosesAngle
  exact ⟨⟨hparen, hclosesParen⟩, hangle, hclosesAngle⟩

end Guideline.Source
