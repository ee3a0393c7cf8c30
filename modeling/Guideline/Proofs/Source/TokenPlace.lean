import Guideline.Proofs.Source.MaskTrace
import Guideline.Proofs.Unicode.Blank
import Guideline.Source.Token

/-!
# Where tokens stand

Tokens carry byte offsets. An identifier token is a whole word of its text: it stands at its offset,
consists of identifier characters, and has none right before or after it (`isWordOf_of_mem_tokenizeFrom`).
No two tokens have one offset, for the offsets increase (`pairwise_tokenizeFrom`).
-/

namespace Guideline

namespace Text

theorem byteLength_append (a b : List Char) : byteLength (a ++ b) = byteLength a + byteLength b := by
  induction a with
  | nil => rw [List.nil_append, byteLength, Nat.zero_add]
  | cons c a ih => rw [List.cons_append, byteLength, byteLength, ih, Nat.add_assoc]

theorem length_encode (cs : List Char) : (encode cs).length = byteLength cs := by
  induction cs with
  | nil => rfl
  | cons c cs ih =>
    rw [encode, List.flatMap_cons, List.length_append, String.length_utf8EncodeChar, byteLength, ← ih]
    rfl

theorem encode_append (a b : List Char) : encode (a ++ b) = encode a ++ encode b :=
  List.flatMap_append

end Text

namespace Source

/-- White space separates words. -/
theorem isIdentChar_eq_false_of_isBlank {c : Char} (h : Text.isBlank c = true) :
    isIdentChar c = false := by
  have hne : c ≠ '_' := by
    rintro rfl
    exact absurd h (by decide)
  rw [isIdentChar, Unicode.isAlphanumeric_eq_false_of_isBlank h, Bool.false_or, beq_eq_false_iff_ne]
  exact hne

/-- No word runs across from `a` to `b`. -/
def Parts (a b : List Char) : Prop :=
  ∀ x ∈ a.getLast?, isIdentChar x = true → ∀ y ∈ b.head?, isIdentChar y = false

/-- The word `w` stands at a byte offset of a text that starts at the offset `start`. -/
def IsWordOf (start : Nat) (text : List Char) (offset : Nat) (w : List Char) : Prop :=
  ∃ a b, text = a ++ w ++ b ∧ offset = start + Text.byteLength a ∧ w ≠ [] ∧
    (∀ c ∈ w, isIdentChar c = true) ∧ Delimits a b

theorem IsWordOf.append_left {start offset : Nat} {p text w : List Char} (hp : Parts p text)
    (h : IsWordOf (start + Text.byteLength p) text offset w) : IsWordOf start (p ++ text) offset w := by
  obtain ⟨a, b, rfl, rfl, hne, hw, ha, hb⟩ := h
  refine ⟨p ++ a, b, by simp, by rw [Text.byteLength_append, Nat.add_assoc], hne, hw, ?_, hb⟩
  intro x hx
  rw [List.getLast?_append] at hx
  cases hlast : a.getLast? with
  | some y =>
    rw [hlast, Option.some_or] at hx
    exact ha x (hlast.trans hx)
  | none =>
    -- The word stands at the start of the text, so its first character is what `p` is parted from.
    rw [hlast, Option.none_or] at hx
    obtain rfl := List.getLast?_eq_none_iff.1 hlast
    obtain ⟨y, w, rfl⟩ := List.exists_cons_of_ne_nil hne
    have hy : isIdentChar y = true := hw y (by simp)
    by_contra hident
    exact absurd (hp x hx (by simpa using hident) y rfl) (by simp [hy])

theorem parts_of_last {a b : List Char} (h : ∀ x ∈ a.getLast?, isIdentChar x = false) : Parts a b := by
  intro x hx hident
  rw [h x hx] at hident
  cases hident

theorem parts_of_head {a b : List Char} (h : ∀ y ∈ b.head?, isIdentChar y = false) : Parts a b :=
  fun _ _ _ => h

theorem head?_dropWhile_eq_false {p : Char → Bool} {l : List Char} {y : Char}
    (h : y ∈ (l.dropWhile p).head?) : p y = false := by
  have := List.head?_dropWhile_not p l
  rwa [Option.mem_def.1 h] at this

/-- A literal ends in its quote or at the end of the text. -/
theorem splitAfter_ends (quote : Char) (l : List Char) :
    (splitAfter quote l).1.getLast? = some quote ∨ (splitAfter quote l).2 = [] := by
  induction l with
  | nil => exact .inr rfl
  | cons c rest ih =>
    rw [splitAfter]
    split_ifs with hc
    · exact .inl (by simp [hc])
    · refine ih.imp (fun h => ?_) id
      rw [List.getLast?_cons, h]
      rfl

theorem parts_scanToken (c : Char) (rest : List Char) :
    Parts (c :: (scanToken c rest).2.1) (scanToken c rest).2.2 := by
  rw [scanToken]
  split_ifs with hdigit hident hquote
  · refine parts_of_head fun y hy => ?_
    have := head?_dropWhile_eq_false hy
    simp only [isNumberChar, Bool.or_eq_false_iff] at this
    exact this.1.1
  · exact parts_of_head fun y hy => head?_dropWhile_eq_false hy
  · rcases splitAfter_ends c rest with h | h
    · refine parts_of_last fun x hx => ?_
      rw [List.getLast?_cons, h] at hx
      cases hx
      simpa using hident
    · refine parts_of_head fun y hy => ?_
      rw [h] at hy
      cases hy
  · exact parts_of_last fun x hx => by simp_all

theorem scanToken_ident {c : Char} {rest : List Char} (h : (scanToken c rest).1 = .ident) :
    isIdentChar c = true ∧
      (scanToken c rest).2 = (rest.takeWhile isIdentChar, rest.dropWhile isIdentChar) := by
  rw [scanToken] at h ⊢
  split_ifs at h ⊢ with hdigit hident hquote
  exact ⟨hident, rfl⟩

theorem isWordOf_of_mem_tokenizeFrom {start : Nat} {text : List Char} {t : Token}
    (h : t ∈ tokenizeFrom start text) (hident : t.isIdent = true) :
    IsWordOf start text t.offset t.text.toList := by
  fun_induction tokenizeFrom start text with
  | case1 => cases h
  | case2 start c rest hblank ih =>
    refine IsWordOf.append_left (p := [c]) (parts_of_last fun x hx => ?_) (ih h)
    obtain rfl : c = x := by simpa using hx
    exact isIdentChar_eq_false_of_isBlank hblank
  | case3 start c rest hblank scanned text ih =>
    have htext : c :: rest = text ++ scanned.2.2 := by
      rw [List.cons_append, scanToken_append]
    rcases List.mem_cons.1 h with rfl | h
    · obtain ⟨hc, hscan⟩ := scanToken_ident (beq_iff_eq.1 hident)
      refine ⟨[], scanned.2.2, by simpa using htext, by simp [Text.byteLength], ?_, ?_, by simp, ?_⟩
      · simp [text]
      · simp only [String.toList_ofList, text, List.mem_cons, forall_eq_or_imp]
        refine ⟨hc, fun x hx => ?_⟩
        rw [hscan] at hx
        exact List.all_eq_true.1 List.all_takeWhile x hx
      · intro y hy
        rw [show scanned.2.2 = rest.dropWhile isIdentChar from congrArg Prod.snd hscan] at hy
        exact head?_dropWhile_eq_false hy
    · rw [htext]
      exact (ih h).append_left (parts_scanToken c rest)

theorem le_offset_of_mem_tokenizeFrom {start : Nat} {text : List Char} {t : Token}
    (h : t ∈ tokenizeFrom start text) : start ≤ t.offset := by
  fun_induction tokenizeFrom start text with
  | case1 => cases h
  | case2 start c rest _ ih => exact Nat.le_trans (Nat.le_add_right _ _) (ih h)
  | case3 start c rest _ scanned text ih =>
    rcases List.mem_cons.1 h with rfl | h
    · exact Nat.le_refl start
    · exact Nat.le_trans (Nat.le_add_right _ _) (ih h)

/-- Tokens stand in the order of their offsets. -/
theorem pairwise_tokenizeFrom (start : Nat) (text : List Char) :
    (tokenizeFrom start text).Pairwise (fun t u => t.offset < u.offset) := by
  fun_induction tokenizeFrom start text with
  | case1 => exact .nil
  | case2 start c rest _ ih => exact ih
  | case3 start c rest _ scanned text ih =>
    refine .cons (fun u hu => ?_) ih
    have hsize : 0 < Text.byteLength text := Nat.add_pos_left (Char.utf8Size_pos c) _
    have hle := le_offset_of_mem_tokenizeFrom hu
    show start < u.offset
    omega

end Source

end Guideline
