import Guideline.Proofs.Source.Continuation
import Guideline.Proofs.Source.Provenance
import Guideline.Proofs.Source.Tokenization
import Guideline.Proofs.Text.ByteOrder

/-!
# Labels measured in bytes

`labelEnd?` finds the end of the leading labels of a text as a byte position, going on from label to
label, and looks for the colon of a `case` label byte by byte. It cuts the text at positions that could
lie past its end or inside of a character, and fails there (`Text.splitBytes?`). It does neither: the
position is that of the characters that `labelsLength` counts (`labelEnd?_eq`), so the text can be cut
there, and no label is left behind it (`labelsLength_drop`).
-/

namespace Guideline

namespace Text

/-- Cuts a text at a byte position. Fails past the end of the text and inside of a character. -/
def splitBytes? : Nat → List Char → Option (List Char × List Char)
  | 0, cs => some ([], cs)
  | _ + 1, [] => none
  | n + 1, c :: cs =>
    if c.utf8Size ≤ n + 1 then
      (splitBytes? (n + 1 - c.utf8Size) cs).map fun parts => (c :: parts.1, parts.2)
    else none

theorem splitBytes?_append (a b : List Char) : splitBytes? (byteLength a) (a ++ b) = some (a, b) := by
  induction a with
  | nil => rw [byteLength, splitBytes?, List.nil_append]
  | cons c a ih =>
    have hpos := c.utf8Size_pos
    obtain ⟨n, hn⟩ : ∃ n, byteLength (c :: a) = n + 1 :=
      ⟨byteLength (c :: a) - 1, by rw [byteLength]; omega⟩
    have hrest : n + 1 - c.utf8Size = byteLength a := by
      rw [byteLength] at hn
      omega
    rw [hn, List.cons_append, splitBytes?, if_pos (by rw [byteLength] at hn; omega), hrest, ih]
    rfl

theorem of_splitBytes? {n : Nat} {cs : List Char} {parts : List Char × List Char}
    (h : splitBytes? n cs = some parts) : cs = parts.1 ++ parts.2 ∧ byteLength parts.1 = n := by
  induction cs generalizing n parts with
  | nil =>
    cases n with
    | zero =>
      obtain rfl := Option.some.inj h
      exact ⟨rfl, rfl⟩
    | succ n => cases h
  | cons c cs ih =>
    cases n with
    | zero =>
      obtain rfl := Option.some.inj h
      exact ⟨rfl, rfl⟩
    | succ n =>
      rw [splitBytes?] at h
      split_ifs at h with hle
      obtain ⟨parts', hparts, rfl⟩ := Option.map_eq_some_iff.1 h
      obtain ⟨rfl, hlength⟩ := ih hparts
      refine ⟨rfl, ?_⟩
      rw [byteLength, hlength]
      omega

/-- The byte of a colon is no part of another character. -/
theorem eq_colon_of_mem {c : Char} (h : (0x3A : UInt8) ∈ String.utf8EncodeChar c) : c = ':' := by
  have hbyte : ∀ {n : Nat}, n < 256 → 0x3A = UInt8.ofNat n → n = 0x3A := by
    intro n hn heq
    have := congrArg UInt8.toNat heq
    rw [UInt8.toNat_ofNat_of_lt' hn] at this
    exact this.symm
  simp only [String.utf8EncodeChar] at h
  generalize hv : c.val.toNat = v at h
  split_ifs at h
  · have := hbyte (by omega) (List.mem_singleton.1 h)
    subst this
    exact Char.ext (UInt32.toNat_inj.1 hv)
  -- All bytes of a longer code are at least `0x80`.
  all_goals simp only [List.mem_cons, List.not_mem_nil, or_false] at h
  · rcases h with h | h <;> exact absurd (hbyte (by omega) h) (by omega)
  · rcases h with h | h | h <;> exact absurd (hbyte (by omega) h) (by omega)
  · rcases h with h | h | h | h <;> exact absurd (hbyte (by omega) h) (by omega)

end Text

namespace Source

/-- The number of bytes before the first colon that is not part of `::`. -/
def singleColonByte? : List UInt8 → Option Nat
  | [] => none
  | [b] => if b = 0x3A then some 0 else none
  | b :: b' :: rest =>
    if b = 0x3A then
      if b' = 0x3A then (singleColonByte? rest).map (· + 2) else some 0
    else (singleColonByte? (b' :: rest)).map (· + 1)

theorem singleColonByte?_cons {b : UInt8} (h : b ≠ 0x3A) (bytes : List UInt8) :
    singleColonByte? (b :: bytes) = (singleColonByte? bytes).map (· + 1) := by
  cases bytes with
  | nil => exact if_neg h
  | cons b' bytes => rw [singleColonByte?, if_neg h]

theorem singleColonByte?_append {before : List UInt8} (h : 0x3A ∉ before) (bytes : List UInt8) :
    singleColonByte? (before ++ bytes) = (singleColonByte? bytes).map (· + before.length) := by
  induction before with
  | nil => simp
  | cons b before ih =>
    rw [List.mem_cons, not_or] at h
    rw [List.cons_append, singleColonByte?_cons (Ne.symm h.1), ih h.2, Option.map_map]
    rfl

theorem singleColonByte?_single {bytes : List UInt8} (h : bytes.head? ≠ some 0x3A) :
    singleColonByte? (0x3A :: bytes) = some 0 := by
  cases bytes with
  | nil => rfl
  | cons b bytes =>
    rw [singleColonByte?, if_pos rfl, if_neg fun hb => h (by rw [hb]; rfl)]

theorem head?_encode_ne_colon {cs : List Char} (h : cs.head? ≠ some ':') :
    (Text.encode cs).head? ≠ some 0x3A := by
  cases cs with
  | nil => simp [Text.encode]
  | cons c cs =>
    intro hhead
    have hmem : (0x3A : UInt8) ∈ String.utf8EncodeChar c := by
      rw [Text.encode_cons, List.head?_append_of_ne_nil _ String.utf8EncodeChar_ne_nil] at hhead
      exact List.mem_of_mem_head? hhead
    exact h (by rw [Text.eq_colon_of_mem hmem]; rfl)

/-- The colon found among bytes is the one found among characters. -/
theorem singleColonByte?_encode (cs : List Char) : singleColonByte? (Text.encode cs) =
    (singleColon? cs).map fun n => Text.byteLength (cs.take n) := by
  fun_induction singleColon? cs with
  | case1 => rfl
  | case2 rest ih =>
    change singleColonByte? (0x3A :: 0x3A :: Text.encode rest) = _
    rw [singleColonByte?, if_pos rfl, if_pos rfl, ih, Option.map_map, Option.map_map]
    congr 1
    funext n
    simp only [Function.comp_apply, List.take_succ_cons, Text.byteLength]
    have : ':'.utf8Size = 1 := by decide
    omega
  | case3 rest hrest =>
    refine singleColonByte?_single (head?_encode_ne_colon fun hhead => ?_)
    obtain ⟨rest', rfl⟩ := List.head?_eq_some_iff.1 hhead
    exact hrest rest' rfl rfl
  | case4 c rest hrest hc ih =>
    have hbytes : (0x3A : UInt8) ∉ String.utf8EncodeChar c := fun hmem => hc (Text.eq_colon_of_mem hmem)
    rw [Text.encode_cons, singleColonByte?_append hbytes, ih, Option.map_map, Option.map_map]
    congr 1
    funext n
    simp only [Function.comp_apply, List.take_succ_cons, Text.byteLength, String.length_utf8EncodeChar]
    omega

/-- The bytes of the label that a text starts with, from the bytes of its word and the text behind. -/
def labelBytesAfter (wordLength : Nat) (word after : List Char) : Option Nat :=
  if accessLabels.contains (String.ofList word) then
    let trimmed := Text.trimStart after
    if Text.startsWith [':'] trimmed && !Text.startsWith [':', ':'] trimmed then
      some (wordLength + (Text.byteLength after - Text.byteLength trimmed) + 1)
    else none
  else if String.ofList word = "case" then
    (singleColonByte? (Text.encode after)).map (wordLength + · + 1)
  else none

/-- The bytes of the label that a text starts with, with the blanks before it. Fails where the text is
cut out of range. -/
def labelBytes? (text : List Char) : Option (Option Nat) :=
  let trimmed := Text.trimStart text
  let wordLength := Text.byteLength (trimmed.takeWhile isIdentChar)
  (Text.splitBytes? wordLength trimmed).map fun parts =>
    (labelBytesAfter wordLength parts.1 parts.2).map
      (Text.byteLength text - Text.byteLength trimmed + ·)

/-- A text that starts with a colon, but not with two. -/
theorem startsWith_single_iff {cs : List Char} :
    (Text.startsWith [':'] cs && !Text.startsWith [':', ':'] cs) = true ↔
      ∃ rest, cs = ':' :: rest ∧ rest.head? ≠ some ':' := by
  rw [Bool.and_eq_true, Bool.not_eq_true', ← Bool.not_eq_true, Text.startsWith_iff, Text.startsWith_iff]
  constructor
  · rintro ⟨⟨rest, rfl⟩, hdouble⟩
    refine ⟨rest, rfl, fun hhead => hdouble ?_⟩
    obtain ⟨rest', rfl⟩ := List.head?_eq_some_iff.1 hhead
    exact ⟨rest', rfl⟩
  · rintro ⟨rest, rfl, hhead⟩
    refine ⟨⟨rest, rfl⟩, ?_⟩
    rintro ⟨rest', hrest⟩
    obtain rfl := (List.cons.inj hrest).2
    exact hhead rfl

/-- The number of characters between the word of a label and its colon. -/
def labelColon? (word after : List Char) : Option Nat :=
  if accessLabels.contains (String.ofList word) then
    match after.dropWhile Text.isBlank with
    | ':' :: ':' :: _ => none
    | ':' :: rest => some (after.length - rest.length - 1)
    | _ => none
  else if String.ofList word = "case" then singleColon? after
  else none

theorem labelLength?_eq_labelColon? (cs : List Char) :
    let trimmed := cs.dropWhile Text.isBlank
    let after := trimmed.dropWhile isIdentChar
    labelLength? cs =
      (labelColon? (trimmed.takeWhile isIdentChar) after).map fun n => cs.length - after.length + n + 1 :=
  rfl

theorem take_before_colon {after rest : List Char} (h : after.dropWhile Text.isBlank = ':' :: rest) :
    after = after.takeWhile Text.isBlank ++ ':' :: rest ∧
      after.take (after.length - rest.length - 1) = after.takeWhile Text.isBlank := by
  have hsplit : after = after.takeWhile Text.isBlank ++ ':' :: rest := by
    rw [← h, List.takeWhile_append_dropWhile]
  have hlength : after.length - rest.length - 1 = (after.takeWhile Text.isBlank).length := by
    have := congrArg List.length hsplit
    rw [List.length_append, List.length_cons] at this
    omega
  refine ⟨hsplit, ?_⟩
  rw [hlength]
  nth_rewrite 2 [hsplit]
  exact List.take_left

/-- The colon of a label is found at the same place among bytes and among characters. -/
theorem labelBytesAfter_eq (n : Nat) (word after : List Char) : labelBytesAfter n word after =
    (labelColon? word after).map fun k => n + Text.byteLength (after.take k) + 1 := by
  rw [labelBytesAfter, labelColon?]
  split_ifs with haccess hcase
  · split
    · rename_i rest heq
      have hdouble : ¬ (Text.startsWith [':'] (Text.trimStart after) &&
          !Text.startsWith [':', ':'] (Text.trimStart after)) = true := by
        rw [startsWith_single_iff, Text.trimStart, heq]
        rintro ⟨rest', hrest, hhead⟩
        obtain rfl := (List.cons.inj hrest).2
        exact hhead rfl
      simp only [hdouble]
      rfl
    · rename_i rest hsingle heq
      have hcolon : (Text.startsWith [':'] (Text.trimStart after) &&
          !Text.startsWith [':', ':'] (Text.trimStart after)) = true := by
        rw [startsWith_single_iff, Text.trimStart, heq]
        refine ⟨rest, rfl, fun hhead => ?_⟩
        obtain ⟨rest', rfl⟩ := List.head?_eq_some_iff.1 hhead
        exact hsingle rest' rfl
      obtain ⟨hsplit, htake⟩ := take_before_colon heq
      have hbytes : Text.byteLength after - Text.byteLength (Text.trimStart after) =
          Text.byteLength (after.takeWhile Text.isBlank) := by
        have := congrArg Text.byteLength hsplit
        rw [Text.byteLength_append] at this
        rw [Text.trimStart, heq]
        omega
      simp only [hcolon, if_true, Option.map_some, hbytes, htake]
    · rename_i hdouble hsingle
      have hnone : ¬ (Text.startsWith [':'] (Text.trimStart after) &&
          !Text.startsWith [':', ':'] (Text.trimStart after)) = true := by
        rw [startsWith_single_iff]
        rintro ⟨rest, hrest, -⟩
        exact hsingle rest hrest
      simp only [hnone]
      rfl
  · rw [singleColonByte?_encode, Option.map_map]
    rfl
  · rfl

theorem labelColon?_eq_some {word after : List Char} {k : Nat} (h : labelColon? word after = some k) :
    ∃ v, after = after.take k ++ ':' :: v := by
  rw [labelColon?] at h
  split_ifs at h
  · split at h
    · cases h
    · rename_i rest _ heq
      obtain ⟨hsplit, htake⟩ := take_before_colon heq
      obtain rfl := Option.some.inj h
      exact ⟨rest, by rw [htake]; exact hsplit⟩
    · cases h
  · obtain ⟨p, q, rfl, rfl⟩ := singleColon?_eq_some h
    exact ⟨q, by rw [List.take_left]⟩

/-- The label that a text starts with is never cut out of range, and it has the bytes of the characters
that `labelLength?` counts. -/
theorem labelBytes?_eq (cs : List Char) :
    labelBytes? cs = some ((labelLength? cs).map fun n => Text.byteLength (cs.take n)) := by
  let blanks := cs.takeWhile Text.isBlank
  let trimmed := cs.dropWhile Text.isBlank
  let word := trimmed.takeWhile isIdentChar
  let after := trimmed.dropWhile isIdentChar
  have htrimmed : trimmed = word ++ after := List.takeWhile_append_dropWhile.symm
  have hcs : cs = blanks ++ (word ++ after) := by
    rw [← htrimmed]
    exact List.takeWhile_append_dropWhile.symm
  have hsplit : Text.splitBytes? (Text.byteLength word) trimmed = some (word, after) := by
    rw [htrimmed]
    exact Text.splitBytes?_append word after
  have hbefore : Text.byteLength cs - Text.byteLength trimmed = Text.byteLength blanks := by
    have := Text.byteLength_append blanks trimmed
    rw [htrimmed, ← hcs] at this
    rw [htrimmed]
    omega
  have hlabel : labelBytes? cs =
      some ((labelBytesAfter (Text.byteLength word) word after).map (Text.byteLength blanks + ·)) := by
    rw [labelBytes?, ← hbefore]
    exact congrArg _ hsplit
  rw [hlabel, labelBytesAfter_eq, labelLength?_eq_labelColon?, Option.map_map, Option.map_map]
  refine congrArg some (Option.map_congr fun k hk => ?_)
  obtain ⟨v, hv⟩ := labelColon?_eq_some hk
  -- The label ends behind the colon that stands behind the word.
  let u := after.take k
  have hk : u.length = k := by
    have := congrArg List.length hv
    rw [List.length_append, List.length_take, List.length_cons] at this
    rw [List.length_take]
    omega
  have hwhole : cs = (blanks ++ word ++ u ++ [':']) ++ v := by
    rw [hcs]
    nth_rewrite 1 [hv]
    simp [u]
  have hlength : cs.length - after.length + k + 1 = (blanks ++ word ++ u ++ [':']).length := by
    rw [hcs, ← hk]
    simp
    omega
  have hone : Text.byteLength [':'] = 1 := by decide
  change Text.byteLength blanks + (Text.byteLength word + Text.byteLength u + 1) =
    Text.byteLength (cs.take (cs.length - after.length + k + 1))
  rw [hlength]
  nth_rewrite 1 [hwhole]
  rw [List.take_left, Text.byteLength_append, Text.byteLength_append, Text.byteLength_append]
  omega

theorem labelBytes?_pos {cs : List Char} {n : Nat} (h : labelBytes? cs = some (some n)) :
    0 < n ∧ 0 < Text.byteLength cs := by
  rw [labelBytes?_eq, Option.some.injEq, Option.map_eq_some_iff] at h
  obtain ⟨k, hk, rfl⟩ := h
  obtain ⟨p, q, rfl, rfl⟩ := labelLength?_eq_some hk
  have hne : (p ++ ':' :: q).take (p.length + 1) ≠ [] := by simp
  exact ⟨Text.byteLength_pos hne, Text.byteLength_pos (by simp)⟩

theorem sub_labelBytes?_lt {text : List Char} {pos n : Nat} {parts : List Char × List Char}
    (hparts : Text.splitBytes? pos text = some parts) (hlabel : labelBytes? parts.2 = some (some n)) :
    Text.byteLength text - (pos + n) < Text.byteLength text - pos := by
  obtain ⟨rfl, rfl⟩ := Text.of_splitBytes? hparts
  have := labelBytes?_pos hlabel
  rw [Text.byteLength_append]
  omega

/-- The end of the leading labels of a text, a byte position, from the position `pos` on. Fails where the
text is cut out of range. -/
def labelEndFrom? (text : List Char) (pos : Nat) : Option Nat :=
  match hparts : Text.splitBytes? pos text with
  | none => none
  | some parts =>
    match hlabel : labelBytes? parts.2 with
    | none => none
    | some none => some pos
    | some (some n) =>
      have := sub_labelBytes?_lt hparts hlabel
      labelEndFrom? text (pos + n)
termination_by Text.byteLength text - pos

def labelEnd? (text : List Char) : Option Nat :=
  labelEndFrom? text 0

section

variable {text : List Char} {pos n : Nat} {parts : List Char × List Char}

theorem labelEndFrom?_of_none (hparts : Text.splitBytes? pos text = some parts)
    (hlabel : labelBytes? parts.2 = some none) : labelEndFrom? text pos = some pos := by
  rw [labelEndFrom?]
  split
  · next heq => cases hparts.symm.trans heq
  · next heq =>
    cases hparts.symm.trans heq
    split
    · next heq => cases hlabel.symm.trans heq
    · rfl
    · next heq => cases hlabel.symm.trans heq

theorem labelEndFrom?_of_some (hparts : Text.splitBytes? pos text = some parts)
    (hlabel : labelBytes? parts.2 = some (some n)) :
    labelEndFrom? text pos = labelEndFrom? text (pos + n) := by
  rw [labelEndFrom?]
  split
  · next heq => cases hparts.symm.trans heq
  · next heq =>
    cases hparts.symm.trans heq
    split
    · next heq => cases hlabel.symm.trans heq
    · next heq => cases hlabel.symm.trans heq
    · next heq =>
      cases hlabel.symm.trans heq
      rfl

end

theorem labelEndFrom?_eq (before rest : List Char) :
    labelEndFrom? (before ++ rest) (Text.byteLength before) =
      some (Text.byteLength (before ++ rest.take (labelsLength rest))) := by
  induction rest using labelsLength.induct generalizing before with
  | case1 rest n h hlt ih =>
    have hlabel : labelBytes? rest = some (some (Text.byteLength (rest.take n))) := by
      rw [labelBytes?_eq, h]
      rfl
    have hnext := ih (before ++ rest.take n)
    rw [List.append_assoc, List.append_assoc, List.take_append_drop, Text.byteLength_append before] at hnext
    rw [labelEndFrom?_of_some (Text.splitBytes?_append before rest) hlabel, hnext, labelsLength_of_some h,
      List.take_add]
  | case2 rest h =>
    have hlabel : labelBytes? rest = some none := by
      rw [labelBytes?_eq, h]
      rfl
    rw [labelEndFrom?_of_none (Text.splitBytes?_append before rest) hlabel, labelsLength_of_none h]
    simp

/-- The end of the labels is the place behind the characters that they have. -/
theorem labelEnd?_eq (text : List Char) :
    labelEnd? text = some (Text.byteLength (text.take (labelsLength text))) :=
  labelEndFrom?_eq [] text

/-- Behind the labels there is none. -/
theorem labelsLength_drop (cs : List Char) : labelsLength (cs.drop (labelsLength cs)) = 0 := by
  fun_induction labelsLength cs with
  | case1 cs n h hlt ih => rwa [List.drop_drop] at ih
  | case2 cs h => exact labelsLength_of_none h

end Source

end Guideline
