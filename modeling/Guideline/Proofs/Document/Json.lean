import Guideline.Document.Json
import Guideline.Document.Json.Printer
import Guideline.Proofs.Text.Printed

/-!
# Written JSON is read back

Reading goes through tokens and a stack of open lists and tables. `readFrom` is the reader from any of its
states; each part that the writer puts out takes it to the state that the part stands for, and so a whole
value is read as itself wherever it stands (`readsBack_of_writable`).
-/

namespace Guideline.Document.Json

/-! ### Texts -/

section

variable {rest after : List Char} {units : List TextUnit} (hrest : readText rest = some (units, after))

include hrest

theorem readText_escape {c e : Char} (hc : c ≠ 'u') (he : escape? c = some e) :
    readText ('\\' :: c :: rest) = some (.char e :: units, after) := by
  rw [readText.eq_4 c rest fun _ _ _ _ _ hu => absurd hu hc, he, hrest]
  rfl

theorem readText_control {n : Nat} (h : n < 32) :
    readText ('\\' :: 'u' :: '0' :: '0' :: hexDigit (n / 16) :: hexDigit (n % 16) :: rest) =
      some (.char (Char.ofNat n) :: units, after) := by
  have hdigits : ∀ n < 32, Text.digitsValue? 16 Text.hexDigit?
      ['0', '0', hexDigit (n / 16), hexDigit (n % 16)] = some n := by decide
  have hunit : TextUnit.ofNat n = .char (Char.ofNat n) := if_neg (by omega)
  rw [readText, hdigits n h, hrest]
  simp [hunit]

theorem readText_plain {c : Char} (hquote : c ≠ '"') (hbackslash : c ≠ '\\') (hcontrol : ¬ c.toNat < 32) :
    readText (c :: rest) = some (.char c :: units, after) := by
  rw [readText.eq_5 c rest hquote (fun _ _ _ _ _ h => absurd h hbackslash) fun _ _ h => absurd h hbackslash,
    if_neg hcontrol, hrest]
  rfl

/-- What is written for a character is read as the character. -/
theorem readText_escapeChar (c : Char) :
    readText (escapeChar c ++ rest) = some (.char c :: units, after) := by
  unfold escapeChar
  split_ifs with hquote hbackslash hb ht hn hf hr hcontrol
  · subst hquote
    exact readText_escape hrest (by decide) rfl
  · subst hbackslash
    exact readText_escape hrest (by decide) rfl
  · subst hb
    exact readText_escape hrest (by decide) rfl
  · subst ht
    exact readText_escape hrest (by decide) rfl
  · subst hn
    exact readText_escape hrest (by decide) rfl
  · subst hf
    exact readText_escape hrest (by decide) rfl
  · subst hr
    exact readText_escape hrest (by decide) rfl
  · have hcontrol := readText_control hrest hcontrol
    rwa [Char.ofNat_toNat] at hcontrol
  · exact readText_plain hrest hquote hbackslash hcontrol

end

theorem readText_flatMap_escapeChar (cs rest : List Char) :
    readText (cs.flatMap escapeChar ++ '"' :: rest) = some (cs.map .char, rest) := by
  induction cs with
  | nil => rfl
  | cons c cs ih =>
    rw [List.flatMap_cons, List.append_assoc]
    exact readText_escapeChar ih c

theorem joinUnits_map_char (cs : List Char) : joinUnits (cs.map .char) = some cs := by
  induction cs with
  | nil => rfl
  | cons c cs ih => rw [List.map_cons, joinUnits, ih, Option.map_some]

/-! ### Numbers and words -/

theorem head?_toDigits {n : Nat} (h : 0 < n) : (Nat.toDigits 10 n).head? ≠ some '0' := by
  induction n using Nat.strongRecOn with
  | ind n ih =>
    by_cases hn : n < 10
    · have hdigit : ∀ n < 10, 0 < n → [n.digitChar].head? ≠ some '0' := by decide
      rw [Nat.toDigits_of_lt_base hn]
      exact hdigit n hn h
    · rw [Nat.toDigits_of_base_le (by decide) (by omega), List.head?_append_of_ne_nil _ Nat.toDigits_ne_nil]
      exact ih (n / 10) (by omega) (by omega)

theorem isWhole_toDigits (n : Nat) : isWhole (Nat.toDigits 10 n) = true := by
  have hdigits : isDigits (Nat.toDigits 10 n) = true := by
    rw [isDigits, Bool.and_eq_true, List.all_eq_true]
    exact ⟨by simp, fun c => Text.isDigit_of_mem_decimal⟩
  rw [isWhole, hdigits, Bool.true_and]
  rcases Nat.eq_zero_or_pos n with rfl | hn
  · rfl
  · simp [head?_toDigits hn]

theorem wordValue?_toDigits (n : Nat) : wordValue? (Nat.toDigits 10 n) = some (.count n) := by
  have hne : ∀ {w : List Char} {c : Char}, c ∈ w → c.isDigit = false → Nat.toDigits 10 n ≠ w := by
    intro w c hc hdigit heq
    rw [Text.isDigit_of_mem_decimal (heq ▸ hc)] at hdigit
    cases hdigit
  rw [wordValue?]
  · rw [if_neg (hne (c := 'l') (by decide) rfl), if_neg (hne (c := 't') (by decide) rfl),
      if_neg (hne (c := 'f') (by decide) rfl), if_pos (isWhole_toDigits n), Text.digitsValue?_toDigits]
    rfl
  · exact fun rest => hne List.mem_cons_self rfl

/-- What follows is not part of a word. -/
def EndsWord (rest : List Char) : Prop :=
  ∀ c ∈ rest.head?, isWordChar c = false

theorem endsWord_cons {c : Char} (h : isWordChar c = false) (rest : List Char) : EndsWord (c :: rest) := by
  intro d hd
  obtain rfl := Option.some.inj hd
  exact h

theorem span_word {w rest : List Char} (hw : ∀ c ∈ w, isWordChar c = true) (hrest : EndsWord rest) :
    (w ++ rest).takeWhile isWordChar = w ∧ (w ++ rest).dropWhile isWordChar = rest := by
  rw [List.takeWhile_append_of_pos hw, List.dropWhile_append_of_pos hw]
  cases rest with
  | nil => simp
  | cons c rest => simp [hrest c rfl]

/-- A character of a word makes no other token. -/
theorem isSpace_eq_false_of_isWordChar {c : Char} (h : isWordChar c = true) :
    isSpace c = false ∧ c ≠ '"' ∧ mark? c = none := by
  have hne : ∀ d, isWordChar d = false → c ≠ d := by
    rintro d hd rfl
    rw [h] at hd
    cases hd
  have hspace : ∀ d, isWordChar d = false → (c == d) = false := fun d hd => beq_false_of_ne (hne d hd)
  refine ⟨?_, hne _ rfl, ?_⟩
  · rw [isSpace, hspace _ rfl, hspace _ rfl, hspace _ rfl, hspace _ rfl]
    rfl
  · rw [mark?, if_neg (hne _ rfl), if_neg (hne _ rfl), if_neg (hne _ rfl), if_neg (hne _ rfl),
      if_neg (hne _ rfl), if_neg (hne _ rfl)]

/-! ### Tokens -/

theorem tokens?_space {c : Char} (h : isSpace c = true) (rest : List Char) :
    tokens? (c :: rest) = tokens? rest := by
  rw [tokens?, if_pos h]

theorem tokens?_newline (depth : Nat) (rest : List Char) :
    tokens? (newline depth ++ rest) = tokens? rest := by
  rw [newline, List.cons_append, tokens?_space rfl]
  induction 2 * depth with
  | zero => rfl
  | succ k ih => rw [List.replicate_succ, List.cons_append, tokens?_space rfl, ih]

theorem tokens?_mark {c : Char} {m : Token} (h : mark? c = some m) (hspace : isSpace c = false)
    (hquote : c ≠ '"') (rest : List Char) : tokens? (c :: rest) = (tokens? rest).map (m :: ·) := by
  rw [tokens?, hspace, if_neg Bool.false_ne_true, if_neg hquote, h]

theorem tokens?_writeText (s : String) (rest : List Char) :
    tokens? (writeText s ++ rest) = (tokens? rest).map (.text (some s) :: ·) := by
  have hread := readText_flatMap_escapeChar s.toList rest
  have hsplit : writeText s ++ rest = '"' :: (s.toList.flatMap escapeChar ++ '"' :: rest) := by
    simp [writeText]
  rw [hsplit, tokens?, if_neg (by decide), if_pos rfl]
  split
  · rename_i hnone
    rw [hread] at hnone
    cases hnone
  · rename_i units after hsome
    obtain ⟨rfl, rfl⟩ := Prod.mk.inj (Option.some.inj (hread.symm.trans hsome))
    rw [joinUnits_map_char, Option.map_some, String.ofList_toList]

theorem tokens?_word {w rest : List Char} {v : Value} (hw : ∀ c ∈ w, isWordChar c = true)
    (hv : wordValue? w = some v) (hne : w ≠ []) (hrest : EndsWord rest) :
    tokens? (w ++ rest) = (tokens? rest).map (.plain v :: ·) := by
  obtain ⟨c, w, rfl⟩ := List.exists_cons_of_ne_nil hne
  obtain ⟨hc, hw⟩ := List.forall_mem_cons.1 hw
  obtain ⟨hspace, hquote, hmark⟩ := isSpace_eq_false_of_isWordChar hc
  obtain ⟨htake, hdrop⟩ := span_word hw hrest
  rw [List.cons_append, tokens?, hspace, if_neg Bool.false_ne_true, if_neg hquote, hmark, if_pos hc, htake,
    hdrop, hv]
  cases tokens? rest <;> rfl

/-! ### States of the reader -/

/-- Reads the text from a state on. -/
def readFrom (state : State) (cs : List Char) : Option State :=
  (tokens? cs).bind (·.foldlM step state)

theorem readFrom_of_tokens? {cs rest : List Char} {t : Token} (h : tokens? cs = (tokens? rest).map (t :: ·))
    {state next : State} (hstep : step state t = some next) : readFrom state cs = readFrom next rest := by
  rw [readFrom, h, readFrom]
  cases tokens? rest with
  | none => rfl
  | some ts => simp [hstep]

theorem readFrom_mark {c : Char} {m : Token} (hmark : mark? c = some m) (hspace : isSpace c = false)
    (hquote : c ≠ '"') {state next : State} (hstep : step state m = some next) (rest : List Char) :
    readFrom state (c :: rest) = readFrom next rest :=
  readFrom_of_tokens? (tokens?_mark hmark hspace hquote rest) hstep

theorem readFrom_newline (state : State) (depth : Nat) (rest : List Char) :
    readFrom state (newline depth ++ rest) = readFrom state rest := by
  rw [readFrom, tokens?_newline, readFrom]

/-! ### Values -/

/-- A value that is written with all it holds. -/
inductive Writable : Value → Prop
  | null : Writable .null
  | bool (b : Bool) : Writable (.bool b)
  | count (n : Nat) : Writable (.count n)
  | text (s : String) : Writable (.text s)
  | list {items : List Value} (values : ∀ v ∈ items, Writable v) : Writable (.list items)
  | table {entries : List (String × Value)} (values : ∀ e ∈ entries, Writable e.2) :
      Writable (.table entries)

/-- The written value completes itself where a value is read, whatever follows it. -/
def ReadsBack (v : Value) : Prop :=
  ∀ depth stack mayClose rest, EndsWord rest →
    readFrom (.value stack mayClose) (write depth v ++ rest) = readFrom (complete v stack) rest

theorem readsBack_word {v : Value} {w : List Char} (hwrite : ∀ depth, write depth v = w)
    (hw : w.all isWordChar = true) (hne : w ≠ []) (hv : wordValue? w = some v) : ReadsBack v := by
  intro depth stack mayClose rest hrest
  rw [hwrite]
  exact readFrom_of_tokens? (tokens?_word (List.all_eq_true.1 hw) hv hne hrest) rfl

theorem readsBack_text (s : String) : ReadsBack (.text s) := by
  intro depth stack mayClose rest hrest
  exact readFrom_of_tokens? (tokens?_writeText s rest) rfl

theorem endsWord_newline (depth : Nat) (rest : List Char) : EndsWord (newline depth ++ rest) :=
  endsWord_cons rfl _

theorem endsWord_writeItems (depth : Nat) (items : List Value) {rest : List Char} (hrest : EndsWord rest) :
    EndsWord (writeItems depth items ++ rest) := by
  cases items with
  | nil => exact hrest
  | cons v items => exact endsWord_cons rfl _

theorem readFrom_writeItems {items : List Value} (h : ∀ v ∈ items, ReadsBack v) (depth : Nat)
    (read : List Value) (stack : List Frame) {rest : List Char} (hrest : EndsWord rest) :
    readFrom (.more (.list read) stack) (writeItems depth items ++ rest) =
      readFrom (.more (.list (items.reverse ++ read)) stack) rest := by
  induction items generalizing read with
  | nil => rfl
  | cons v items ih =>
    obtain ⟨hv, hitems⟩ := List.forall_mem_cons.1 h
    rw [writeItems]
    simp only [List.cons_append, List.append_assoc]
    rw [readFrom_mark (m := .comma) rfl rfl (by decide) rfl, readFrom_newline,
      hv depth _ _ _ (endsWord_writeItems depth items hrest), complete, ih hitems, List.reverse_cons,
      List.append_assoc]
    rfl

theorem readsBack_list {items : List Value} (h : ∀ v ∈ items, ReadsBack v) : ReadsBack (.list items) := by
  intro depth stack mayClose rest hrest
  cases items with
  | nil =>
    rw [write]
    simp only [List.cons_append, List.nil_append]
    rw [readFrom_mark (m := .openList) rfl rfl (by decide) rfl,
      readFrom_mark (m := .closeList) rfl rfl (by decide) rfl]
    rfl
  | cons v items =>
    obtain ⟨hv, hitems⟩ := List.forall_mem_cons.1 h
    rw [write]
    simp only [List.cons_append, List.append_assoc, List.nil_append]
    rw [readFrom_mark (m := .openList) rfl rfl (by decide) rfl, readFrom_newline,
      hv (depth + 1) _ _ _ (endsWord_writeItems _ _ (endsWord_newline _ _)), complete,
      readFrom_writeItems hitems _ _ _ (endsWord_newline _ _), readFrom_newline,
      readFrom_mark (m := .closeList) rfl rfl (by decide) rfl, List.reverse_append, List.reverse_reverse]
    rfl

/-- Entries as the reader keeps them, newest first. -/
def readEntries (entries : List (String × Value)) : List (Option String × Value) :=
  (entries.map fun e => (some e.1, e.2)).reverse

theorem tableOf_readEntries (entries : List (String × Value)) :
    tableOf (readEntries entries) = .table entries := by
  have hmap : entries.mapM (fun e => some (e.1, e.2)) = some (entries.map id) := List.mapM_pure
  rw [tableOf, readEntries, List.reverse_reverse, List.mapM_map]
  simp only [Function.comp_def, Option.map_some]
  rw [hmap, List.map_id]

theorem readFrom_entry {v : Value} (h : ReadsBack v) (key : String) (depth : Nat) (stack : List Frame)
    (read : List (Option String × Value)) (mayClose : Bool) {rest : List Char} (hrest : EndsWord rest) :
    readFrom (.key stack read mayClose) (writeText key ++ ':' :: ' ' :: (write depth v ++ rest)) =
      readFrom (.more (.table ((some key, v) :: read) none) stack) rest := by
  have hspace : ∀ state cs, readFrom state (' ' :: cs) = readFrom state cs := by
    intro state cs
    rw [readFrom, tokens?_space rfl, readFrom]
  rw [readFrom_of_tokens? (tokens?_writeText key _) rfl, readFrom_mark (m := .colon) rfl rfl (by decide) rfl,
    hspace, h depth _ _ _ hrest, complete]

theorem endsWord_writeEntries (depth : Nat) (entries : List (String × Value)) {rest : List Char}
    (hrest : EndsWord rest) : EndsWord (writeEntries depth entries ++ rest) := by
  cases entries with
  | nil => exact hrest
  | cons e entries => exact endsWord_cons rfl _

theorem readFrom_writeEntries {entries : List (String × Value)} (h : ∀ e ∈ entries, ReadsBack e.2)
    (depth : Nat) (read : List (Option String × Value)) (stack : List Frame) {rest : List Char}
    (hrest : EndsWord rest) :
    readFrom (.more (.table read none) stack) (writeEntries depth entries ++ rest) =
      readFrom (.more (.table (readEntries entries ++ read) none) stack) rest := by
  induction entries generalizing read with
  | nil => rfl
  | cons e entries ih =>
    obtain ⟨key, v⟩ := e
    obtain ⟨hv, hentries⟩ := List.forall_mem_cons.1 h
    rw [writeEntries]
    simp only [List.cons_append, List.append_assoc]
    rw [readFrom_mark (m := .comma) rfl rfl (by decide) rfl, readFrom_newline,
      readFrom_entry hv key depth _ _ _ (endsWord_writeEntries depth entries hrest), ih hentries]
    simp [readEntries]

theorem readsBack_table {entries : List (String × Value)} (h : ∀ e ∈ entries, ReadsBack e.2) :
    ReadsBack (.table entries) := by
  intro depth stack mayClose rest hrest
  cases entries with
  | nil =>
    rw [write]
    simp only [List.cons_append, List.nil_append]
    rw [readFrom_mark (m := .openTable) rfl rfl (by decide) rfl,
      readFrom_mark (m := .closeTable) rfl rfl (by decide) rfl]
    rfl
  | cons e entries =>
    obtain ⟨key, v⟩ := e
    obtain ⟨hv, hentries⟩ := List.forall_mem_cons.1 h
    have hall : readEntries entries ++ [(some key, v)] = readEntries ((key, v) :: entries) := by
      simp [readEntries]
    rw [write]
    simp only [List.cons_append, List.append_assoc, List.nil_append]
    rw [readFrom_mark (m := .openTable) rfl rfl (by decide) rfl, readFrom_newline,
      readFrom_entry hv key _ _ _ _ (endsWord_writeEntries _ _ (endsWord_newline _ _)),
      readFrom_writeEntries hentries _ _ _ (endsWord_newline _ _), readFrom_newline, hall,
      readFrom_mark (m := .closeTable) rfl rfl (by decide) rfl, tableOf_readEntries]

theorem readsBack_of_writable {v : Value} (h : Writable v) : ReadsBack v := by
  induction h with
  | null => exact readsBack_word (fun _ => rfl) (by decide) (by decide) rfl
  | bool b =>
    cases b with
    | true => exact readsBack_word (fun _ => rfl) (by decide) (by decide) rfl
    | false => exact readsBack_word (fun _ => rfl) (by decide) (by decide) rfl
  | count n =>
    refine readsBack_word (fun _ => rfl) (List.all_eq_true.2 fun c hc => ?_) Nat.toDigits_ne_nil
      (wordValue?_toDigits n)
    simp [isWordChar, Char.isAlphanum, Text.isDigit_of_mem_decimal hc]
  | text s => exact readsBack_text s
  | list _ ih => exact readsBack_list ih
  | table _ ih => exact readsBack_table ih

theorem read?_write {v : Value} (h : Writable v) : read? (write 0 v) = some v := by
  have hread : readFrom (.value [] false) (write 0 v) = some (.done v) := by
    have hback := readsBack_of_writable h 0 [] false [] (by simp [EndsWord])
    rw [List.append_nil] at hback
    rw [hback, complete, readFrom, tokens?]
    rfl
  obtain ⟨ts, hts, hfold⟩ := Option.bind_eq_some_iff.1 hread
  rw [read?, hts, Option.bind_eq_bind, Option.bind_some, hfold]

end Guideline.Document.Json
