import Guideline.Proofs.Collection.Selection
import Guideline.Proofs.Collection.Sorted
import Guideline.Proofs.Collection.StableSort
import Guideline.Proofs.Except
import Guideline.Rule.Set
import Mathlib.Data.List.Nodup
import Mathlib.Data.List.Sort

/-!
# What a rule document means

A document on top of its base is a map: `RuleSet.definitionOf?` is the definition that an identifier
has in it, `RuleSet.ruleOf?` what becomes of this definition. Loading succeeds if and only if the
document defines no identifier twice, changes only what is defined and makes a rule of every
definition that is not switched off; the rule set is then the map `ruleOf?`. So the order of the
definitions does not show.
-/

namespace Guideline

/-! ### Merging definitions -/

namespace Definition

variable {d : Definition} {ds : List Definition}

/-- The definition that an identifier has in a list. -/
def lookup? (ds : List Definition) (id : String) : Option Definition :=
  ds.find? (·.id = id)

theorem lookup?_cons (d : Definition) (ds : List Definition) (id : String) :
    lookup? (d :: ds) id = if d.id = id then some d else lookup? ds id := by
  rw [lookup?, List.find?_cons]
  split_ifs with h <;> simp [h, lookup?]

theorem lookup?_isSome_iff {id : String} : (lookup? ds id).isSome ↔ id ∈ ds.map Definition.id := by
  rw [lookup?, List.find?_isSome, List.mem_map]
  simp

theorem lookup?_replaceIn (d : Definition) (ds : List Definition) (id : String) :
    lookup? (d.replaceIn ds) id = if d.id = id then some d else lookup? ds id := by
  induction ds with
  | nil => exact lookup?_cons d [] id
  | cons e ds ih =>
    rw [replaceIn]
    by_cases he : e.id = d.id
    · rw [if_pos he, lookup?_cons, lookup?_cons, he]
      split_ifs <;> rfl
    · rw [if_neg he, lookup?_cons, ih, lookup?_cons]
      split_ifs with hi hd
      · exact absurd (hi.trans hd.symm) he
      all_goals rfl

theorem map_id_replaceIn (d : Definition) (ds : List Definition) : (d.replaceIn ds).map Definition.id =
    if d.id ∈ ds.map Definition.id then ds.map Definition.id else ds.map Definition.id ++ [d.id] := by
  induction ds with
  | nil => rfl
  | cons e ds ih =>
    rw [replaceIn]
    split_ifs with he hmem hmem
    · simp [he]
    · exact absurd (by simp [he]) hmem
    · rw [List.map_cons, ih, if_pos (by simpa [Ne.symm he] using hmem)]
      rfl
    · rw [List.map_cons, ih, if_neg (by simpa [Ne.symm he] using hmem)]
      rfl

theorem nodup_replaceIn (h : (ds.map Definition.id).Nodup) :
    ((d.replaceIn ds).map Definition.id).Nodup := by
  rw [map_id_replaceIn]
  split_ifs with hmem
  · exact h
  · exact (List.perm_append_singleton _ _).nodup_iff.2 (List.nodup_cons.2 ⟨hmem, h⟩)

theorem lookup?_addMissing (ds : List Definition) (d : Definition) (id : String) :
    lookup? (addMissing ds d) id = (lookup? ds id).or (lookup? [d] id) := by
  rw [addMissing]
  split_ifs with hany
  · rw [lookup?_cons]
    split_ifs with hid
    · obtain ⟨e, he⟩ : ∃ e, lookup? ds id = some e := by
        rw [← Option.isSome_iff_exists, lookup?_isSome_iff, ← hid]
        simpa using hany
      rw [he]
      rfl
    · exact (Option.or_none ..).symm
  · exact List.find?_append ..

theorem nodup_addMissing (h : (ds.map Definition.id).Nodup) :
    ((addMissing ds d).map Definition.id).Nodup := by
  rw [addMissing]
  split_ifs with hany
  · exact h
  · rw [List.map_append, List.map_singleton]
    exact (List.perm_append_singleton _ _).nodup_iff.2 (List.nodup_cons.2 ⟨by simpa using hany, h⟩)

theorem firstDuplicate_eq_none_iff {seen : List String} :
    firstDuplicate seen ds = none ↔ (ds.map Definition.id).Nodup ∧ ∀ d ∈ ds, d.id ∉ seen := by
  induction ds generalizing seen with
  | nil => simp [firstDuplicate]
  | cons d ds ih =>
    rw [firstDuplicate, List.map_cons, List.nodup_cons, List.forall_mem_cons]
    split_ifs with hseen
    · simp [List.contains_iff_mem.1 hseen]
    · rw [List.contains_iff_mem] at hseen
      rw [ih]
      grind

end Definition

namespace RuleSet

open Definition

/-- The definition that an identifier has in a document with the given definitions: the one of the
document, else the one of its base, else the one of a note. -/
def definitionOf? (base definitions : List Definition) (id : String) : Option Definition :=
  (lookup? definitions id).or ((lookup? base id).or (lookup? noteDefinitions id))

theorem lookup?_foldl_replaceIn {base definitions : List Definition}
    (h : (definitions.map Definition.id).Nodup) (id : String) :
    lookup? (definitions.foldl (fun ds d => d.replaceIn ds) base) id =
      (lookup? definitions id).or (lookup? base id) := by
  induction definitions generalizing base with
  | nil => rfl
  | cons d definitions ih =>
    obtain ⟨hd, hrest⟩ := List.nodup_cons.1 h
    rw [List.foldl_cons, ih hrest, lookup?_replaceIn, lookup?_cons]
    split_ifs with hid
    · have hnone : lookup? definitions id = none := by
        rw [← Option.not_isSome_iff_eq_none, lookup?_isSome_iff, ← hid]
        exact hd
      rw [hnone]
      rfl
    · rfl

theorem lookup?_merge {base definitions : List Definition} (h : (definitions.map Definition.id).Nodup)
    (id : String) : lookup? (merge base definitions) id = definitionOf? base definitions id := by
  have hnotes : lookup? noteDefinitions id =
      (lookup? [noteDefinitions[0]] id).or (lookup? [noteDefinitions[1]] id) := by
    change lookup? ([noteDefinitions[0]] ++ [noteDefinitions[1]]) id = _
    exact List.find?_append ..
  rw [merge, definitionOf?, hnotes, ← Option.or_assoc, ← lookup?_foldl_replaceIn h, ← Option.or_assoc,
    ← lookup?_addMissing, ← lookup?_addMissing]
  rfl

theorem nodup_merge {base definitions : List Definition} (h : (base.map Definition.id).Nodup) :
    ((merge base definitions).map Definition.id).Nodup := by
  have hfold : ((definitions.foldl (fun ds d => d.replaceIn ds) base).map Definition.id).Nodup := by
    induction definitions generalizing base with
    | nil => exact h
    | cons d definitions ih => exact ih (nodup_replaceIn h)
  exact nodup_addMissing (nodup_addMissing hfold)

/-! ### Checked definitions -/

theorem id_of_rule_eq_ok {d : Definition} {rule : Rule} (h : d.rule = .ok rule) : rule.id = d.id := by
  simp only [Definition.rule, bind_eq_ok_iff] at h
  obtain ⟨_, -, _, -, h⟩ := h
  cases hseverity : Severity.ofName? d.severity with
  | none =>
    rw [hseverity] at h
    cases h
  | some severity =>
    rw [hseverity] at h
    obtain ⟨_, -, h⟩ := bind_eq_ok_iff.1 h
    split at h <;>
    · obtain ⟨_, -, h⟩ := bind_eq_ok_iff.1 h
      obtain ⟨_, -, h⟩ := bind_eq_ok_iff.1 h
      rw [← Except.ok.inj h]

theorem id_changed (overrides : List (String × Override)) (d : Definition) :
    (d.changed overrides).id = d.id := by
  rw [changed]
  split <;> rfl

/-- The definitions that are not switched off. -/
def enabled (doc : RuleDocument) (base : List Definition) : List Definition :=
  (merge base doc.definitions).filter fun d => !d.isDisabled doc.overrides

/-- What becomes of the definition of an identifier. There is nothing if it is switched off; else
there is the rule that it makes with the changes under the identifier, or its fault. -/
def ruleOf? (doc : RuleDocument) (base : List Definition) (id : String) :
    Option (Except RuleError Rule) :=
  match definitionOf? base doc.definitions id, Collection.find? id doc.overrides with
  | none, _ => none
  | some d, none => some d.rule
  | some d, some change => if change.enabled = some false then none else some (change.apply d).rule

theorem ruleOf?_of_id {doc : RuleDocument} {base : List Definition} {d : Definition}
    (h : definitionOf? base doc.definitions d.id = some d) : ruleOf? doc base d.id =
      if d.isDisabled doc.overrides then none else some (d.changed doc.overrides).rule := by
  rw [ruleOf?, h, isDisabled, changed]
  cases Collection.find? d.id doc.overrides with
  | none => rfl
  | some change => simp

section

variable {doc : RuleDocument} {base : List Definition}

theorem definitionOf?_eq_some_iff (hbase : (base.map Definition.id).Nodup)
    (hdoc : (doc.definitions.map Definition.id).Nodup) {id : String} {d : Definition} :
    definitionOf? base doc.definitions id = some d ↔ d ∈ merge base doc.definitions ∧ d.id = id := by
  rw [← lookup?_merge hdoc]
  exact Collection.find?_key_eq_some_iff (nodup_merge hbase)

theorem ruleOf?_eq_some_iff (hbase : (base.map Definition.id).Nodup)
    (hdoc : (doc.definitions.map Definition.id).Nodup) {id : String} {made : Except RuleError Rule} :
    ruleOf? doc base id = some made ↔
      ∃ d ∈ enabled doc base, d.id = id ∧ (d.changed doc.overrides).rule = made := by
  constructor
  · intro h
    obtain ⟨d, hd⟩ : ∃ d, definitionOf? base doc.definitions id = some d := by
      cases hd : definitionOf? base doc.definitions id with
      | none => rw [ruleOf?, hd] at h; cases h
      | some d => exact ⟨d, rfl⟩
    obtain ⟨hmem, rfl⟩ := (definitionOf?_eq_some_iff hbase hdoc).1 hd
    rw [ruleOf?_of_id hd] at h
    split_ifs at h with hoff
    exact ⟨d, List.mem_filter.2 ⟨hmem, by simpa using hoff⟩, rfl, Option.some.inj h⟩
  · rintro ⟨d, hd, rfl, rfl⟩
    obtain ⟨hmem, hon⟩ := List.mem_filter.1 hd
    rw [ruleOf?_of_id ((definitionOf?_eq_some_iff hbase hdoc).2 ⟨hmem, rfl⟩),
      if_neg (by simpa using hon)]

/-! ### Rule sets -/

/-- The rules stand in the order of their identifiers, which differ. -/
def Ascending (s : RuleSet) : Prop :=
  s.rules.Pairwise fun a b => compare a.id b.id = .lt

theorem Ascending.nodup {s : RuleSet} (h : s.Ascending) : (s.rules.map Rule.id).Nodup :=
  List.pairwise_map.2 (h.imp Collection.ne_of_compare_lt)

theorem Ascending.find?_eq_some_iff {s : RuleSet} (h : s.Ascending) {id : String} {rule : Rule} :
    s.find? id = some rule ↔ rule ∈ s.rules ∧ rule.id = id :=
  Collection.find?_key_eq_some_iff h.nodup

/-- A rule set is determined by what it finds. -/
theorem Ascending.ext {s t : RuleSet} (hs : s.Ascending) (ht : t.Ascending)
    (h : ∀ id rule, s.find? id = some rule ↔ t.find? id = some rule) : s = t := by
  have hmem : ∀ rule, rule ∈ s.rules ↔ rule ∈ t.rules := by
    intro rule
    have := h rule.id rule
    rwa [hs.find?_eq_some_iff, ht.find?_eq_some_iff, and_iff_left rfl, and_iff_left rfl] at this
  have hperm : s.rules.Perm t.rules :=
    (List.perm_ext_iff_of_nodup hs.nodup.of_map ht.nodup.of_map).2 hmem
  have heq : s.rules = t.rules := by
    refine hperm.eq_of_pairwise (fun a b _ _ hab hba => ?_) hs ht
    have hswap : compare b.id a.id = (compare a.id b.id).swap := Std.OrientedCmp.eq_swap
    rw [hswap, hab] at hba
    cases hba
  cases s
  cases t
  exact congrArg RuleSet.mk heq

theorem ascending_ofRules (rules : List Rule) : (ofRules rules).Ascending := by
  have hkey : ∀ e ∈ Collection.ofEntries compare (rules.map fun r => (r.id, r)), e.1 = e.2.id := by
    intro e he
    obtain ⟨r, -, rfl⟩ := List.mem_map.1 (Collection.mem_of_mem_ofEntries he)
    rfl
  refine List.pairwise_map.2 (List.Pairwise.imp_of_mem (fun {a b} ha hb hlt => ?_)
    (Collection.isSorted_ofEntries _))
  rwa [hkey a ha, hkey b hb] at hlt

section

variable {rules : List Rule} (h : (rules.map Rule.id).Nodup)

include h

theorem ofRules_perm : ∃ entries : List (String × Rule), (ofRules rules).rules = entries.map Prod.snd ∧
    Collection.IsSorted compare entries ∧ entries.Perm (rules.map fun r => (r.id, r)) := by
  refine ⟨_, rfl, Collection.isSorted_ofEntries _, Collection.ofEntries_perm ?_⟩
  rw [List.map_map]
  exact h

theorem mem_ofRules {rule : Rule} : rule ∈ (ofRules rules).rules ↔ rule ∈ rules := by
  obtain ⟨entries, hrules, -, hperm⟩ := ofRules_perm h
  rw [hrules, (hperm.map Prod.snd).mem_iff, List.map_map]
  simp

end

/-! ### Loading -/

theorem load_eq_ok_iff {s : RuleSet} : load doc base = .ok s ↔
    (doc.definitions.map Definition.id).Nodup ∧
    (∀ key ∈ doc.overrides.map Prod.fst, key ∈ (merge base doc.definitions).map Definition.id) ∧
    ∃ rules, (enabled doc base).mapM (fun d => (d.changed doc.overrides).rule) = .ok rules ∧
      ofRules rules = s := by
  have hnodup : firstDuplicate [] doc.definitions = none ↔
      (doc.definitions.map Definition.id).Nodup := by
    rw [firstDuplicate_eq_none_iff]
    simp
  have hknown : (doc.overrides.find? fun e => !(merge base doc.definitions).any (·.id = e.1)) = none ↔
      ∀ key ∈ doc.overrides.map Prod.fst, key ∈ (merge base doc.definitions).map Definition.id := by
    simp [List.find?_eq_none]
  rw [← hnodup, ← hknown, load]
  cases firstDuplicate [] doc.definitions with
  | some key =>
    constructor
    · intro h
      cases h
    · rintro ⟨h, -⟩
      cases h
  | none =>
    cases hfind : doc.overrides.find? fun e => !(merge base doc.definitions).any (·.id = e.1) with
    | some e =>
      simp only [hfind]
      constructor
      · intro h
        cases h
      · rintro ⟨-, h, -⟩
        cases h
    | none =>
      simp only [hfind]
      refine bind_eq_ok_iff.trans ?_
      simp [pure, Except.pure, enabled]

theorem exists_load_eq_ok_iff (hbase : (base.map Definition.id).Nodup) :
    (∃ s, load doc base = .ok s) ↔
      (doc.definitions.map Definition.id).Nodup ∧
      (∀ key ∈ doc.overrides.map Prod.fst, ∃ d, definitionOf? base doc.definitions key = some d) ∧
      ∀ key made, ruleOf? doc base key = some made → ∃ rule, made = .ok rule := by
  simp only [load_eq_ok_iff, exists_and_left]
  refine and_congr_right fun hdoc => and_congr ?_ ?_
  · simp only [definitionOf?_eq_some_iff hbase hdoc, List.mem_map]
  · rw [exists_comm]
    simp only [exists_and_left, exists_eq', and_true, exists_mapM_eq_ok_iff,
      ruleOf?_eq_some_iff hbase hdoc]
    constructor
    · rintro h key made ⟨d, hd, -, rfl⟩
      exact h d hd
    · exact fun h d hd => h d.id _ ⟨d, hd, rfl, rfl⟩

theorem find?_of_load_eq_ok (hbase : (base.map Definition.id).Nodup) {s : RuleSet}
    (h : load doc base = .ok s) : s.Ascending ∧
      ∀ key rule, s.find? key = some rule ↔ ruleOf? doc base key = some (.ok rule) := by
  obtain ⟨hdoc, -, rules, hrules, rfl⟩ := load_eq_ok_iff.1 h
  have hid : ∀ (d : Definition) (rule : Rule),
      (d.changed doc.overrides).rule = .ok rule → rule.id = d.id :=
    fun d rule hmade => (id_of_rule_eq_ok hmade).trans (id_changed doc.overrides d)
  have hnodup : (rules.map Rule.id).Nodup := by
    rw [map_eq_of_mapM_eq_ok hid hrules]
    exact (nodup_merge hbase).sublist (List.filter_sublist.map Definition.id)
  have hmem : ∀ rule, rule ∈ rules ↔
      ∃ d ∈ enabled doc base, (d.changed doc.overrides).rule = .ok rule :=
    fun rule => mem_iff_of_mapM_eq_ok hrules
  have hascending := ascending_ofRules rules
  refine ⟨hascending, fun key rule => ?_⟩
  rw [hascending.find?_eq_some_iff, mem_ofRules hnodup, hmem, ruleOf?_eq_some_iff hbase hdoc]
  constructor
  · rintro ⟨⟨d, hd, hmade⟩, rfl⟩
    exact ⟨d, hd, (hid d rule hmade).symm, hmade⟩
  · rintro ⟨d, hd, rfl, hmade⟩
    exact ⟨⟨d, hd, hmade⟩, hid d rule hmade⟩

theorem lookup?_perm {ds ds' : List Definition} (hperm : ds.Perm ds') (h : (ds'.map Definition.id).Nodup) :
    lookup? ds = lookup? ds' := by
  funext key
  refine Option.ext fun d => ?_
  have h' := (hperm.map Definition.id).nodup_iff.2 h
  rw [lookup?, lookup?, Collection.find?_key_eq_some_iff h, Collection.find?_key_eq_some_iff h',
    hperm.mem_iff]

end

/-- A document loads if and only if it defines no identifier twice, changes only identifiers that are
defined, and makes a rule of every definition that it does not switch off. Its rule set then holds
these rules under their identifiers and nothing else. So the order of its definitions does not
matter. -/
theorem load_spec (doc : RuleDocument) (base : List Definition)
    (hbase : (base.map Definition.id).Nodup) :
    ((∃ s, load doc base = .ok s) ↔
      (doc.definitions.map Definition.id).Nodup ∧
      (∀ key ∈ doc.overrides.map Prod.fst, ∃ d, definitionOf? base doc.definitions key = some d) ∧
      ∀ key made, ruleOf? doc base key = some made → ∃ rule, made = .ok rule) ∧
    (∀ s, load doc base = .ok s →
      (s.rules.Pairwise fun a b => compare a.id b.id = .lt) ∧
      ∀ key rule, s.find? key = some rule ↔ ruleOf? doc base key = some (.ok rule)) ∧
    ∀ definitions, definitions.Perm doc.definitions →
      ∀ s, load { doc with definitions } base = .ok s ↔ load doc base = .ok s := by
  refine ⟨exists_load_eq_ok_iff hbase, fun s h => find?_of_load_eq_ok hbase h, ?_⟩
  -- A document whose definitions are rearranged fulfils the same conditions and finds the same rules.
  have hone : ∀ {doc doc' : RuleDocument} {s : RuleSet}, doc'.definitions.Perm doc.definitions →
      doc'.overrides = doc.overrides → load doc base = .ok s → load doc' base = .ok s := by
    intro doc doc' s hperm hover h
    obtain ⟨hdoc, hknown, hrules⟩ := (exists_load_eq_ok_iff hbase).1 ⟨s, h⟩
    have hdef : definitionOf? base doc'.definitions = definitionOf? base doc.definitions := by
      funext key
      rw [definitionOf?, definitionOf?, lookup?_perm hperm hdoc]
    have hrule : ruleOf? doc' base = ruleOf? doc base := by
      funext key
      rw [ruleOf?, ruleOf?, hdef, hover]
    obtain ⟨s', h'⟩ : ∃ s', load doc' base = .ok s' := by
      refine (exists_load_eq_ok_iff hbase).2 ⟨(hperm.map Definition.id).nodup_iff.2 hdoc, ?_, ?_⟩
      · rwa [hover, hdef]
      · rwa [hrule]
    obtain ⟨hasc, hfind⟩ := find?_of_load_eq_ok hbase h
    obtain ⟨hasc', hfind'⟩ := find?_of_load_eq_ok hbase h'
    rw [h', hasc'.ext hasc fun key rule => by rw [hfind', hfind, hrule]]
  exact fun definitions hperm s => ⟨hone hperm.symm rfl, hone hperm rfl⟩

/-- Two rules to start from. -/
def sampleBase : List Definition :=
  [{ id := "tabs", category := "formatting", description := "No tabs", severity := "info",
     check := some "tab_indentation" },
    { id := "width", category := "formatting", description := "Short lines", severity := "info",
      check := some "line_length", max := some 80 }]

/-- A document that defines a rule anew with a severity that only its change makes valid, adds a
rule, switches one off and changes a note. -/
def sampleDocument : RuleDocument where
  definitions :=
    [{ id := "tabs", category := "formatting", description := "Blanks only", severity := "high",
       check := some "tab_indentation" },
      { id := "blanks", category := "formatting", description := "No blanks at ends",
        severity := "info", check := some "trailing_whitespace" }]
  overrides :=
    [("tabs", { severity := some "error" }), ("unreadable_file", { severity := some "warning" }),
      ("width", { enabled := some false })]

theorem load_sampleDocument : (sampleBase.map Definition.id).Nodup ∧
    ∃ s, load sampleDocument sampleBase = .ok s ∧
      load { sampleDocument with definitions := sampleDocument.definitions.reverse } sampleBase = .ok s ∧
      (∃ rule, s.find? "tabs" = some rule ∧ rule.severity = .error) ∧
      ∀ rule, s.find? "width" ≠ some rule := by
  have hbase : (sampleBase.map Definition.id).Nodup := by decide
  obtain ⟨-, hrules, horder⟩ := load_spec sampleDocument sampleBase hbase
  obtain ⟨s, hs⟩ : ∃ s, load sampleDocument sampleBase = .ok s := ⟨_, rfl⟩
  refine ⟨hbase, s, hs, (horder _ (List.reverse_perm _) s).2 hs, ?_, fun rule => ?_⟩
  · exact ⟨_, ((hrules s hs).2 "tabs" _).2 rfl, rfl⟩
  · rw [Ne, (hrules s hs).2]
    exact nofun

end RuleSet

end Guideline
