import Guideline.Proofs.Collection.Selection
import Guideline.Proofs.Review.Origin
import Mathlib.Data.List.Flatten
import Mathlib.Data.List.Perm.Basic

/-!
# Rules that cannot be evaluated

With the matchers of the library a rule of a document fails on a file only if it measures functions
and the braces of the file do not balance. Such a rule leaves one note, unless the document switches
the note off, and the other rules find what they find without it (`allViolations_of_ruleSet`).
-/

namespace Guideline

/-! ### Notes of a document -/

namespace RuleDocument

variable {doc : RuleDocument} {base : List Definition} {rules : RuleSet}

theorem nodup_baseDefinitions (h : doc.baseDefinitions = .ok base) :
    (base.map Definition.id).Nodup := by
  have hbuiltin : (Builtin.definitions.map Definition.id).Nodup := by decide
  unfold baseDefinitions at h
  split at h
  · rw [← Except.ok.inj h]
    exact hbuiltin
  · split_ifs at h
    · rw [← Except.ok.inj h]
      exact hbuiltin
    · rw [← Except.ok.inj h]
      exact List.nodup_nil

/-- The document switches off what has the identifier. -/
def switchesOff (doc : RuleDocument) (id : String) : Bool :=
  (Collection.find? id doc.overrides).any (·.enabled = some false)

theorem exists_find?_iff_of_ruleSet (h : doc.ruleSet = .ok rules) {id : String}
    (hid : id ∈ noteDefinitions.map Definition.id) :
    (∃ rule, rules.find? id = some rule) ↔ doc.switchesOff id = false := by
  obtain ⟨base, hbase, hload⟩ := bind_eq_ok_iff.1 h
  have hnodup := nodup_baseDefinitions hbase
  obtain ⟨-, hfind⟩ := RuleSet.find?_of_load_eq_ok hnodup hload
  obtain ⟨-, -, hok⟩ := (RuleSet.exists_load_eq_ok_iff hnodup).1 ⟨rules, hload⟩
  -- An identifier of a note has a definition, whatever the document defines.
  obtain ⟨d, hd⟩ : ∃ d, RuleSet.definitionOf? base doc.definitions id = some d := by
    obtain ⟨d, hd⟩ := Option.isSome_iff_exists.1 (Definition.lookup?_isSome_iff.2 hid)
    rw [RuleSet.definitionOf?, hd]
    cases Definition.lookup? doc.definitions id <;> cases Definition.lookup? base id <;>
      exact ⟨_, rfl⟩
  have hmade : (∃ made, RuleSet.ruleOf? doc base id = some made) ↔ doc.switchesOff id = false := by
    rw [RuleSet.ruleOf?, hd, switchesOff]
    cases Collection.find? id doc.overrides with
    | none => simp
    | some change => by_cases hoff : change.enabled = some false <;> simp [hoff]
  rw [← hmade]
  constructor
  · rintro ⟨rule, hrule⟩
    exact ⟨_, (hfind id rule).1 hrule⟩
  · rintro ⟨made, hmade⟩
    obtain ⟨rule, rfl⟩ := hok id made hmade
    exact ⟨rule, (hfind id rule).2 hmade⟩

end RuleDocument

/-! ### Rules that fail -/

/-- The rule measures functions and the braces of the file do not balance. -/
def Rule.isUnmeasurable (source : SourceFile) (rule : Rule) : Bool :=
  rule.detection.isLength && source.firstUnbalanced.isSome

theorem Rule.isUnmeasurable_iff {source : SourceFile} {rule : Rule} :
    rule.isUnmeasurable source = true ↔
      (∃ max, rule.detection = .structural (.functionLength max)) ∧
        ∃ line, source.firstUnbalanced = some line := by
  rw [isUnmeasurable, Bool.and_eq_true, Detection.isLength_iff, Option.isSome_iff_exists]

namespace Reviewer

variable {r : Reviewer} {file : CheckedFile}

section

variable (hm : r.matchers.Perm Matcher.all) {rule : Rule} (hrule : rule ∈ r.rules.rulesFor file.kind)

include hm hrule

theorem checkRule_eq : ∃ m, rule.detection.matcher? = some m ∧ r.checkRule file rule =
    (m.check file rule).mapError fun e => s!"Rule '{rule.id}' skipped: {e.message}" := by
  obtain ⟨m, hsome⟩ := Detection.isSome_matcher? (RuleSet.mem_rulesFor.1 hrule).2.2
  refine ⟨m, hsome, ?_⟩
  rw [checkRule, Detection.find?_handles hm, hsome]

theorem exists_checkRule_eq_error_iff :
    (∃ reason, r.checkRule file rule = .error reason) ↔ rule.isUnmeasurable file.source = true := by
  obtain ⟨m, hsome, heq⟩ := checkRule_eq hm hrule
  have herror : ∀ e, rule.detection.findings file.source = .error e ↔ _ :=
    fun e => Detection.findings_eq_error_iff
  rw [heq, Matcher.check_of_handles (Detection.handles_iff.2 hsome), Rule.isUnmeasurable,
    Bool.and_eq_true, Option.isSome_iff_exists]
  cases hfound : rule.detection.findings file.source with
  | ok found =>
    refine iff_of_false (fun ⟨_, h⟩ => by cases h) fun ⟨hlength, line, hline⟩ => ?_
    have := (herror (.unbalanced line)).2 ⟨hlength, line, hline, rfl⟩
    rw [hfound] at this
    cases this
  | error e =>
    obtain ⟨hlength, line, hline, -⟩ := (herror e).1 hfound
    exact iff_of_true ⟨_, rfl⟩ ⟨hlength, line, hline⟩

end

theorem length_note (r : Reviewer) (file : CheckedFile) (id reason : String) :
    (r.note file id reason).length = if (r.rules.find? id).isSome then 1 else 0 := by
  rw [note]
  cases r.rules.find? id <;> rfl

/-- The notes that rules cannot be evaluated. -/
def failureNotes (r : Reviewer) (file : CheckedFile) : List Violation :=
  (r.rules.rulesFor file.kind).flatMap fun rule =>
    match r.checkRule file rule with
    | .ok _ => []
    | .error reason => r.note file matcherFailureId reason

/-- The reviewer without the rules that cannot be evaluated for a file. -/
def measurable (r : Reviewer) (source : SourceFile) : Reviewer :=
  { r with rules := ⟨r.rules.rules.filter fun rule => !rule.isUnmeasurable source⟩ }

theorem rulesFor_measurable (r : Reviewer) (source : SourceFile) (kind : FileKind) :
    (r.measurable source).rules.rulesFor kind =
      (r.rules.rulesFor kind).filter fun rule => !rule.isUnmeasurable source :=
  List.filter_comm ..

section

variable (hm : r.matchers.Perm Matcher.all)

include hm

/-- The rules that fail give the notes, one each. -/
theorem failureNotes_eq_flatMap : r.failureNotes file =
    ((r.rules.rulesFor file.kind).filter (·.isUnmeasurable file.source)).flatMap
      (r.ruleViolations file) := by
  rw [failureNotes, Collection.flatMap_filter]
  refine List.flatMap_congr fun rule hrule => ?_
  have hiff := exists_checkRule_eq_error_iff hm hrule
  rw [ruleViolations]
  cases hcheck : r.checkRule file rule with
  | ok found => rw [if_neg (by simp [← hiff, hcheck])]
  | error reason => rw [if_pos (by simp [← hiff, hcheck])]

theorem allViolations_measurable : (r.measurable file.source).allViolations file =
    ((r.rules.rulesFor file.kind).filter fun rule => !rule.isUnmeasurable file.source).flatMap
      (r.ruleViolations file) := by
  rw [allViolations, rulesFor_measurable]
  refine List.flatMap_congr fun rule hrule => ?_
  obtain ⟨hmem, hfine⟩ := List.mem_filter.1 hrule
  have hiff := exists_checkRule_eq_error_iff hm hmem
  -- Only a rule that fails asks for the note, which the smaller rule set might lack.
  have hsame : (r.measurable file.source).checkRule file rule = r.checkRule file rule := rfl
  rw [ruleViolations, ruleViolations, hsame]
  cases hcheck : r.checkRule file rule with
  | ok found => rfl
  | error reason => simp [hiff.1 ⟨reason, hcheck⟩] at hfine

theorem length_failureNotes : (r.failureNotes file).length =
    if (r.rules.find? matcherFailureId).isSome then
      ((r.rules.rulesFor file.kind).filter (·.isUnmeasurable file.source)).length
    else 0 := by
  rw [failureNotes_eq_flatMap hm, List.length_flatMap]
  have hone : ∀ rule ∈ (r.rules.rulesFor file.kind).filter (·.isUnmeasurable file.source),
      (r.ruleViolations file rule).length =
        if (r.rules.find? matcherFailureId).isSome then 1 else 0 := by
    intro rule hrule
    obtain ⟨hmem, hfails⟩ := List.mem_filter.1 hrule
    obtain ⟨reason, hreason⟩ := (exists_checkRule_eq_error_iff hm hmem).2 hfails
    rw [ruleViolations, hreason, length_note]
  rw [List.map_congr_left hone, List.map_const', List.sum_replicate_nat]
  split_ifs <;> simp

end

/-- As long as the note is not a rule of its own, its violations are the notes. -/
theorem filter_allViolations_eq_failureNotes (hasc : r.rules.Ascending)
    (hnote : ∀ rule, r.rules.find? matcherFailureId = some rule → rule.detection.isNote = true) :
    (r.allViolations file).filter (·.rule = matcherFailureId) = r.failureNotes file := by
  rw [allViolations, failureNotes, List.filter_flatMap]
  refine List.flatMap_congr fun rule hrule => ?_
  obtain ⟨hmem, -, hother⟩ := RuleSet.mem_rulesFor.1 hrule
  rw [ruleViolations]
  cases hcheck : r.checkRule file rule with
  | ok vs =>
    obtain ⟨-, found, -, rfl⟩ := of_checkRule_eq_ok hcheck
    refine List.filter_eq_nil_iff.2 fun v hv hid => ?_
    obtain ⟨f, -, rfl⟩ := List.mem_map.1 hv
    have hisNote := hnote rule (hasc.find?_eq_some_iff.2 ⟨hmem, of_decide_eq_true hid⟩)
    rw [hother] at hisNote
    cases hisNote
  | error reason =>
    refine List.filter_eq_self.2 fun v hv => ?_
    obtain ⟨noted, hnoted, rfl⟩ := mem_note.1 hv
    exact decide_eq_true (hasc.find?_eq_some_iff.1 hnoted).2

/-- A rule of a document, or of the empty document where there is none, fails on a file if and only if
it measures functions and the braces do not balance. Each rule that fails leaves one note, or none if
the document switches the note off. The other violations are those of the reviewer without the rules
that fail. -/
theorem allViolations_of_ruleSet (doc : RuleDocument) (r : Reviewer)
    (hrules : doc.ruleSet = .ok r.rules) (hm : r.matchers.Perm Matcher.all) (file : CheckedFile) :
    (∀ rule ∈ r.rules.rulesFor file.kind, (∃ reason, r.checkRule file rule = .error reason) ↔
      (∃ max, rule.detection = .structural (.functionLength max)) ∧
        ∃ line, file.source.firstUnbalanced = some line) ∧
    (r.failureNotes file).length =
      (if file.source.firstUnbalanced.isSome && !doc.switchesOff matcherFailureId then
        (r.rules.rulesFor file.kind).countP (·.detection.isLength)
      else 0) ∧
    (r.failureNotes file).Sublist (r.allViolations file) ∧
    ((r.measurable file.source).allViolations file).Sublist (r.allViolations file) ∧
    (r.allViolations file).Perm
      (r.failureNotes file ++ (r.measurable file.source).allViolations file) ∧
    ((∀ rule, r.rules.find? matcherFailureId = some rule → rule.detection.isNote = true) →
      (r.allViolations file).filter (·.rule = matcherFailureId) = r.failureNotes file) := by
  obtain ⟨base, hbase, hload⟩ := bind_eq_ok_iff.1 hrules
  have hasc := (RuleSet.find?_of_load_eq_ok (RuleDocument.nodup_baseDefinitions hbase) hload).1
  have hperm : (r.allViolations file).Perm
      (r.failureNotes file ++ (r.measurable file.source).allViolations file) := by
    rw [failureNotes_eq_flatMap hm, allViolations_measurable hm, ← List.flatMap_append]
    exact ((List.filter_append_perm _ _).flatMap fun _ _ => .refl _).symm
  refine ⟨fun rule hrule => ?_, ?_, ?_, ?_, hperm, filter_allViolations_eq_failureNotes hasc⟩
  · rw [exists_checkRule_eq_error_iff hm hrule, Rule.isUnmeasurable_iff]
  · rw [length_failureNotes hm]
    have hon : (r.rules.find? matcherFailureId).isSome = !doc.switchesOff matcherFailureId := by
      rw [Bool.eq_iff_iff, Option.isSome_iff_exists,
        RuleDocument.exists_find?_iff_of_ruleSet hrules (by simp [noteDefinitions])]
      simp
    cases hbraces : file.source.firstUnbalanced with
    | none => simp [Rule.isUnmeasurable, hbraces]
    | some line => simp [Rule.isUnmeasurable, hbraces, hon, List.countP_eq_length_filter]
  · rw [failureNotes_eq_flatMap hm]
    exact List.filter_sublist.flatMap _
  · rw [allViolations_measurable hm]
    exact List.filter_sublist.flatMap _

/-- Two rules on functions and one on lines. -/
def lengthDocument : RuleDocument where
  base := some "empty"
  definitions :=
    [{ id := "short", category := "structure", description := "Short functions", severity := "info",
       check := some "function_length", max := some 9 },
      { id := "blanks", category := "formatting", description := "No blanks at ends",
        severity := "info", check := some "trailing_whitespace" },
      { id := "long", category := "structure", description := "No long functions",
        severity := "error", check := some "function_length", max := some 99 }]

/-- The matchers are asked in another order, and both rules on functions fail. -/
theorem allViolations_openContent :
    let file : CheckedFile := ⟨"a.cc", .source, .parse openContent⟩
    Matcher.all.reverse.Perm Matcher.all ∧
    ∃ rules, lengthDocument.ruleSet = .ok rules ∧
      let r : Reviewer := { rules, matchers := Matcher.all.reverse }
      (r.failureNotes file).length = 2 ∧
      (r.allViolations file).Perm
        (r.failureNotes file ++ (r.measurable file.source).allViolations file) ∧
      (r.measurable file.source).rules.rules.map Rule.id =
        ["blanks", matcherFailureId, unreadableFileId] := by
  intro file
  have hbraces : file.source.firstUnbalanced.isSome = true := by decide +kernel
  obtain ⟨rules, hrules, hlength, hids⟩ : ∃ rules, lengthDocument.ruleSet = .ok rules ∧
      (rules.rulesFor .source).countP (·.detection.isLength) = 2 ∧
      (rules.rules.filter (!·.detection.isLength)).map Rule.id =
        ["blanks", matcherFailureId, unreadableFileId] := ⟨_, rfl, rfl, rfl⟩
  obtain ⟨-, hcount, -, -, hperm, -⟩ := allViolations_of_ruleSet lengthDocument
    { rules, matchers := Matcher.all.reverse } hrules (List.reverse_perm _) file
  refine ⟨List.reverse_perm _, rules, hrules, ?_, hperm, ?_⟩
  · rw [hcount, hbraces, ← hlength]
    rfl
  · rw [← hids]
    simp [measurable, Rule.isUnmeasurable, hbraces]

end Reviewer

end Guideline
