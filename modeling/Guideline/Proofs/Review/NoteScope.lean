import Guideline.Proofs.Review.Failure
import Guideline.Proofs.Review.Scope

/-!
# Scopes and the identifiers of notes

A scope leaves out what a matcher finds on other lines, except under the identifier of a note: there it asks
no more than that some line of the file is in scope, whether or not the violation is a note
(`mem_reviewText_iff`). A rule that is looked for has such an identifier only if the document defines it
anew, with another check than that of a note (`isNote_iff_of_ruleSet`). Changes to the notes do not do it:
a note with a pattern would look for two things, and one with a limit has nothing to measure.
-/

namespace Guideline

/-! ### Detections of notes -/

/-- The checks of notes, by name. -/
def noteChecks : List String := ["unreadable_file", "matcher_failure"]

theorem StructuralCheck.isNote_iff {check : StructuralCheck} : check.isNote = true ↔ check.name ∈ noteChecks := by
  cases check <;> simp [isNote, name, noteChecks]

namespace Definition

variable {d : Definition}

theorem name_of_mem_checkShapes {e : String × CheckShape} (h : e ∈ checkShapes) :
    (∀ check, e.2 = .plain check → check.name = e.1) ∧
      ∀ check max, e.2 = .limited check → (check max).name = e.1 := by
  simp only [checkShapes, List.mem_cons, List.not_mem_nil, or_false] at h
  rcases h with rfl | rfl | rfl | rfl | rfl | rfl | rfl | rfl | rfl | rfl <;>
    refine ⟨fun check hcheck => ?_, fun check max hcheck => ?_⟩ <;> cases hcheck <;> rfl

theorem name_of_structuralCheck_eq_ok {name : String} {check : StructuralCheck}
    (h : d.structuralCheck name = .ok check) : check.name = name := by
  have hmem : ∀ {shape}, Collection.find? name checkShapes = some shape → (name, shape) ∈ checkShapes := by
    intro shape hshape
    obtain ⟨e, he, rfl⟩ := Option.map_eq_some_iff.1 hshape
    obtain rfl : e.1 = name := by simpa using List.find?_some he
    exact List.mem_of_find?_eq_some he
  unfold structuralCheck at h
  split at h
  · rename_i hfind _
    obtain rfl := Except.ok.inj h
    exact (name_of_mem_checkShapes (hmem hfind)).1 _ rfl
  · cases h
  · rename_i hfind _
    obtain rfl := Except.ok.inj h
    exact (name_of_mem_checkShapes (hmem hfind)).2 _ _ rfl
  · cases h
  · cases h

theorem isNote_of_patternDetection_eq_ok {source : String} {exception : Option Pattern}
    {target : MatchTarget} {detection : Detection}
    (h : d.patternDetection source exception target = .ok detection) : detection.isNote = false := by
  obtain ⟨pattern, -, h⟩ := bind_eq_ok_iff.1 h
  split at h
  · rw [← Except.ok.inj h]
    rfl
  · dsimp only at h
    split_ifs at h
    · cases h
    · obtain ⟨construct, -, h⟩ := bind_eq_ok_iff.1 h
      rw [← Except.ok.inj h]
      rfl

theorem isNote_of_textDetection_eq_ok {detection : Detection} (h : d.textDetection = .ok detection) :
    detection.isNote = false := by
  obtain ⟨target, -, h⟩ := bind_eq_ok_iff.1 h
  obtain ⟨exception, -, h⟩ := bind_eq_ok_iff.1 h
  split at h
  · obtain ⟨matcher, -, h⟩ := bind_eq_ok_iff.1 h
    rw [← Except.ok.inj h]
    rfl
  · exact isNote_of_patternDetection_eq_ok h

/-- A definition makes a note if and only if it names the check of one. -/
theorem isNote_of_detection_eq_ok {detection : Detection} (h : d.detection = .ok detection) :
    detection.isNote = true ↔ ∃ name ∈ noteChecks, d.check = some name := by
  cases hcheck : d.check with
  | none =>
    simp only [Definition.detection, hcheck] at h
    split_ifs at h
    simp [isNote_of_textDetection_eq_ok h]
  | some name =>
    simp only [Definition.detection, hcheck] at h
    split_ifs at h
    cases hname : d.structuralCheck name with
    | error e =>
      rw [hname] at h
      cases h
    | ok check =>
      rw [hname] at h
      obtain rfl : Detection.structural check = detection := Except.ok.inj h
      show check.isNote = true ↔ _
      rw [StructuralCheck.isNote_iff, name_of_structuralCheck_eq_ok hname]
      simp

theorem detection_of_rule_eq_ok {rule : Rule} (h : d.rule = .ok rule) : d.detection = .ok rule.detection := by
  simp only [Definition.rule, bind_eq_ok_iff] at h
  obtain ⟨_, -, _, -, h⟩ := h
  cases hseverity : Severity.ofName? d.severity with
  | none =>
    rw [hseverity] at h
    cases h
  | some severity =>
    rw [hseverity] at h
    obtain ⟨_, -, h⟩ := bind_eq_ok_iff.1 h
    split at h <;>
    · obtain ⟨_, -, h⟩ := bind_eq_ok_iff.1 h
      obtain ⟨detection, hdetection, h⟩ := bind_eq_ok_iff.1 h
      rw [← Except.ok.inj h, hdetection]

theorem check_changed (overrides : List (String × Override)) (d : Definition) :
    (d.changed overrides).check = d.check := by
  rw [changed]
  split <;> rfl

end Definition

/-! ### Rules under the identifiers of notes -/

theorem lookup?_baseDefinitions {doc : RuleDocument} {base : List Definition}
    (h : doc.baseDefinitions = .ok base) {id : String} (hid : Reviewer.isNoteId id = true) :
    Definition.lookup? base id = none := by
  have hbuiltin : ∀ d ∈ Builtin.definitions, Reviewer.isNoteId d.id = false := by decide
  have hbase : ∀ d ∈ base, Reviewer.isNoteId d.id = false := by
    unfold RuleDocument.baseDefinitions at h
    split at h
    · rw [← Except.ok.inj h]
      exact hbuiltin
    · split_ifs at h
      · rw [← Except.ok.inj h]
        exact hbuiltin
      · rw [← Except.ok.inj h]
        simp
  refine List.find?_eq_none.2 fun d hd heq => ?_
  obtain rfl : d.id = id := by simpa using heq
  rw [hbase d hd] at hid
  cases hid

theorem mem_noteChecks_of_mem {d : Definition} (h : d ∈ noteDefinitions) :
    ∃ name ∈ noteChecks, d.check = some name := by
  revert d
  decide

/-- The rule under the identifier of a note is a note, unless the document defines it with another check. -/
theorem isNote_iff_of_ruleSet {doc : RuleDocument} {rules : RuleSet} (h : doc.ruleSet = .ok rules)
    {rule : Rule} (hrule : rule ∈ rules.rules) (hid : Reviewer.isNoteId rule.id = true) :
    rule.detection.isNote = false ↔
      ∃ d ∈ doc.definitions, d.id = rule.id ∧ ∀ name ∈ noteChecks, d.check ≠ some name := by
  obtain ⟨base, hbase, hload⟩ := bind_eq_ok_iff.1 h
  have hnodup := RuleDocument.nodup_baseDefinitions hbase
  obtain ⟨hdoc, -⟩ := RuleSet.load_eq_ok_iff.1 hload
  obtain ⟨hasc, hfind⟩ := RuleSet.find?_of_load_eq_ok hnodup hload
  have hmade := (hfind rule.id rule).1 (hasc.find?_eq_some_iff.2 ⟨hrule, rfl⟩)
  obtain ⟨d, hd, hdid, hok⟩ := (RuleSet.ruleOf?_eq_some_iff hnodup hdoc).1 hmade
  have hnote := Definition.isNote_of_detection_eq_ok (Definition.detection_of_rule_eq_ok hok)
  rw [Definition.check_changed] at hnote
  have hdef := (RuleSet.definitionOf?_eq_some_iff hnodup hdoc).2 ⟨(List.mem_filter.1 hd).1, hdid⟩
  rw [← Bool.not_eq_true, hnote]
  -- a definition of the document goes before all others
  have hown : ∀ e ∈ doc.definitions, e.id = rule.id → e = d := by
    intro e he heid
    have hlookup : Definition.lookup? doc.definitions rule.id = some e :=
      (Collection.find?_key_eq_some_iff hdoc).2 ⟨he, heid⟩
    rw [RuleSet.definitionOf?, hlookup] at hdef
    exact Option.some.inj hdef
  constructor
  · intro hother
    refine ⟨d, ?_, hdid, fun name hname hcheck => hother ⟨name, hname, hcheck⟩⟩
    cases hlookup : Definition.lookup? doc.definitions rule.id with
    | some e =>
      obtain ⟨he, heid⟩ := (Collection.find?_key_eq_some_iff hdoc).1 hlookup
      rw [← hown e he heid]
      exact he
    | none =>
      rw [RuleSet.definitionOf?, hlookup, lookup?_baseDefinitions hbase hid,
        Option.none_or, Option.none_or] at hdef
      exact absurd (mem_noteChecks_of_mem (List.mem_of_find?_eq_some hdef)) hother
  · rintro ⟨e, he, heid, hother⟩ ⟨name, hname, hcheck⟩
    rw [← hown e he heid] at hcheck
    exact hother name hname hcheck

namespace Reviewer

variable {r : Reviewer} {file : CheckedFile} {rule : Rule} {f : Finding}

theorem Finds.mem_allViolations (h : r.Finds file rule f) : f.violation file rule ∈ r.allViolations file := by
  obtain ⟨found, hfound, hf⟩ := h.found
  refine List.mem_flatMap.2 ⟨rule, h.applies, ?_⟩
  have hcheck : r.checkRule file rule = .ok (found.map (·.violation file rule)) := by
    obtain ⟨m, hm, hhandles⟩ := h.handled
    obtain ⟨m', hm'⟩ := Option.isSome_iff_exists.1
      (List.find?_isSome.2 ⟨m, hm, hhandles⟩ : (r.matchers.find? (·.handles rule.detection)).isSome = true)
    have hhandles' : m'.handles rule.detection = true := by simpa using List.find?_some hm'
    rw [checkRule, hm']
    simp only [Matcher.check_of_handles hhandles', hfound]
    rfl
  rw [ruleViolations, hcheck]
  exact List.mem_map_of_mem hf

theorem mem_reviewText_iff {path : String} {kind : FileKind} {content : List Char} {v : Violation} :
    v ∈ r.reviewText path kind content ↔ v ∈ r.allViolations ⟨path, kind, .parse content⟩ ∧
      (Allowances.scan (.parse content)).check? v.line v.rule = none ∧ r.inScope path v = true := by
  rw [reviewText, Violation.mem_sortForReport, fileViolations, List.mem_filter, List.mem_filter, and_assoc,
    Option.isNone_iff_eq_none]

theorem inScope_violation_iff {path : String} : r.inScope path (f.violation file rule) = true ↔
    r.scope.contains path (f.violation file rule).line = true ∨
      isNoteId rule.id = true ∧ ∃ line, r.scope.contains path line = true := by
  rw [inScope, ← Change.ChangeScope.coversFile_iff]
  show (if isNoteId rule.id = true then _ else _) = true ↔ _
  split_ifs with hid
  · rw [and_iff_right hid]
    exact ⟨.inr, fun h => h.elim (fun hin => Change.ChangeScope.coversFile_iff.2 ⟨_, hin⟩) id⟩
  · simp [hid]

/-- A finding of a matcher is reported if and only if no comment allows it and its line is in scope; under the
identifier of a note, if any line of the file is. Only a document that defines such an identifier anew, with
another check than that of a note, has rules with it that are looked for. All other findings are on lines in
scope. -/
theorem reviewText_lineScope (doc : RuleDocument) (r : Reviewer) (hrules : doc.ruleSet = .ok r.rules)
    (path : String) (kind : FileKind) (content : List Char) :
    let file : CheckedFile := ⟨path, kind, .parse content⟩
    (∀ rule f, r.Finds file rule f →
      (f.violation file rule ∈ r.reviewText path kind content ↔
        (Allowances.scan file.source).check? f.line rule.id = none ∧
        (r.scope.contains path f.line = true ∨
          isNoteId rule.id = true ∧ ∃ line, r.scope.contains path line = true))) ∧
    (∀ rule ∈ r.rules.rules, isNoteId rule.id = true → (rule ∈ r.rules.rulesFor kind ↔
      rule.appliesTo.covers kind = true ∧
        ∃ d ∈ doc.definitions, d.id = rule.id ∧ ∀ name ∈ noteChecks, d.check ≠ some name)) ∧
    ((∀ d ∈ doc.definitions, isNoteId d.id = true → ∃ name ∈ noteChecks, d.check = some name) →
      ∀ rule f, r.Finds file rule f → f.violation file rule ∈ r.reviewText path kind content →
        r.scope.contains path f.line = true) := by
  intro file
  have hreported : ∀ rule f, r.Finds file rule f →
      (f.violation file rule ∈ r.reviewText path kind content ↔
        (Allowances.scan file.source).check? f.line rule.id = none ∧
        (r.scope.contains path f.line = true ∨
          isNoteId rule.id = true ∧ ∃ line, r.scope.contains path line = true)) := by
    intro rule f hfinds
    obtain ⟨found, hfound, hf⟩ := hfinds.found
    obtain ⟨hpos, hle⟩ := Detection.line_of_mem_findings hfound hf
    have hline : (f.violation file rule).line = f.line := f.line_violation hpos hle rule
    rw [mem_reviewText_iff, and_iff_right hfinds.mem_allViolations, inScope_violation_iff, hline]
    rfl
  have hlooked : ∀ rule ∈ r.rules.rules, isNoteId rule.id = true → (rule ∈ r.rules.rulesFor kind ↔
      rule.appliesTo.covers kind = true ∧
        ∃ d ∈ doc.definitions, d.id = rule.id ∧ ∀ name ∈ noteChecks, d.check ≠ some name) := by
    intro rule hrule hid
    rw [RuleSet.mem_rulesFor, and_iff_right hrule, isNote_iff_of_ruleSet hrules hrule hid]
  refine ⟨hreported, hlooked, fun hdoc rule f hfinds hmem => ?_⟩
  rcases ((hreported rule f hfinds).1 hmem).2 with hin | ⟨hid, -⟩
  · exact hin
  · have hrule := (RuleSet.mem_rulesFor.1 hfinds.applies).1
    obtain ⟨-, d, hd, hdid, hother⟩ := (hlooked rule hrule hid).1 hfinds.applies
    obtain ⟨name, hname, hcheck⟩ := hdoc d hd (hdid ▸ hid)
    exact absurd hcheck (hother name hname)

/-- A rule on white space under the identifier of a note. -/
def disguisedDocument : RuleDocument where
  base := some "empty"
  definitions :=
    [{ id := unreadableFileId, category := "formatting", description := "No blanks at ends",
       severity := "warning", check := some "trailing_whitespace" }]

/-- White space at the end of the first line is reported, where only the second line is in scope. -/
theorem reviewText_disguisedDocument :
    ∃ rules, disguisedDocument.ruleSet = .ok rules ∧
      let r : Reviewer := { rules, scope := .ofLines [("a.cc", [2])] }
      r.scope.contains "a.cc" 1 = false ∧
      ∃ v ∈ r.reviewText "a.cc" .source "a; \nb;".toList, v.line = 1 ∧ v.severity = .warning := by
  obtain ⟨rules, hrules, rule, hrule, hid, hseverity, hdetection⟩ : ∃ rules,
      disguisedDocument.ruleSet = .ok rules ∧ ∃ rule ∈ rules.rulesFor .source,
        rule.id = unreadableFileId ∧ rule.severity = .warning ∧
        rule.detection = .structural .trailingWhitespace :=
    ⟨_, rfl, _, List.mem_singleton.2 rfl, rfl, rfl, rfl⟩
  refine ⟨rules, hrules, ?_⟩
  intro r
  let file : CheckedFile := ⟨"a.cc", .source, .parse "a; \nb;".toList⟩
  have hin : r.scope.contains "a.cc" 2 = true := rfl
  have hout : r.scope.contains "a.cc" 1 = false := rfl
  have hfinds : r.Finds file rule ⟨1, none⟩ := by
    have hformatting : Matcher.formatting ∈ Matcher.all := by decide
    refine ⟨hrule, ⟨_, hformatting, by rw [hdetection]; rfl⟩, _, by rw [hdetection]; rfl, ?_⟩
    decide +kernel
  have hallowed : (Allowances.scan file.source).check? 1 rule.id = none := by
    rw [hid]
    decide +kernel
  have hlines : 1 ≤ file.source.lineCount := by decide +kernel
  obtain ⟨hreported, -⟩ := reviewText_lineScope disguisedDocument r hrules "a.cc" .source "a; \nb;".toList
  have hmem := (hreported rule ⟨1, none⟩ hfinds).2 ⟨hallowed, .inr ⟨by rw [hid]; decide, 2, hin⟩⟩
  exact ⟨hout, _, hmem, Finding.line_violation (Nat.le_refl 1) hlines rule, hseverity⟩

end Reviewer

end Guideline
