import Guideline.Command.Arguments
import Guideline.Proofs.Except

/-!
# Arguments one after the other

What the arguments after a command add to a reading does not depend on the switches that were given
before them, as long as none of these is given again (`Incremental`). So a switch without a value may
be put wherever the next argument is read afresh: the other arguments are read as before
(`readArguments_insert`). What is read of them does not depend on the paths before them either, so a path
may be put there, too (`readArguments_insertPath`).
-/

namespace Guideline.Command

/-- No switch of `l` that may be given once is among the switches of `g`. -/
def Compatible (g l : List (Switch × String)) : Prop :=
  ∀ e ∈ l, e.1.isRepeatable = false → ∀ e' ∈ g, e'.1 ≠ e.1

theorem compatible_nil (g : List (Switch × String)) : Compatible g [] :=
  fun _ he => absurd he List.not_mem_nil

theorem compatible_append_right {g l l' : List (Switch × String)} :
    Compatible g (l ++ l') ↔ Compatible g l ∧ Compatible g l' :=
  List.forall_mem_append

theorem compatible_append_left {g g' l : List (Switch × String)} :
    Compatible (g ++ g') l ↔ Compatible g l ∧ Compatible g' l := by
  simp only [Compatible, List.forall_mem_append]
  grind

namespace Reading

/-- The reading with other switches. -/
def withGiven (r : Reading) (g : List (Switch × String)) : Reading :=
  { r with given := g }

@[simp]
theorem given_withGiven (r : Reading) (g) : (r.withGiven g).given = g := rfl

@[simp]
theorem withGiven_given (r : Reading) : r.withGiven r.given = r := rfl

@[simp]
theorem withGiven_withGiven (r : Reading) (g g') : (r.withGiven g).withGiven g' = r.withGiven g' :=
  rfl

@[simp]
theorem action_withGiven (r : Reading) (g) : (r.withGiven g).action = r.action := rfl

@[simp]
theorem pending_withGiven (r : Reading) (g) : (r.withGiven g).pending = r.pending := rfl

@[simp]
theorem onlyPaths_withGiven (r : Reading) (g) : (r.withGiven g).onlyPaths = r.onlyPaths := rfl

/-- `f` reads the same whatever switches are given, unless it reads one of them once more, and it reads
no command. -/
def Incremental (f : Reading → Except Halt Reading) : Prop :=
  ∀ r q, f r = .ok q ↔ ∃ q₀, f (r.withGiven []) = .ok q₀ ∧ q₀.action = r.action ∧
    Compatible r.given q₀.given ∧ q = q₀.withGiven (r.given ++ q₀.given)

namespace Incremental

variable {f g : Reading → Except Halt Reading}

theorem error (halt : Halt) : Incremental fun _ => .error halt := by
  intro r q
  simp

/-- A change that does not look at the switches. -/
theorem update {u : Reading → Reading} (hu : ∀ r g, u (r.withGiven g) = (u r).withGiven g)
    (haction : ∀ r, (u r).action = r.action) : Incremental fun r => .ok (u r) := by
  have hgiven : ∀ r, u r = (u r).withGiven r.given := fun r => by rw [← hu, withGiven_given]
  intro r q
  show Except.ok (u r) = .ok q ↔ ∃ q₀, Except.ok (u (r.withGiven [])) = .ok q₀ ∧ _
  rw [hu]
  constructor
  · intro h
    obtain rfl : u r = q := Except.ok.inj h
    refine ⟨(u r).withGiven [], rfl, haction r, compatible_nil _, ?_⟩
    rw [given_withGiven, List.append_nil, withGiven_withGiven, ← hgiven]
  · rintro ⟨q₀, h, -, -, rfl⟩
    obtain rfl : (u r).withGiven [] = q₀ := Except.ok.inj h
    rw [given_withGiven, List.append_nil, withGiven_withGiven, ← hgiven]

theorem unchanged : Incremental .ok :=
  update (u := id) (fun _ _ => rfl) fun _ => rfl

theorem bind (hf : Incremental f) (hg : Incremental g) : Incremental fun r => f r >>= g := by
  intro r p
  rw [bind_eq_ok_iff, exists_congr fun q => and_congr_left' (hf r q)]
  simp only [bind_eq_ok_iff]
  constructor
  · rintro ⟨_, ⟨q₀, hq₀, hact, hcomp, rfl⟩, hp⟩
    obtain ⟨p₀, hp₀, hact', hcomp', rfl⟩ := (hg _ p).1 hp
    rw [given_withGiven, compatible_append_left] at hcomp'
    refine ⟨p₀.withGiven (q₀.given ++ p₀.given), ⟨q₀, hq₀, (hg _ _).2 ⟨p₀, hp₀, hact', hcomp'.2, rfl⟩⟩,
      hact'.trans hact, compatible_append_right.2 ⟨hcomp, hcomp'.1⟩, ?_⟩
    simp only [given_withGiven, withGiven_withGiven, List.append_assoc]
  · rintro ⟨p₁, ⟨q₀, hq₀, hp₁⟩, hact, hcomp, rfl⟩
    obtain ⟨p₀, hp₀, hact', hcomp', rfl⟩ := (hg _ _).1 hp₁
    obtain ⟨hq₀', hp₀'⟩ := compatible_append_right.1 hcomp
    have haction : q₀.action = r.action := hact'.symm.trans hact
    refine ⟨_, ⟨q₀, hq₀, haction, hq₀', rfl⟩, (hg _ _).2 ⟨p₀, hp₀, hact', ?_, ?_⟩⟩
    · exact compatible_append_left.2 ⟨hp₀', hcomp'⟩
    · simp only [given_withGiven, withGiven_withGiven, List.append_assoc]

/-- A choice between ways of reading that does not look at the switches. -/
theorem choice (h : ∀ r : Reading, ∃ g, Incremental g ∧ ∀ l, f (r.withGiven l) = g (r.withGiven l)) :
    Incremental f := by
  intro r q
  obtain ⟨g, hg, heq⟩ := h r
  have hr : f r = g r := heq r.given
  rw [hr, heq]
  exact hg r q

theorem foldlM {α : Type} {h : Reading → α → Except Halt Reading} (hh : ∀ a, Incremental (h · a))
    (as : List α) : Incremental (as.foldlM h) := by
  induction as with
  | nil => exact unchanged
  | cons a as ih => exact bind (hh a) ih

end Incremental

/-! ### Reading one argument -/

theorem give_eq_ok_iff {r q : Reading} {s : Switch} {value : String} :
    r.give s value = .ok q ↔ (s ≠ .help ∧ s ≠ .version ∧ s.accepts value = true) ∧
      Compatible r.given [(s, value)] ∧ q = { r with given := r.given ++ [(s, value)], pending := none } := by
  have hcompatible : Compatible r.given [(s, value)] ↔
      (!s.isRepeatable && r.given.any (·.1 = s)) = false := by
    simp only [Compatible, List.forall_mem_singleton, Bool.and_eq_false_imp, List.any_eq_false]
    simp
  rw [hcompatible, give]
  split_ifs with hhelp hversion hagain haccepts
  · simp [hhelp]
  · simp [hversion]
  · simp [hagain]
  · simp_all
  · simp only [Bool.not_eq_true] at hagain
    simp only [Bool.not_eq_true, Bool.not_eq_false'] at haccepts
    rw [Except.ok.injEq, eq_comm]
    exact ⟨fun h => ⟨⟨hhelp, hversion, haccepts⟩, hagain, h⟩, fun h => h.2.2⟩

theorem incremental_give (s : Switch) (value : String) : Incremental (give · s value) := by
  intro r q
  simp only [give_eq_ok_iff]
  constructor
  · rintro ⟨hs, hcomp, rfl⟩
    exact ⟨_, ⟨hs, by simp [Compatible], rfl⟩, rfl, hcomp, rfl⟩
  · rintro ⟨_, ⟨hs, -, rfl⟩, -, hcomp, rfl⟩
    exact ⟨hs, hcomp, rfl⟩

theorem incremental_settle : Incremental settle := by
  refine Incremental.choice fun r => ?_
  cases hp : r.pending with
  | none =>
    refine ⟨_, Incremental.unchanged, fun l => ?_⟩
    rw [settle, pending_withGiven, hp]
  | some s =>
    cases ho : s.operand with
    | optional value =>
      have hclear : Incremental fun r => .ok { r with pending := none } :=
        .update (fun _ _ => rfl) fun _ => rfl
      refine ⟨_, hclear.bind (incremental_give s value), fun l => ?_⟩
      simp only [settle, pending_withGiven, hp, ho]
      rfl
    | absent | required =>
      refine ⟨_, Incremental.error .usage, fun l => ?_⟩
      simp only [settle, pending_withGiven, hp, ho]

theorem incremental_begin (s : Switch) (value? : Option String) : Incremental (begin · s value?) := by
  refine .bind incremental_settle ?_
  cases s.operand <;> cases value? <;> first
    | exact Incremental.error .usage
    | exact incremental_give s _
    | exact Incremental.update (u := fun r => { r with pending := some s }) (fun _ _ => rfl) fun _ => rfl

theorem incremental_readLong (cs : List Char) : Incremental (readLong · cs) := by
  refine .choice fun r => ?_
  cases hs : (switchesOf r.action).find? (·.long = String.ofList (cs.takeWhile (· ≠ '='))) with
  | none =>
    refine ⟨_, .error .usage, fun l => ?_⟩
    simp only [readLong, action_withGiven, hs]
  | some s =>
    cases hvalue : cs.dropWhile (· ≠ '=') with
    | nil =>
      refine ⟨_, incremental_begin s none, fun l => ?_⟩
      simp only [readLong, action_withGiven, hs, hvalue]
    | cons _ value =>
      refine ⟨_, incremental_begin s (some (String.ofList value)), fun l => ?_⟩
      simp only [readLong, action_withGiven, hs, hvalue]

theorem incremental_readLetters (cs : List Char) : Incremental (readLetters · cs) := by
  induction cs with
  | nil => exact .unchanged
  | cons c cs ih =>
    refine .choice fun r => ?_
    cases hs : (switchesOf r.action).find? (·.short? = some c) with
    | none =>
      refine ⟨_, .error .usage, fun l => ?_⟩
      simp only [readLetters, action_withGiven, hs]
    | some s =>
      cases ho : s.operand with
      | absent =>
        refine ⟨_, .bind (incremental_begin s none) ih, fun l => ?_⟩
        simp only [readLetters, action_withGiven, hs, ho]
        cases begin (r.withGiven l) s none <;> rfl
      | required | optional value =>
        -- what stands behind the letter is its value
        rcases cs with _ | ⟨d, cs⟩
        · refine ⟨_, incremental_begin s none, fun l => ?_⟩
          simp only [readLetters, action_withGiven, hs, ho]
        · by_cases hd : d = '='
          · subst hd
            refine ⟨_, incremental_begin s (some (String.ofList cs)), fun l => ?_⟩
            simp only [readLetters, action_withGiven, hs, ho]
          · refine ⟨_, incremental_begin s (some (String.ofList (d :: cs))), fun l => ?_⟩
            simp only [readLetters, action_withGiven, hs, ho]
            split <;> simp_all

theorem incremental_readPath (path : String) : Incremental (readPath · path) := by
  refine .bind incremental_settle (.choice fun r => ?_)
  by_cases h : (r.action = some .check && !path.isEmpty) = true
  · refine ⟨_, .update (u := fun r => { r with paths := r.paths ++ [path] }) (fun _ _ => rfl) fun _ => rfl,
      fun l => ?_⟩
    exact if_pos h
  · exact ⟨_, .error .usage, fun l => if_neg h⟩

theorem readArgument_long {r : Reading} (ho : r.onlyPaths = false) {argument : String} {c : Char}
    {cs : List Char} (h : argument.toList = '-' :: '-' :: c :: cs) :
    r.readArgument argument = r.readLong (c :: cs) := by
  simp only [readArgument, ho, h, Bool.false_eq_true, if_false]

theorem incremental_readArgument (argument : String) : Incremental (readArgument · argument) := by
  refine .choice fun r => ?_
  cases ho : r.onlyPaths with
  | true =>
    refine ⟨_, incremental_readPath argument, fun l => ?_⟩
    simp only [readArgument, onlyPaths_withGiven, ho, if_true]
  | false =>
    by_cases hpaths : argument.toList = ['-', '-']
    · refine ⟨_, .update (u := fun r => { r with onlyPaths := true }) (fun _ _ => rfl) fun _ => rfl,
        fun l => ?_⟩
      simp only [readArgument, onlyPaths_withGiven, ho, hpaths, Bool.false_eq_true, if_false]
    by_cases hlong : ∃ cs, argument.toList = '-' :: '-' :: cs
    · obtain ⟨_ | ⟨c, cs⟩, hcs⟩ := hlong
      · exact absurd hcs hpaths
      exact ⟨_, incremental_readLong (c :: cs), fun l => readArgument_long (r := r.withGiven l) ho hcs⟩
    by_cases hletters : ∃ c cs, argument.toList = '-' :: c :: cs
    · obtain ⟨c, cs, hcs⟩ := hletters
      refine ⟨_, incremental_readLetters (c :: cs), fun l => ?_⟩
      simp only [readArgument, onlyPaths_withGiven, ho, hcs, Bool.false_eq_true, if_false]
      split <;> simp_all
    cases hp : r.pending with
    | none =>
      refine ⟨_, incremental_readPath argument, fun l => ?_⟩
      simp only [readArgument, onlyPaths_withGiven, ho, pending_withGiven, hp, Bool.false_eq_true, if_false]
      split <;> simp_all
    | some s =>
      refine ⟨_, incremental_give s argument, fun l => ?_⟩
      simp only [readArgument, onlyPaths_withGiven, ho, pending_withGiven, hp, Bool.false_eq_true, if_false]
      split <;> simp_all

/-! ### Reading all arguments -/

/-- Reads one argument, which may be a command. -/
def advance (r : Reading) (argument : String) : Except Halt Reading :=
  if r.awaitsAction && argument = "help" then .error (helpHalt [])
  else
    match r.awaitsAction, Action.ofName? argument with
    | true, some action => .ok { r with action := some action, outer := r.given, given := [] }
    | _, _ => r.readArgument argument

theorem readArguments_cons_of_not_help {r : Reading} {argument : String}
    (h : ¬ (r.awaitsAction && argument = "help") = true) (arguments : List String) :
    readArguments r (argument :: arguments) =
      (r.advance argument >>= fun q => readArguments q arguments) := by
  rw [readArguments, advance, if_neg h, if_neg h]
  cases r.awaitsAction with
  | false => cases r.readArgument argument <;> rfl
  | true =>
    cases Action.ofName? argument with
    | none => cases r.readArgument argument <;> rfl
    | some action => rfl

theorem readArguments_eq_ok_iff {r f : Reading} {arguments : List String} :
    readArguments r arguments = .ok f ↔ ∃ q, arguments.foldlM advance r = .ok q ∧ q.settle = .ok f := by
  induction arguments generalizing r with
  | nil => simp [readArguments, pure, Except.pure]
  | cons argument arguments ih =>
    rw [List.foldlM_cons]
    by_cases hhelp : (r.awaitsAction && argument = "help") = true
    · simp [readArguments, advance, hhelp, bind, Except.bind]
    · rw [readArguments_cons_of_not_help hhelp]
      cases r.advance argument with
      | error halt => simp [bind, Except.bind]
      | ok q => exact ih

/-- Reading goes on from where the first arguments lead. -/
theorem readArguments_append {first rest : List String} {place f : Reading}
    (hfirst : first.foldlM advance {} = .ok place) :
    readArguments {} (first ++ rest) = .ok f ↔ readArguments place rest = .ok f := by
  rw [readArguments_eq_ok_iff, readArguments_eq_ok_iff, List.foldlM_append, hfirst]
  rfl

theorem action_of_readArgument {r q : Reading} {argument : String}
    (h : r.readArgument argument = .ok q) : q.action = r.action := by
  obtain ⟨q₀, -, haction, -, rfl⟩ := (incremental_readArgument argument r q).1 h
  exact haction

/-- There is at most one command. -/
theorem foldlM_advance_of_action {r : Reading} {action : Action} (h : r.action = some action)
    (arguments : List String) : arguments.foldlM advance r = arguments.foldlM readArgument r := by
  induction arguments generalizing r with
  | nil => rfl
  | cons argument arguments ih =>
    have hawaits : r.awaitsAction = false := by simp [awaitsAction, h]
    have hadvance : r.advance argument = r.readArgument argument := by simp [advance, hawaits]
    rw [List.foldlM_cons, List.foldlM_cons, hadvance]
    cases hq : r.readArgument argument with
    | error halt => rfl
    | ok q => exact ih ((action_of_readArgument hq).trans h)

/-- What follows the command is read as if no switch had been given. -/
theorem readArguments_of_action {r f : Reading} {action : Action} (h : r.action = some action)
    {arguments : List String} : readArguments r arguments = .ok f ↔
      ∃ q₀, (arguments.foldlM readArgument (r.withGiven []) >>= settle) = .ok q₀ ∧
        q₀.action = r.action ∧ Compatible r.given q₀.given ∧ f = q₀.withGiven (r.given ++ q₀.given) := by
  have hall : Incremental fun r => arguments.foldlM readArgument r >>= settle :=
    (Incremental.foldlM incremental_readArgument arguments).bind incremental_settle
  rw [readArguments_eq_ok_iff, foldlM_advance_of_action h, ← bind_eq_ok_iff]
  exact hall r f

theorem readArguments_cons_of_action {r q : Reading} {action : Action} (h : r.action = some action)
    {argument : String} (hq : r.readArgument argument = .ok q) (rest : List String) :
    readArguments r (argument :: rest) = readArguments q rest := by
  have hawaits : r.awaitsAction = false := by simp [awaitsAction, h]
  simp [readArguments, hawaits, hq]

/-- A switch of a check may come next. -/
structure AwaitsSwitch (r : Reading) : Prop where
  action : r.action = some .check
  pending : r.pending = none
  onlyPaths : r.onlyPaths = false

theorem readArgument_failOnWarnings {r : Reading} (h : r.AwaitsSwitch)
    (hgiven : r.has .failOnWarnings = false) :
    r.readArgument "--fail-on-warnings" = .ok (r.withGiven (r.given ++ [(.failOnWarnings, "")])) := by
  have hsettle : r.settle = .ok r := by rw [settle, h.pending]
  have hgive : r.give .failOnWarnings "" = .ok (r.withGiven (r.given ++ [(.failOnWarnings, "")])) := by
    refine give_eq_ok_iff.2 ⟨by decide, ?_, ?_⟩
    · simpa [Compatible, has, Switch.isRepeatable] using hgiven
    · rw [withGiven, h.pending]
  have hbegin : r.begin .failOnWarnings none = .ok (r.withGiven (r.given ++ [(.failOnWarnings, "")])) := by
    rw [begin, hsettle]
    exact hgive
  have hfind : (switchesOf (some .check)).find? (·.long = "fail-on-warnings") = some .failOnWarnings := by
    decide
  have hname : String.ofList ("fail-on-warnings".toList.takeWhile (· ≠ '=')) = "fail-on-warnings" := by
    decide +kernel
  have hvalue : "fail-on-warnings".toList.dropWhile (· ≠ '=') = [] := by decide +kernel
  have hlong : r.readLong "fail-on-warnings".toList =
      .ok (r.withGiven (r.given ++ [(.failOnWarnings, "")])) := by
    rw [readLong, hname, hvalue, h.action, hfind]
    exact hbegin
  have hsplit : "--fail-on-warnings".toList = '-' :: '-' :: "fail-on-warnings".toList := by
    decide +kernel
  cases hcs : "fail-on-warnings".toList with
  | nil => exact absurd hcs (by decide +kernel)
  | cons c cs =>
    rw [hcs] at hsplit hlong
    rw [readArgument_long h.onlyPaths hsplit]
    exact hlong

/-- Where a switch of a check may come next, the check may be told to fail on warnings. -/
theorem readArguments_insert {before after : List String} {place f : Reading}
    (hbefore : before.foldlM advance {} = .ok place) (hplace : place.AwaitsSwitch)
    (h : readArguments {} (before ++ after) = .ok f) (hf : f.has .failOnWarnings = false) :
    ∃ g l, f.given = g ++ l ∧
      readArguments {} (before ++ "--fail-on-warnings" :: after) =
        .ok (f.withGiven (g ++ (.failOnWarnings, "") :: l)) := by
  rw [readArguments_append hbefore, readArguments_of_action hplace.action] at h
  obtain ⟨q₀, hq₀, haction, hcomp, rfl⟩ := h
  rw [has, given_withGiven, List.any_append, Bool.or_eq_false_iff] at hf
  obtain ⟨hfirst, hlater⟩ := hf
  refine ⟨place.given, q₀.given, rfl, (readArguments_append hbefore).2 ?_⟩
  -- the switch is read first, and the rest adds what it added without the switch
  rw [readArguments_cons_of_action hplace.action (readArgument_failOnWarnings hplace hfirst)]
  refine (readArguments_of_action (by exact hplace.action)).2
    ⟨q₀, hq₀, haction, compatible_append_left.2 ⟨hcomp, ?_⟩, ?_⟩
  · intro e he _ e' he' heq
    obtain rfl := List.mem_singleton.1 he'
    have := List.any_eq_false.1 hlater e he
    simp_all
  · rw [given_withGiven, List.append_assoc]
    rfl

/-! ### Paths -/

/-- The reading with paths before its own. -/
def before (r : Reading) (l : List String) : Reading :=
  { r with paths := l ++ r.paths }

section

variable (r : Reading) (l : List String)

theorem give_before (s : Switch) (value : String) :
    (r.before l).give s value = (r.give s value).map (·.before l) := by
  have htopic : (r.before l).topic = r.topic := rfl
  have hgiven : (r.before l).given = r.given := rfl
  rw [give, give, htopic, hgiven]
  split_ifs <;> rfl

theorem settle_before : (r.before l).settle = r.settle.map (·.before l) := by
  have hpending : (r.before l).pending = r.pending := rfl
  rw [settle, settle, hpending]
  cases r.pending with
  | none => rfl
  | some s =>
    dsimp only
    cases s.operand with
    | optional value => exact give_before { r with pending := none } l s value
    | absent => rfl
    | required => rfl

theorem begin_before (s : Switch) (value? : Option String) :
    (r.before l).begin s value? = (r.begin s value?).map (·.before l) := by
  rw [begin, begin, settle_before]
  cases r.settle with
  | error halt => rfl
  | ok q => cases s.operand <;> cases value? <;> first | rfl | exact give_before q l s _

theorem readLong_before (cs : List Char) :
    (r.before l).readLong cs = (r.readLong cs).map (·.before l) := by
  have haction : (r.before l).action = r.action := rfl
  rw [readLong, readLong, haction]
  cases (switchesOf r.action).find? (·.long = String.ofList (cs.takeWhile (· ≠ '='))) with
  | none => rfl
  | some s => exact begin_before r l s _

theorem readLetters_before (cs : List Char) :
    (r.before l).readLetters cs = (r.readLetters cs).map (·.before l) := by
  induction cs generalizing r with
  | nil => rfl
  | cons c cs ih =>
    have haction : (r.before l).action = r.action := rfl
    rw [readLetters, readLetters, haction]
    cases (switchesOf r.action).find? (·.short? = some c) with
    | none => rfl
    | some s =>
      simp only [begin_before]
      split
      · cases r.begin s none with
        | error halt => rfl
        | ok q => exact ih q
      all_goals rfl

theorem readPath_before (path : String) :
    (r.before l).readPath path = (r.readPath path).map (·.before l) := by
  rw [readPath, readPath, settle_before]
  cases r.settle with
  | error halt => rfl
  | ok q =>
    show (if (q.action = some .check && !path.isEmpty) = true then _ else _) = Except.map _ (if _ then _ else _)
    split_ifs
    · exact congrArg Except.ok (congrArg (fun paths => ({ q with paths } : Reading)) (List.append_assoc ..))
    · rfl

/-- What is read of an argument does not depend on the paths before it. -/
theorem readArgument_before (argument : String) :
    (r.before l).readArgument argument = (r.readArgument argument).map (·.before l) := by
  have honly : (r.before l).onlyPaths = r.onlyPaths := rfl
  have hpending : (r.before l).pending = r.pending := rfl
  rw [readArgument, readArgument, honly, hpending]
  split_ifs
  · exact readPath_before r l argument
  · split
    · rfl
    · exact readLong_before r l _
    · exact readLetters_before r l _
    · split
      · exact give_before r l _ argument
      · exact readPath_before r l argument

theorem readArguments_before {action : Action} (h : r.action = some action) (arguments : List String) :
    readArguments (r.before l) arguments = (readArguments r arguments).map (·.before l) := by
  induction arguments generalizing r with
  | nil => exact settle_before r l
  | cons argument arguments ih =>
    have hawaits : r.awaitsAction = false := by simp [awaitsAction, h]
    have hawaits' : (r.before l).awaitsAction = false := hawaits
    have hread := readArgument_before r l argument
    cases hq : r.readArgument argument with
    | error halt => simp [readArguments, hawaits, hawaits', hread, hq, Except.map]
    | ok q =>
      rw [hq] at hread
      rw [readArguments_cons_of_action h hq, readArguments_cons_of_action (r := r.before l) h hread]
      exact ih q ((action_of_readArgument hq).trans h)

end

/-- The argument is a path of a check, if it comes next. -/
structure AwaitsPath (r : Reading) (path : String) : Prop where
  action : r.action = some .check
  pending : r.pending = none
  nonempty : path ≠ ""
  plain : r.onlyPaths = false → ∀ c cs, path.toList ≠ '-' :: c :: cs

theorem readArgument_path {r : Reading} {path : String} (h : r.AwaitsPath path) :
    r.readArgument path = .ok { r with paths := r.paths ++ [path] } := by
  have hempty : path.isEmpty = false := by simpa using h.nonempty
  have hpath : r.readPath path = .ok { r with paths := r.paths ++ [path] } := by
    simp [readPath, settle, h.pending, h.action, hempty, bind, Except.bind, pure, Except.pure]
  rw [readArgument]
  split_ifs with honly
  · exact hpath
  · have hplain := h.plain (by simpa using honly)
    split
    -- the argument would be a switch, or only paths would follow it
    any_goals exact absurd ‹path.toList = _› (hplain _ _)
    cases hpending : r.pending with
    | some s => exact absurd (hpending.symm.trans h.pending) (by simp)
    | none => rwa [hpending] at hpath

/-- Where a path of a check may come next, one more path may be given. -/
theorem readArguments_insertPath {first rest : List String} {place f : Reading} {path : String}
    (hfirst : first.foldlM advance {} = .ok place) (hplace : place.AwaitsPath path)
    (h : readArguments {} (first ++ rest) = .ok f) :
    ∃ front back, f.paths = front ++ back ∧
      readArguments {} (first ++ path :: rest) = .ok { f with paths := front ++ path :: back } := by
  -- the rest is read from no paths at all, and the paths before it are put back
  have hrest : ∀ l, readArguments { place with paths := l } rest =
      (readArguments { place with paths := [] } rest).map (·.before l) := by
    intro l
    rw [← readArguments_before _ l (by exact hplace.action), before, List.append_nil]
  rw [readArguments_append hfirst, show place = { place with paths := place.paths } from rfl, hrest] at h
  cases hq : readArguments { place with paths := [] } rest with
  | error halt => rw [hq] at h; cases h
  | ok q =>
    rw [hq] at h
    obtain rfl : q.before place.paths = f := Except.ok.inj h
    refine ⟨place.paths, q.paths, rfl, (readArguments_append hfirst).2 ?_⟩
    rw [readArguments_cons_of_action hplace.action (readArgument_path hplace), hrest, hq]
    simp [Except.map, before]

/-! ### What the arguments ask for -/

theorem failOnWarnings_of_checkRequest {f : Reading} {r : CheckRequest} (h : f.checkRequest = .ok r) :
    r.failOnWarnings = f.has .failOnWarnings := by
  obtain ⟨restriction, -, h⟩ := bind_eq_ok_iff.1 h
  obtain rfl := Except.ok.inj h
  rfl

section

variable {f : Reading} {g l : List (Switch × String)} (hgiven : f.given = g ++ l) {s t : Switch}
include hgiven

theorem has_withGiven_insert (h : s ≠ t) (value : String) :
    (f.withGiven (g ++ (s, value) :: l)).has t = f.has t := by
  simp [has, hgiven, h]

theorem value?_withGiven_insert (h : s ≠ t) (value : String) :
    (f.withGiven (g ++ (s, value) :: l)).value? t = f.value? t := by
  simp [value?, hgiven, h]

theorem checkRequest_withGiven_insert {r : CheckRequest} (h : f.checkRequest = .ok r) :
    (f.withGiven (g ++ (.failOnWarnings, "") :: l)).checkRequest = .ok { r with failOnWarnings := true } := by
  have hrestriction : (f.withGiven (g ++ (.failOnWarnings, "") :: l)).restriction = f.restriction := by
    simp only [restriction, has_withGiven_insert hgiven, value?_withGiven_insert hgiven, ne_eq,
      reduceCtorEq, not_false_eq_true]
  obtain ⟨restriction, hf, h⟩ := bind_eq_ok_iff.1 h
  obtain rfl := Except.ok.inj h
  have hadded : (f.withGiven (g ++ (.failOnWarnings, "") :: l)).has .failOnWarnings = true := by
    simp [has]
  have hexclude : ((g ++ (.failOnWarnings, "") :: l).filter (·.1 = .exclude)) =
      f.given.filter (·.1 = .exclude) := by
    simp [hgiven]
  refine bind_eq_ok_iff.2 ⟨restriction, hrestriction.trans hf, ?_⟩
  simp only [has_withGiven_insert hgiven, value?_withGiven_insert hgiven, ne_eq, reduceCtorEq,
    not_false_eq_true, hadded, given_withGiven, hexclude]
  rfl

end

end Reading

/-- The arguments ask for a check, and at least one path is among them. -/
def GivesPath (arguments : List String) : Prop :=
  ∃ f, readArguments {} arguments = .ok f ∧ f.paths ≠ []

theorem Reading.checkRequest_withPaths {f : Reading} {r : CheckRequest} (h : f.checkRequest = .ok r)
    {paths : List String} (hpaths : paths ≠ []) :
    Reading.checkRequest { f with paths } = .ok { r with paths } := by
  obtain ⟨restriction, hf, h⟩ := bind_eq_ok_iff.1 h
  obtain rfl := Except.ok.inj h
  refine bind_eq_ok_iff.2 ⟨restriction, hf, ?_⟩
  simp only [List.isEmpty_eq_false_iff.2 hpaths]
  rfl

theorem Reading.paths_of_checkRequest {f : Reading} {r : CheckRequest} (h : f.checkRequest = .ok r)
    (hpaths : f.paths ≠ []) : r.paths = f.paths := by
  rw [Reading.checkRequest_withPaths h hpaths] at h
  exact congrArg CheckRequest.paths (Except.ok.inj h).symm

theorem Reading.request_eq_check_iff {f : Reading} {r : CheckRequest} :
    f.request = .ok (.check r) ↔ f.action = some .check ∧ f.checkRequest = .ok r := by
  unfold Reading.request
  split
  · rename_i haction
    cases hc : f.checkRequest <;> simp [Except.map, haction]
  all_goals simp_all

theorem Invocation.ofArguments_eq_check_iff {arguments : List String} {i : Invocation} {r : CheckRequest}
    (hr : i.request = .check r) : Invocation.ofArguments arguments = .ok i ↔
      ∃ f, readArguments {} arguments = .ok f ∧ f.action = some .check ∧ f.checkRequest = .ok r ∧
        (f.has .verbose || Reading.has { given := f.outer } .verbose) = i.verbose ∧
        (f.value? .config).or (Reading.value? { given := f.outer } .config) = i.config := by
  rw [ofArguments, bind_eq_ok_iff]
  refine exists_congr fun f => and_congr_right fun _ => ?_
  obtain ⟨verbose, config, request⟩ := i
  obtain rfl : request = .check r := hr
  rw [bind_eq_ok_iff, ← and_assoc, ← Reading.request_eq_check_iff]
  constructor
  · rintro ⟨request, hrequest, h⟩
    cases h
    exact ⟨hrequest, rfl, rfl⟩
  · rintro ⟨hrequest, rfl, rfl⟩
    exact ⟨_, hrequest, rfl⟩

/-- Arguments that ask for a check ask for the same check with one switch more. -/
theorem Invocation.ofArguments_insert {before after : List String} {place : Reading} {i : Invocation}
    {r : CheckRequest} (hbefore : before.foldlM Reading.advance {} = .ok place)
    (hplace : place.AwaitsSwitch) (hi : Invocation.ofArguments (before ++ after) = .ok i)
    (hr : i.request = .check r) (hflag : r.failOnWarnings = false) :
    Invocation.ofArguments (before ++ "--fail-on-warnings" :: after) =
      .ok { i with request := .check { r with failOnWarnings := true } } := by
  obtain ⟨f, hf, haction, hc, hverbose, hconfig⟩ := (ofArguments_eq_check_iff hr).1 hi
  have hhas : f.has .failOnWarnings = false := by
    rw [← Reading.failOnWarnings_of_checkRequest hc, hflag]
  obtain ⟨g, l, hgiven, hread⟩ := Reading.readArguments_insert hbefore hplace hf hhas
  refine (ofArguments_eq_check_iff rfl).2
    ⟨_, hread, haction, Reading.checkRequest_withGiven_insert hgiven hc, ?_, ?_⟩
  · rw [Reading.has_withGiven_insert hgiven (by simp)]
    exact hverbose
  · rw [Reading.value?_withGiven_insert hgiven (by simp)]
    exact hconfig

/-- Arguments that ask for a check of some paths ask for the same check with one path more among them. -/
theorem Invocation.ofArguments_insertPath {before after : List String} {place : Reading} {path : String}
    {i : Invocation} {r : CheckRequest} (hbefore : before.foldlM Reading.advance {} = .ok place)
    (hplace : place.AwaitsPath path) (hi : Invocation.ofArguments (before ++ after) = .ok i)
    (hr : i.request = .check r) (hgives : GivesPath (before ++ after)) :
    ∃ front back, r.paths = front ++ back ∧ Invocation.ofArguments (before ++ path :: after) =
      .ok { i with request := .check { r with paths := front ++ path :: back } } := by
  obtain ⟨f, hf, haction, hc, hverbose, hconfig⟩ := (ofArguments_eq_check_iff hr).1 hi
  obtain ⟨f', hf', hpaths⟩ := hgives
  obtain rfl := Except.ok.inj (hf.symm.trans hf')
  obtain ⟨front, back, hsplit, hread⟩ := Reading.readArguments_insertPath hbefore hplace hf
  refine ⟨front, back, (Reading.paths_of_checkRequest hc hpaths).trans hsplit, ?_⟩
  exact (ofArguments_eq_check_iff rfl).2
    ⟨_, hread, haction, Reading.checkRequest_withPaths hc (by simp), hverbose, hconfig⟩

end Guideline.Command
