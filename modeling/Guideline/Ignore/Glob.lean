import Guideline.Text.Utf8

/-!
# Globs of ignore files

These globs work on the bytes of a path. `*` and `?` do not go past a `/`; `**` does where it is a
component of its own; braces hold alternatives, which are written out when a glob is read.
-/

namespace Guideline.Ignore

/-- The byte of `/`. -/
def slash : UInt8 := 0x2F

inductive Token where
  | byte (b : UInt8)
  /-- `?` -/
  | anyByte
  /-- `*` -/
  | anyRun
  /-- `**` at the start with the `/` after it: any number of components -/
  | leading
  /-- `**` between two `/` with both of them: any number of components -/
  | between
  /-- `**` at the end with the `/` before it: everything below -/
  | below
  | oneOf (negated : Bool) (ranges : List (UInt8 × UInt8))
deriving DecidableEq, Repr

/-- The bytes left after a run of bytes other than `/`, for every length of the run. -/
def afterRun : List UInt8 → List (List UInt8)
  | [] => [[]]
  | b :: rest => (b :: rest) :: if b = slash then [] else afterRun rest

/-- The bytes left after each `/`. -/
def afterSlashes : List UInt8 → List (List UInt8)
  | [] => []
  | b :: rest => if b = slash then rest :: afterSlashes rest else afterSlashes rest

/-- The bytes left after any run. -/
def endings : List UInt8 → List (List UInt8)
  | [] => [[]]
  | b :: rest => (b :: rest) :: endings rest

/-- The bytes that may be left after a token. -/
def Token.rests (path : List UInt8) : Token → List (List UInt8)
  | .anyRun => afterRun path
  | .leading => path :: afterSlashes path
  | .between =>
    match path with
    | b :: rest => if b = slash then rest :: afterSlashes rest else []
    | [] => []
  | .below =>
    match path with
    | b :: rest => if b = slash then endings rest else []
    | [] => []
  | .byte c =>
    match path with
    | b :: rest => if b = c then [rest] else []
    | [] => []
  | .anyByte =>
    match path with
    | b :: rest => if b = slash then [] else [rest]
    | [] => []
  | .oneOf negated ranges =>
    match path with
    | b :: rest => if (ranges.any fun (lo, hi) => lo ≤ b && b ≤ hi) = negated then [] else [rest]
    | [] => []

/-- The tokens match the whole path. -/
def tokensMatch : List Token → List UInt8 → Bool
  | [], path => path.isEmpty
  | t :: ts, path => (t.rests path).any (tokensMatch ts)

/-! ### Reading -/

/-- The ranges of bytes for a range of characters: beyond ASCII each byte counts on its own. -/
def byteRanges (range : Char × Char) : List (UInt8 × UInt8) :=
  let first := Text.encode [range.1]
  let last := Text.encode [range.2]
  if range.1 = range.2 then first.map fun b => (b, b)
  else
    match first.getLast?, last with
    | some lo, hi :: more =>
      first.dropLast.map (fun b => (b, b)) ++ (lo, hi) :: more.map fun b => (b, b)
    | _, _ => []

/-- What is wrong with a glob. -/
inductive GlobFault where
  | badRange (lo hi : Char)
  | unopenedBrace
  | unclosedBrace
  | danglingEscape
deriving DecidableEq, Repr

def GlobFault.message : GlobFault → String
  | .badRange lo hi => s!"invalid range; '{lo}' > '{hi}'"
  | .unopenedBrace =>
    "unopened alternate group; missing '\x7b' (maybe escape '\x7d' with '[\x7d]'?)"
  | .unclosedBrace =>
    "unclosed alternate group; missing '\x7d' (maybe escape '\x7b' with '[\x7b]'?)"
  | .danglingEscape => "dangling '\\'"

/-- Sets the end of the newest range. -/
def closeRange (c : Char) : List (Char × Char) → Except GlobFault (List (Char × Char))
  | (lo, _) :: rest => if c < lo then .error (.badRange lo c) else .ok ((lo, c) :: rest)
  | [] => .ok []

/-- The ranges between brackets, newest first, and the number of characters up to the closing
bracket, if it is there. After a `-` the range is still `isOpen`. -/
def readRanges (ranges : List (Char × Char)) (isFirst isOpen : Bool) :
    List Char → Except GlobFault (Option (List (Char × Char) × Nat))
  | [] => .ok none
  | c :: rest =>
    let next := fun (ranges : List (Char × Char)) (isOpen : Bool) =>
      (readRanges ranges false isOpen rest).map fun found =>
        found.map fun (ranges, n) => (ranges, n + 1)
    if c = ']' && !isFirst then .ok (some (if isOpen then ('-', '-') :: ranges else ranges, 1))
    else if isOpen then
      match closeRange c ranges with
      | .ok ranges => next ranges false
      | .error fault => .error fault
    else if c = '-' && !isFirst then next ranges true
    else next ((c, c) :: ranges) false

/-- The token of a bracket, from what follows the bracket, with the number of characters it takes;
`none` if the bracket is not closed. -/
def readBracket (cs : List Char) : Except GlobFault (Option (Token × Nat)) :=
  let negated := cs.head? = some '!' || cs.head? = some '^'
  let skipped := if negated then 1 else 0
  (readRanges [] true false (cs.drop skipped)).map fun found =>
    found.map fun (ranges, n) => (.oneOf negated (ranges.reverse.flatMap byteRanges), n + skipped)

/-- Sequences of tokens, newest first, any of which may match. -/
abbrev Choices : Type := List (List Token)

/-- The alternatives of a brace, or of the whole glob: those complete, and the current one. -/
structure Level where
  complete : List Choices := []
  current : Choices := [[]]

def Level.add (l : Level) (t : Token) : Level :=
  { l with current := l.current.map (t :: ·) }

def Level.addChar (l : Level) (c : Char) : Level :=
  (Text.encode [c]).foldl (fun l b => l.add (.byte b)) l

def Level.isEmpty (l : Level) : Bool :=
  l.current.all List.isEmpty

/-- Puts a token for the last one, unless that one goes through components already. -/
def Level.replaceLast (l : Level) (t : Token) : Level :=
  { l with current := l.current.map fun
      | .leading :: ts => .leading :: ts
      | .below :: ts => .below :: ts
      | _ :: ts => t :: ts
      | [] => [t] }

/-- The alternatives of a brace that are not empty, behind what came before it. -/
def Level.join (outer inner : Level) : Level :=
  let branches := (inner.complete ++ [inner.current]).flatten.filter (!·.isEmpty)
  if branches.isEmpty then outer
  else { outer with current := outer.current.flatMap fun ts => branches.map (· ++ ts) }

/-- What a `**` after a separator becomes: everything below at the end of its alternative, any
number of components before a `/`, else two `*`. The number says how many characters after the stars
it takes. -/
def doubleStar (l : Level) (inBraces : Bool) (after : Option Char) : Level × Nat :=
  match after with
  | none => (l.replaceLast .below, 0)
  | some c =>
    if c = '/' then (l.replaceLast .between, 1)
    else if inBraces && (c = ',' || c = '\x7d') then (l.replaceLast .below, 0)
    else ((l.add .anyRun).add .anyRun, 0)

/-- Adds a `**`, given the character before it and the character after it. -/
def addDoubleStar (l : Level) (inBraces : Bool) (before after : Option Char) : Level × Nat :=
  if l.isEmpty then
    if after = none then (l.add .leading, 0)
    else if after = some '/' then (l.add .leading, 1)
    else ((l.add .anyRun).add .anyRun, 0)
  else if before = some '/' || (inBraces && (before = some ',' || before = some '\x7b')) then
    doubleStar l inBraces after
  else ((l.add .anyRun).add .anyRun, 0)

/-- Reads a glob, given whether brackets are still read as such, the character before, the current
level and the levels around it. A bracket that is not closed stands for itself, and so do all
brackets after it. -/
def readGlob (brackets : Bool) (before : Option Char) (level : Level) (outer : List Level) :
    List Char → Except GlobFault Choices
  | [] => if outer.isEmpty then .ok (level.current.map List.reverse) else .error .unclosedBrace
  | c :: rest =>
    if c = '?' then readGlob brackets (some c) (level.add .anyByte) outer rest
    else if c = '[' && brackets then
      match readBracket rest with
      | .ok (some (t, n)) => readGlob true (some ']') (level.add t) outer (rest.drop n)
      | .ok none => readGlob false (some c) (level.addChar c) outer rest
      | .error fault => .error fault
    else if c = '\x7b' then readGlob brackets (some c) {} (level :: outer) rest
    else if c = '\x7d' then
      match outer with
      | around :: more => readGlob brackets (some c) (around.join level) more rest
      | [] => .error .unopenedBrace
    else if c = ',' && !outer.isEmpty then
      readGlob brackets (some c) { complete := level.complete ++ [level.current] } outer rest
    else if c = '\\' then
      match rest.head? with
      | some e => readGlob brackets (some e) (level.addChar e) outer (rest.drop 1)
      | none => .error .danglingEscape
    else if c = '*' then
      if rest.head? = some '*' then
        let (level, n) := addDoubleStar level (!outer.isEmpty) before (rest.drop 1).head?
        readGlob brackets (some (if n = 0 then '*' else '/')) level outer (rest.drop (n + 1))
      else readGlob brackets (some c) (level.add .anyRun) outer rest
    else readGlob brackets (some c) (level.addChar c) outer rest
termination_by cs => cs.length
decreasing_by
  all_goals simp only [List.length_cons, List.length_drop]
  all_goals omega

/-- The choices of tokens match the whole path; a glob that is `**` alone matches everything. -/
def choicesMatch (choices : Choices) (path : List UInt8) : Bool :=
  choices.any fun ts => ts = [.leading] || tokensMatch ts path

end Guideline.Ignore
