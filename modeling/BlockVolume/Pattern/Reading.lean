import BlockVolume.Pattern.Bracket
import BlockVolume.Text.Letters

namespace BlockVolume.Pattern

open Text (isDigit valueOf)

def flag? : Char → Option Flag
  | 'i' => some .ignoreCase
  | 'm' => some .multiLine
  | 's' => some .dotAll
  | 'U' => some .swapGreed
  | 'u' => some .unicode
  | 'R' => some .crlf
  | 'x' => some .ignoreBlank
  | _ => none

def isNameChar (first : Bool) (c : Char) : Bool :=
  c == '_' || Text.isAlphabetic c ||
    (!first && (c == '.' || c == '[' || c == ']' || Text.isNumeric c))

/-- The letters and the minus between a question mark and the end of the flags that have been read,
with their places, the last one first. No letter stands for the minus. -/
abbrev FlagRow := List (Option Flag × Span)

def settingsOf (row : FlagRow) : Settings :=
  let inOrder := row.reverse.map Prod.fst
  let set := inOrder.takeWhile Option.isSome
  let cleared := inOrder.drop set.length
  set.filterMap (·.map (·, true)) ++ cleared.filterMap (·.map (·, false))

inductive Opening
  | settings (span : Span) (s : Settings)
  | group (span : Span) (captures : Bool) (s : Settings)

/-- A sequence of branches that is being read: the closed ones, the last one first, where the first
and the open one begin, and the items of the open one, the last one first. -/
structure Branches where
  closed : List Expression
  first : Position
  start : Position
  items : List Expression

namespace Branches

def ofStart (start : Position) : Branches := ⟨[], start, start, []⟩

def push (b : Branches) (e : Expression) : Branches := { b with items := e :: b.items }

def branch (b : Branches) (stop : Position) : Expression :=
  Expression.ofRow ⟨b.start, stop⟩ b.items

def split (b : Branches) (stop next : Position) : Branches :=
  ⟨b.branch stop :: b.closed, b.first, next, []⟩

def close (b : Branches) (stop : Position) : Expression :=
  if b.closed.isEmpty then b.branch stop
  else .branches ⟨b.first, stop⟩ (b.branch stop :: b.closed).reverse

end Branches

namespace Reader

def flagRow : Nat → FlagRow → Reader FlagRow
  | 0, row => pure row
  | bound + 1, row => do
    match ← peek with
    | none => fail .flagEnd (.point (← here))
    | some c =>
      if c = ':' ∨ c = ')' then
        match row with
        | (none, span) :: _ => fail .negationDangling span
        | _ => pure row
      else
        let span ← charSpan
        let entry := flag? c
        if entry.isNone && c != '-' then fail .flagUnknown span
        else match row.lookup entry with
          | some earlier =>
            failBeside (if entry.isNone then .negationAgain else .flagAgain) span earlier
          | none =>
            advance
            flagRow bound ((entry, span) :: row)

def nameChars (first : Bool) : Nat → Reader (List Char)
  | 0 => pure []
  | bound + 1 => do
    match ← peek with
    | none => fail .nameUnclosed (.point (← here))
    | some c =>
      if c = '>' then pure []
      else if isNameChar first c then
        advance
        pure (c :: (← nameChars false bound))
      else fail .nameInvalid (← charSpan)

def groupName : Reader Unit := do
  let start ← here
  let name ← nameChars true ((← left) + 1)
  let span ← spanFrom start
  advance
  if name = [] then fail .nameEmpty (.point start)
  else match (← get).names.lookup name with
    | some earlier => failBeside .nameAgain span earlier
    | none => modify fun c => { c with names := (name, span) :: c.names }

def looksAround : Reader Bool := do
  if ← text? ['?', '='] then pure true
  else if ← text? ['?', '!'] then pure true
  else if ← text? ['?', '<', '='] then pure true
  else text? ['?', '<', '!']

def isNamed : Reader Bool := do
  if ← text? ['?', 'P', '<'] then pure true else text? ['?', '<']

def flaggedOpening (span : Span) (mark : Position) : Reader Opening := do
  match ← peek with
  | none => fail .groupUnclosed span
  | some _ =>
    let row ← flagRow ((← left) + 1) []
    let last ← peek
    advance
    if last != some ')' then pure (.group span false (settingsOf row))
    else if row = [] then fail .nothingRepeated (.point mark)
    else pure (.settings ⟨span.start, ← here⟩ (settingsOf row))

def opening : Reader Opening := do
  let span ← charSpan
  step
  if ← looksAround then fail .lookAround (← spanFrom span.start)
  else
    let mark ← here
    if ← isNamed then
      groupName
      pure (.group span true [])
    else if ← text? ['?'] then flaggedOpening span mark
    else pure (.group span true [])

def applyBlank (s : Settings) : Reader Unit :=
  match s.lookup .ignoreBlank with
  | some b => modify fun c => { c with ignoresBlank := b }
  | none => pure ()

def repeatable : List Expression → Reader (Expression × List Expression)
  | [] => do fail .nothingRepeated (.point (← here))
  | e :: es => do
    if e.isRepeatable then pure (e, es) else fail .nothingRepeated (.point (← here))

def reluctant : Reader Unit := do
  let _ ← text? ['?']

def repetition (b : Branches) (bounds : Bounds) : Reader Branches := do
  let (e, es) ← repeatable b.items
  advance
  reluctant
  pure { b with items := .repeated ⟨e.span.start, ← here⟩ bounds e :: es }

/-- A number below 2³², with blanks around it, or the fault that there is none. -/
def count : Reader (Except Fault Nat) := do
  dropBlanks
  let start ← here
  let digits ← takeWhile isDigit
  let span ← spanFrom start
  let _ ← takeWhile Text.isBlank
  let n := valueOf 10 digits
  pure (if digits = [] then .error ⟨.countMissing, span, none⟩
    else if n < 4294967296 then .ok n
    else .error ⟨.countInvalid, span, none⟩)

def requireCount (start : Position) : Reader Char := do
  match ← peek with
  | some c => pure c
  | none => fail .countUnclosed (← spanFrom start)

/-- The counts in braces, up to the closing one. A count that is missing is at fault only if the
text goes on. -/
def counts (start : Position) : Reader Bounds := do
  let least ← count
  if (← requireCount start) = ',' then
    step
    if (← requireCount start) = '}' then pure ⟨← (liftM least), none⟩
    else
      let least ← (liftM least)
      let most ← (liftM (← count))
      pure ⟨least, some most⟩
  else
    let n ← (liftM least)
    pure ⟨n, some n⟩

def countedRepetition (b : Branches) : Reader Branches := do
  let start ← here
  let (e, es) ← repeatable b.items
  step
  let _ ← requireCount start
  let bounds ← counts start
  match ← peek with
  | some '}' =>
    step
    reluctant
    if bounds.most.all (bounds.least ≤ ·) then
      pure { b with items := .repeated ⟨e.span.start, ← here⟩ bounds e :: es }
    else fail .countsReversed (← spanFrom start)
  | _ => fail .countUnclosed (← spanFrom start)

def atom : Reader Atom := do
  match ← peek with
  | some '\\' => escape
  | some c =>
    let span ← charSpan
    advance
    pure (match c with
      | '.' => .dot span
      | '^' => .assertion span .lineStart
      | '$' => .assertion span .lineStop
      | c => .literal ⟨span, c, false⟩)
  | none => fail .escapeUnfinished (.point (← here))

def branchesFrom : Nat → Branches → Reader Expression
  | 0, b => do pure (b.close (← here))
  | bound + 1, b => do
    skipBlank
    match ← peek with
    | none | some ')' => pure (b.close (← here))
    | some '|' =>
      let stop ← here
      advance
      branchesFrom bound (b.split stop (← here))
    | some '(' =>
      match ← opening with
      | .settings span s =>
        applyBlank s
        branchesFrom bound (b.push (.settings span s))
      | .group span captures s =>
        let outer := (← get).ignoresBlank
        applyBlank s
        let body ← branchesFrom bound (.ofStart (← here))
        match ← peek with
        | some _ =>
          advance
          modify fun c => { c with ignoresBlank := outer }
          branchesFrom bound (b.push (.group ⟨span.start, ← here⟩ captures s body))
        | none => fail .groupUnclosed span
    | some '[' =>
      let t ← bracket
      branchesFrom bound (b.push (.bracket t))
    | some '?' =>
      let b ← repetition b ⟨0, some 1⟩
      branchesFrom bound b
    | some '*' =>
      let b ← repetition b ⟨0, none⟩
      branchesFrom bound b
    | some '+' =>
      let b ← repetition b ⟨1, none⟩
      branchesFrom bound b
    | some '{' =>
      let b ← countedRepetition b
      branchesFrom bound b
    | some _ =>
      let a ← atom
      branchesFrom bound (b.push (.atom a))

def whole : Reader Expression := do
  let e ← branchesFrom ((← left) + 1) (.ofStart (← here))
  match ← peek with
  | some _ => fail .groupUnopened (← charSpan)
  | none => pure e

end Reader

def Expression.read (text : List Char) : Except Fault Expression := do
  let (e, _) ← Reader.whole.run (Cursor.ofText text)
  e.checkDepth depthLimit
  pure e

end BlockVolume.Pattern
