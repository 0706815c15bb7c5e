import BlockVolume.Pattern.Expression
import BlockVolume.Pattern.Reading

namespace BlockVolume.Pattern

structure Mode where
  ignoreCase : Bool
  multiLine : Bool
  dotAll : Bool
  unicode : Bool
  crlf : Bool
  deriving DecidableEq

namespace Mode

def standard : Mode := ⟨false, false, false, true, false⟩

def apply (m : Mode) : Flag × Bool → Mode
  | (.ignoreCase, b) => { m with ignoreCase := b }
  | (.multiLine, b) => { m with multiLine := b }
  | (.dotAll, b) => { m with dotAll := b }
  | (.unicode, b) => { m with unicode := b }
  | (.crlf, b) => { m with crlf := b }
  | (.swapGreed, _) | (.ignoreBlank, _) => m

def applyAll (m : Mode) (s : Settings) : Mode := s.foldl apply m

end Mode

def faultAt {α : Type} (cause : Cause) (span : Span) : Except Fault α := .error ⟨cause, span, none⟩

def NamedClass.set : NamedClass → CharSet
  | .alnum => .ofRanges [('0', '9'), ('A', 'Z'), ('a', 'z')]
  | .alpha => .ofRanges [('A', 'Z'), ('a', 'z')]
  | .ascii => .range '\x00' '\x7f'
  | .blank => .ofRanges [('\t', '\t'), (' ', ' ')]
  | .cntrl => .ofRanges [('\x00', '\x1f'), ('\x7f', '\x7f')]
  | .digit => .range '0' '9'
  | .graph => .range '!' '~'
  | .lower => .range 'a' 'z'
  | .print => .range ' ' '~'
  | .punct => .ofRanges [('!', '/'), (':', '@'), ('[', '\x60'), ('\x7b', '~')]
  | .space => .ofRanges [('\t', '\r'), (' ', ' ')]
  | .upper => .range 'A' 'Z'
  | .word => .ofRanges [('0', '9'), ('A', 'Z'), ('_', '_'), ('a', 'z')]
  | .xdigit => .ofRanges [('0', '9'), ('A', 'F'), ('a', 'f')]

def ShortClass.named : ShortClass → NamedClass
  | .digit => .digit
  | .space => .space
  | .word => .word

/-- A set with both cases of its letters, if case is ignored. Only ASCII letters are known to have
cases, and nothing is known of characters in general. -/
def foldIn (m : Mode) (span : Span) (s : CharSet) : Except Fault CharSet :=
  if !m.ignoreCase || s.isEmpty then pure s
  else if m.unicode then faultAt .caseFoldingUnknown span
  else pure s.foldCase

/-- A class with both cases if case is ignored, or all other characters. In a mode that is not of
Unicode the others would be octets. -/
def classIn (m : Mode) (span : Span) (negated : Bool) (s : CharSet) : Except Fault CharSet := do
  let s ← foldIn m span s
  if !negated then pure s
  else if m.unicode then pure s.compl
  else faultAt .invalidText span

def ShortClass.setIn (m : Mode) (span : Span) (negated : Bool) (kind : ShortClass) :
    Except Fault CharSet :=
  if m.unicode then faultAt .shortClassUnknown span
  else if negated then faultAt .invalidText span
  else pure kind.named.set

def valueNames : List String := ["cf", "lc", "sc"]

/-- The name of a property without what does not count in it: a leading "is", blanks, underscores,
hyphens, case, and characters beyond ASCII. -/
def plainName (name : List Char) : String :=
  let small := name.map Char.toLower
  let core := if ['i', 's'].isPrefixOf small then small.drop 2 else small
  String.ofList (core.filter fun c =>
    c != ' ' && c != '_' && c != '-' && c.toNat < 0x80)

def Property.cause (m : Mode) (p : Property) : Cause :=
  if !m.unicode then .unicodeRefused
  else if !p.hasValue && valueNames.contains (plainName p.name) then .valueUnknown
  else .propertyUnknown

def Literal.charIn (m : Mode) (l : Literal) : Except Fault Char :=
  if !m.unicode && l.isOctet && 0x80 ≤ l.char.toNat then faultAt .invalidText l.span
  else pure l.char

def Literal.memberIn (m : Mode) (l : Literal) : Except Fault Char := do
  let c ← l.charIn m
  if m.unicode || c.toNat < 0x80 then pure c else faultAt .unicodeRefused l.span

def Literal.patternIn (m : Mode) (l : Literal) : Except Fault Pattern := do
  let c ← l.charIn m
  pure (.one (← foldIn m l.span (.single c)))

def dotIn (m : Mode) (span : Span) : Except Fault Pattern :=
  if !m.unicode then faultAt .invalidText span
  else if m.dotAll then pure (.one .all)
  else if m.crlf then pure (.one (CharSet.all.diff (.ofRanges [('\n', '\n'), ('\r', '\r')])))
  else pure (.one (CharSet.all.diff (.single '\n')))

def Assertion.lookIn (m : Mode) : Assertion → Look
  | .lineStart => if m.multiLine then .lineStart m.crlf else .textStart
  | .lineStop => if m.multiLine then .lineStop m.crlf else .textStop
  | .textStart => .textStart
  | .textStop => .textStop
  | .word edge => if m.unicode then .unicodeWord edge else .word edge

def SetOperation.apply : SetOperation → CharSet → CharSet → CharSet
  | .inter => .inter
  | .diff => .diff
  | .symmDiff => .symmDiff

mutual

def Term.setIn (m : Mode) : Term → Except Fault CharSet
  | .empty _ => pure .empty
  | .literal l => do pure (.single (← l.memberIn m))
  | .range _ low high => do
    let low ← low.memberIn m
    let high ← high.memberIn m
    pure (.range low high)
  | .named span kind negated => classIn m span negated kind.set
  | .property span p => faultAt (p.cause m) span
  | .short span kind negated => kind.setIn m span negated
  | .bracket span negated content => do classIn m span negated (← content.setIn m)
  | .union _ terms => Term.unionIn m terms
  | .combined _ op left right => do
    let a ← left.setIn m
    let b ← right.setIn m
    let b ← foldIn m right.span b
    let a ← foldIn m left.span a
    pure (op.apply a b)

def Term.unionIn (m : Mode) : List Term → Except Fault CharSet
  | [] => pure .empty
  | t :: ts => do
    let s ← t.setIn m
    pure (s.union (← Term.unionIn m ts))

end

def Atom.patternIn (m : Mode) : Atom → Except Fault Pattern
  | .literal l => l.patternIn m
  | .dot span => dotIn m span
  | .assertion _ kind => pure (.look (kind.lookIn m))
  | .property span p => faultAt (p.cause m) span
  | .short span kind negated => do pure (.one (← kind.setIn m span negated))

mutual

/-- What an expression matches, and the mode behind it. Settings hold up to the end of the group
that they stand in. -/
def Expression.patternIn (m : Mode) : Expression → Except Fault (Pattern × Mode)
  | .empty _ => pure (.empty, m)
  | .settings _ s => pure (.empty, m.applyAll s)
  | .atom a => do pure (← a.patternIn m, m)
  | .bracket t => do pure (.one (← t.setIn m), m)
  | .repeated _ bounds body => do
    let (p, m) ← body.patternIn m
    pure (p.repeated bounds.least bounds.most, m)
  | .group _ captures s body => do
    let (p, _) ← body.patternIn (m.applyAll s)
    pure (if captures then .group p else p, m)
  | .branches _ es => do
    let (ps, m) ← Expression.patternsIn m es
    pure (.ofBranches ps, m)
  | .row _ es => do
    let (ps, m) ← Expression.patternsIn m es
    pure (.ofRow ps, m)

def Expression.patternsIn (m : Mode) : List Expression → Except Fault (List Pattern × Mode)
  | [] => pure ([], m)
  | e :: es => do
    let (p, m) ← e.patternIn m
    let (ps, m) ← Expression.patternsIn m es
    pure (p :: ps, m)

end

def Expression.pattern (e : Expression) : Except Fault Pattern := do
  let (p, _) ← e.patternIn .standard
  pure p

def parse (text : String) : Except String Pattern :=
  let cs := text.toList
  match Expression.read cs >>= Expression.pattern with
  | .error fault => .error (fault.report cs)
  | .ok p =>
    if p.asksUnicodeWord then .error "error building NFA"
    else if roomLimit < p.room then
      .error ("Compiled regex exceeds size limit of " ++ toString roomLimit ++ " bytes.")
    else .ok p

end BlockVolume.Pattern
