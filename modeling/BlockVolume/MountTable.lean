import BlockVolume.Path
import BlockVolume.Text

namespace BlockVolume

namespace MountTable

def replaceCode (code : List Char) (c : Char) (text : List Char) : List Char :=
  go 0 text
where
  /-- `replaceCode` on what follows the next `skip` characters, which a code already took. -/
  go : Nat → List Char → List Char
    | _, [] => []
    | skip + 1, _ :: rest => go skip rest
    | 0, d :: rest =>
      if code.isPrefixOf (d :: rest) then c :: go (code.length - 1) rest else d :: go 0 rest

/-- The escapes, in the order they are undone. The backslash is last, so that none that it yields
begins another escape. -/
def codes : List (List Char × Char) :=
  [("\\040".toList, ' '), ("\\011".toList, '\t'), ("\\012".toList, '\n'), ("\\134".toList, '\\')]

def unescape (text : List Char) : List Char :=
  codes.foldl (fun t (code, c) => replaceCode code c t) text

end MountTable

structure MountEntry where
  mountPoint : Path
  fstype : String
  source : String
  deriving DecidableEq

namespace MountEntry

/-- Reads a line: five fields or more of which the fifth is the mount point, a lone hyphen, and the
type and the source. Other lines stand for no mount. -/
def ofLine? (line : List Char) : Option MountEntry := do
  let (before, after) ← Text.splitFirst " - ".toList line
  let mountPoint ← (Text.words before)[4]?
  let described := Text.words after
  let fstype ← described[0]?
  let source ← described[1]?
  pure ⟨⟨String.ofList (MountTable.unescape mountPoint)⟩, String.ofList fstype,
    String.ofList (MountTable.unescape source)⟩

end MountEntry

namespace MountTable

def parse (text : String) : List MountEntry :=
  (Text.lines text.toList).filterMap MountEntry.ofLine?

def lookupText (p : Path) : List Char :=
  let cs := p.text.toList
  if cs.length ≤ 1 then cs else (cs.reverse.dropWhile (· = '/')).reverse

def find (p : Path) (entries : List MountEntry) : Option MountEntry :=
  entries.reverse.find? fun e => lookupText e.mountPoint == lookupText p

def isMounted (p : Path) (entries : List MountEntry) : Bool := (find p entries).isSome

def firstsAfter (before : Path) : List Path → List Path
  | [] => []
  | p :: ps => if before.same p then firstsAfter before ps else p :: firstsAfter p ps

def firsts : List Path → List Path
  | [] => []
  | p :: ps => p :: firstsAfter p ps

def mountPointsOf (source : String) (entries : List MountEntry) : List Path :=
  firsts (((entries.filter (·.source = source)).map (·.mountPoint)).mergeSort Path.le)

end MountTable

end BlockVolume
