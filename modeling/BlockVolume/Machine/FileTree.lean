import BlockVolume.IoError
import BlockVolume.Path

namespace BlockVolume

abbrev Place := List String

inductive FileNode
  | directory
  | file (content : List UInt8)
  | link (target : String)
  deriving DecidableEq

/-- A file tree, and the directory that relative paths start from. The directories above every node
are nodes too. -/
structure FileTree where
  nodes : List (Place × FileNode)
  workingDirectory : Place
  deriving DecidableEq

namespace FileTree

def node? (t : FileTree) (place : Place) : Option FileNode := t.nodes.lookup place

def put (t : FileTree) (place : Place) (node : FileNode) : FileTree :=
  { t with nodes := (place, node) :: t.nodes.filter (·.1 ≠ place) }

def erase (t : FileTree) (place : Place) : FileTree :=
  { t with nodes := t.nodes.filter (·.1 ≠ place) }

def nameIn? (dir place : Place) : Option String :=
  match place.getLast? with
  | some name => if place.dropLast = dir then some name else none
  | none => none

def namesIn (t : FileTree) (dir : Place) : List String := t.nodes.filterMap fun x => nameIn? dir x.1

inductive Spot
  | top (place : Place)
  | here (place : Place)
  | up (place : Place)
  /-- To a name in a directory, and what is there. `slash` says that a slash follows the name. -/
  | entry (dir : Place) (name : String) (node : Option FileNode) (slash : Bool)
  deriving DecidableEq

inductive LastLink
  | follow
  | keep
  /-- Follow it unless a slash comes after it. -/
  | followBare
  deriving DecidableEq

def maxName : Nat := 255

def maxPath : Nat := 4095

def maxLinks : Nat := 40

def pieces (text : String) : List String := (Text.splitAt '/' text.toList).map String.ofList

def origin (dir : Place) (text : String) : Place := if (⟨text⟩ : Path).isAbsolute then [] else dir

def nothingFollows (rest : List String) : Bool := rest.all (· = "")

def LastLink.follows (mode : LastLink) (slash : Bool) : Bool :=
  match mode with
  | .follow => true
  | .keep => false
  | .followBare => !slash

/-- Goes along a path from the directory `dir`. `onLink` takes over where a link has to be followed,
with the directory to go on from and the pieces still to go. -/
def walkWith (t : FileTree) (mode : LastLink)
    (onLink : Place → List String → Except Errno Spot) : Place → List String → Except Errno Spot
  | dir, [] => .ok (.top dir)
  | dir, piece :: rest =>
    if piece = "" then walkWith t mode onLink dir rest
    else if piece = "." then
      if nothingFollows rest then .ok (.here dir) else walkWith t mode onLink dir rest
    else if piece = ".." then
      if nothingFollows rest then .ok (.up dir.dropLast)
      else walkWith t mode onLink dir.dropLast rest
    else if maxName < piece.utf8ByteSize then .error .nameTooLong
    else
      let ends := nothingFollows rest
      let slash := !rest.isEmpty
      match t.node? (dir ++ [piece]) with
      | none => if ends then .ok (.entry dir piece none slash) else .error .noEntry
      | some .directory =>
        if ends then .ok (.entry dir piece (some .directory) slash)
        else walkWith t mode onLink (dir ++ [piece]) rest
      | some (.file content) =>
        if ends then .ok (.entry dir piece (some (.file content)) slash) else .error .notDirectory
      | some (.link target) =>
        if ends && !mode.follows slash then .ok (.entry dir piece (some (.link target)) slash)
        else onLink (origin dir target) (pieces target ++ rest)

def walk (t : FileTree) (mode : LastLink) : Nat → Place → List String → Except Errno Spot
  | 0 => walkWith t mode fun _ _ => .error .loop
  | links + 1 => walkWith t mode (walk t mode links)

def locate (t : FileTree) (mode : LastLink) (p : Path) : Except IoError Spot :=
  if Text.hasNul p.text then .error .nulInPath
  else if p.text = "" then .error (.system .noEntry)
  else if maxPath < p.text.utf8ByteSize then .error (.system .nameTooLong)
  else
    (walk t mode maxLinks (origin t.workingDirectory p.text) (pieces p.text)).mapError
      IoError.system

def lookUp (t : FileTree) (p : Path) : Except IoError (Place × FileNode) := do
  match ← t.locate .follow p with
  | .top place | .here place | .up place => .ok (place, .directory)
  | .entry _ _ none _ => .error (.system .noEntry)
  | .entry _ _ (some (.file _)) true => .error (.system .notDirectory)
  | .entry dir name (some node) _ => .ok (dir ++ [name], node)

def isDirectory (t : FileTree) (p : Path) : Bool :=
  match t.lookUp p with
  | .ok (_, .directory) => true
  | _ => false

def sorted (names : List String) : List String :=
  names.mergeSort fun a b => !(b.toList.map Char.toNat).lex (a.toList.map Char.toNat) Nat.blt

def readDirectory (t : FileTree) (p : Path) : Except IoError (List String) := do
  match ← t.lookUp p with
  | (place, .directory) => .ok (sorted (t.namesIn place))
  | _ => .error (.system .notDirectory)

def contentOf (t : FileTree) (p : Path) : Except IoError (List UInt8) := do
  match ← t.lookUp p with
  | (_, .file content) => .ok content
  | _ => .error (.system .isDirectory)

def openForWriting (t : FileTree) (p : Path) : Except IoError (Place × Option (List UInt8)) := do
  match ← t.locate .followBare p with
  | .entry dir name none false => .ok (dir ++ [name], none)
  | .entry dir name (some (.file content)) false => .ok (dir ++ [name], some content)
  | _ => .error (.system .isDirectory)

def writeFile (t : FileTree) (p : Path) (content : List UInt8) : Except IoError FileTree := do
  let (place, _) ← t.openForWriting p
  .ok (t.put place (.file content))

def touch (t : FileTree) (p : Path) : Except IoError (Place × FileTree) := do
  match ← t.openForWriting p with
  | (place, none) => .ok (place, t.put place (.file []))
  | (place, some _) => .ok (place, t)

def append (t : FileTree) (place : Place) (more : List UInt8) : FileTree :=
  match t.node? place with
  | some (.file content) => t.put place (.file (content ++ more))
  | _ => t

def makeDirectory (t : FileTree) (p : Path) : Except IoError FileTree := do
  match ← t.locate .keep p with
  | .entry dir name none _ => .ok (t.put (dir ++ [name]) .directory)
  | _ => .error (.system .fileExists)

def removeDirectory (t : FileTree) (p : Path) : Except IoError FileTree := do
  match ← t.locate .keep p with
  | .top _ => .error (.system .busy)
  | .here _ => .error (.system .invalid)
  | .up _ => .error (.system .notEmpty)
  | .entry _ _ none _ => .error (.system .noEntry)
  | .entry dir name (some .directory) _ =>
    if (t.namesIn (dir ++ [name])).isEmpty then .ok (t.erase (dir ++ [name]))
    else .error (.system .notEmpty)
  | .entry _ _ (some _) _ => .error (.system .notDirectory)

def ensureDirectory (t : FileTree) (p : Path) : Except IoError Unit × FileTree :=
  match t.makeDirectory p with
  | .ok t => (.ok (), t)
  | .error e => if t.isDirectory p then (.ok (), t) else (.error e, t)

/-- Makes directories from a list of paths, each above the one before it: from the first one that
can be made or is there, down to the front of the list. -/
def makeUpTo (t : FileTree) : List Path → Except IoError Unit × FileTree
  | [] => (.ok (), t)
  | p :: above =>
    match t.makeDirectory p with
    | .ok t => (.ok (), t)
    | .error e =>
      if !e.isNotFound then (if t.isDirectory p then (.ok (), t) else (.error e, t))
      else match t.makeUpTo above with
        | (.ok (), t) => t.ensureDirectory p
        | (.error e, t) => (.error e, t)

/-- The path itself and the directories above it, the empty path apart. -/
def withParents (p : Path) : Nat → List Path
  | 0 => []
  | n + 1 => p :: match p.parent? with
    | some above => if above.text = "" then [] else withParents above n
    | none => []

def makeDirectories (t : FileTree) (p : Path) : Except IoError Unit × FileTree :=
  if p.text = "" then (.ok (), t) else t.makeUpTo (withParents p (p.components.length + 1))

end FileTree

end BlockVolume
