import BlockVolume.Text

namespace BlockVolume

structure Path where
  text : String
  deriving DecidableEq

inductive Component
  | root
  | here
  | up
  | name (text : String)
  deriving DecidableEq

namespace Component

def ofPiece? (piece : List Char) : Option Component :=
  if piece = [] ∨ piece = ['.'] then none
  else if piece = ['.', '.'] then some .up
  else some (.name (String.ofList piece))

def key : Component → List Nat
  | .root => [0]
  | .here => [1]
  | .up => [2]
  | .name s => 3 :: s.toList.map Char.toNat

end Component

namespace Path

def isAbsolute (p : Path) : Bool := p.text.toList.head? == some '/'

/-- Repeated and trailing slashes and components `.` do not count, except that a relative path may
begin with one `.`. -/
def components (p : Path) : List Component :=
  let pieces := Text.splitAt '/' p.text.toList
  let start :=
    if p.isAbsolute then [.root] else if pieces.head? = some ['.'] then [.here] else []
  start ++ pieces.filterMap Component.ofPiece?

def same (p q : Path) : Bool := p.components == q.components

/-- `q` seen from `p`: an absolute `q` is itself, any other is appended, after a slash if `p` does
not end in one. -/
def join (p q : Path) : Path :=
  if q.isAbsolute then q
  else if p.text = "" ∨ p.text.toList.getLast? = some '/' then ⟨p.text ++ q.text⟩
  else ⟨p.text ++ "/" ++ q.text⟩

def beginnings : List Component → List (List Component)
  | [] => [[]]
  | c :: cs => [] :: (beginnings cs).map (c :: ·)

/-- The steps of a path and of all directories above it. The last directory above a relative path
has no steps. -/
def ancestors (p : Path) : List (List Component) :=
  if p.isAbsolute then (beginnings p.components).drop 1 else beginnings p.components

def stepText : Component → String
  | .root => ""
  | .here => "."
  | .up => ".."
  | .name text => text

def ofComponents (steps : List Component) : Path :=
  if steps = [.root] then ⟨"/"⟩ else ⟨"/".intercalate (steps.map stepText)⟩

def parent? (p : Path) : Option Path :=
  match p.components.reverse with
  | [] => none
  | .root :: _ => none
  | _ :: above => some (ofComponents above.reverse)

def key (p : Path) : List (List Nat) := p.components.map Component.key

def le (p q : Path) : Bool := !q.key.lex p.key fun a b => a.lex b Nat.blt

end Path

end BlockVolume
