namespace BlockVolume

namespace Pattern

/-- The code points, in ascending order, at which characters change from not being in the set to
being in it and back. -/
structure CharSet where
  changes : List Nat
  deriving DecidableEq

namespace CharSet

def inAfter (state : Bool) : List Nat → Nat → Bool
  | [], _ => state
  | x :: xs, n => if n < x then state else inAfter (!state) xs n

def contains (s : CharSet) (c : Char) : Bool := inAfter false s.changes c.toNat

def changeTo (before after : Bool) (x : Nat) (rest : List Nat) : List Nat :=
  if before = after then rest else x :: rest

/-- The changes of a combination of two sets, from states on that have been combined so far. -/
def combineFrom (op : Bool → Bool → Bool) (a b : Bool) : List Nat → List Nat → List Nat
  | [], [] => []
  | x :: xs, [] => changeTo (op a b) (op (!a) b) x (combineFrom op (!a) b xs [])
  | [], y :: ys => changeTo (op a b) (op a (!b)) y (combineFrom op a (!b) [] ys)
  | x :: xs, y :: ys =>
    if x < y then changeTo (op a b) (op (!a) b) x (combineFrom op (!a) b xs (y :: ys))
    else if y < x then changeTo (op a b) (op a (!b)) y (combineFrom op a (!b) (x :: xs) ys)
    else changeTo (op a b) (op (!a) (!b)) x (combineFrom op (!a) (!b) xs ys)
  termination_by xs ys => xs.length + ys.length

def combine (op : Bool → Bool → Bool) (s t : CharSet) : CharSet :=
  ⟨combineFrom op false false s.changes t.changes⟩

def empty : CharSet := ⟨[]⟩

def all : CharSet := ⟨[0, 0xD800, 0xE000, 0x110000]⟩

def union (s t : CharSet) : CharSet := combine or s t

def inter (s t : CharSet) : CharSet := combine and s t

def diff (s t : CharSet) : CharSet := combine (fun a b => a && !b) s t

def symmDiff (s t : CharSet) : CharSet := combine Bool.xor s t

def compl (s : CharSet) : CharSet := diff all s

def range (low high : Char) : CharSet := inter all ⟨[low.toNat, high.toNat + 1]⟩

def single (c : Char) : CharSet := ⟨[c.toNat, c.toNat + 1]⟩

def ofRanges (ranges : List (Char × Char)) : CharSet :=
  ranges.foldl (fun s (low, high) => s.union (range low high)) empty

def isEmpty (s : CharSet) : Bool := s.changes.isEmpty

def isAscii (s : CharSet) : Bool := s.changes.all (· ≤ 0x80)

def foldCase (s : CharSet) : CharSet :=
  let capitals := s.inter (range 'A' 'Z')
  let smalls := s.inter (range 'a' 'z')
  (s.union ⟨capitals.changes.map (· + 32)⟩).union ⟨smalls.changes.map (· - 32)⟩

end CharSet

end Pattern

inductive Pattern.WordEdge
  | boundary
  | noBoundary
  | start
  | stop
  | startHalf
  | stopHalf
  deriving DecidableEq

inductive Pattern.Look
  | textStart
  | textStop
  | lineStart (crlf : Bool)
  | lineStop (crlf : Bool)
  | word (edge : Pattern.WordEdge)
  | unicodeWord (edge : Pattern.WordEdge)
  deriving DecidableEq

inductive Pattern
  | empty
  | one (s : Pattern.CharSet)
  | look (l : Pattern.Look)
  | seq (p q : Pattern)
  | alt (p q : Pattern)
  | group (p : Pattern)
  | rep (least : Nat) (most : Option Nat) (p : Pattern)
  deriving DecidableEq

namespace Pattern

def isWordChar (c : Char) : Bool := c.isAlphanum || c == '_'

def WordEdge.holds (before after : Bool) : WordEdge → Bool
  | .boundary => before != after
  | .noBoundary => before == after
  | .start => !before && after
  | .stop => before && !after
  | .startHalf => !before
  | .stopHalf => !after

/-- Whether a place between two characters, if there are any, is as asked. With `crlf` a carriage
return ends a line too, and a line feed behind it belongs to the same end. Of words as Unicode has
them nothing is known. -/
def Look.holds (before after : Option Char) : Look → Bool
  | .textStart => before.isNone
  | .textStop => after.isNone
  | .lineStart crlf =>
    before.isNone || before == some '\n' || (crlf && before == some '\r' && after != some '\n')
  | .lineStop crlf =>
    after.isNone || (crlf && after == some '\r') ||
      (after == some '\n' && !(crlf && before == some '\r'))
  | .word edge => edge.holds (before.any isWordChar) (after.any isWordChar)
  | .unicodeWord _ => false

def Look.holdsAt (text : Array Char) (l : Look) (i : Nat) : Bool :=
  l.holds (if i = 0 then none else text[i - 1]?) text[i]?

def merge : List Nat → List Nat → List Nat
  | [], ys => ys
  | xs, [] => xs
  | x :: xs, y :: ys =>
    if x < y then x :: merge xs (y :: ys)
    else if y < x then y :: merge (x :: xs) ys
    else x :: merge xs ys
  termination_by xs ys => xs.length + ys.length

def after (step : List Nat → List Nat) : Nat → List Nat → List Nat
  | 0, places => places
  | n + 1, places => if places = [] then [] else after step n (step places)

def within (step : List Nat → List Nat) : Nat → List Nat → List Nat
  | 0, places => places
  | n + 1, places =>
    let more := merge places (step places)
    if more = places then places else within step n more

/-- Where a match from one of the given places may end; places are numbers of characters before
them, in ascending order. A step never leads back, so steps beyond the number of places in a text
lead nowhere new. -/
def ends (text : Array Char) : Pattern → List Nat → List Nat
  | .empty, places => places
  | .one s, places => (places.filter fun i => text[i]?.any s.contains).map (· + 1)
  | .look l, places => places.filter (l.holdsAt text)
  | .seq p q, places => q.ends text (p.ends text places)
  | .alt p q, places => merge (p.ends text places) (q.ends text places)
  | .group p, places => p.ends text places
  | .rep least most p, places =>
    let bound := text.size + 1
    let first := after (p.ends text) (min least bound) places
    within (p.ends text) (match most with
      | none => bound
      | some m => min (m - least) bound) first

def occursIn (p : Pattern) (text : String) : Bool :=
  let cs := text.toList.toArray
  p.ends cs (List.range (cs.size + 1)) != []

def ofRow : List Pattern → Pattern
  | [] => .empty
  | [p] => p
  | p :: ps => .seq p (ofRow ps)

def ofBranches : List Pattern → Pattern
  | [] => .one .empty
  | [p] => p
  | p :: ps => .alt p (ofBranches ps)

def matchesOnlyEmpty : Pattern → Bool
  | .empty | .look _ => true
  | .one _ => false
  | .seq p q | .alt p q => p.matchesOnlyEmpty && q.matchesOnlyEmpty
  | .group p => p.matchesOnlyEmpty
  | .rep _ most p => most == some 0 || p.matchesOnlyEmpty

/-- A repetition. To match the empty text more than once is to match it once. -/
def repeated (least : Nat) (most : Option Nat) (p : Pattern) : Pattern :=
  let (least, most) :=
    if p.matchesOnlyEmpty then (min least 1, some (min (most.getD 1) 1)) else (least, most)
  if most = some 0 then .empty
  else if least = 1 ∧ most = some 1 then p
  else .rep least most p

def asksUnicodeWord : Pattern → Bool
  | .look (.unicodeWord _) => true
  | .empty | .one _ | .look _ => false
  | .seq p q | .alt p q => p.asksUnicodeWord || q.asksUnicodeWord
  | .group p | .rep _ _ p => p.asksUnicodeWord

/-- The octets that a matcher's steps for a set of characters take. Characters beyond ASCII have
several octets each, and all of them together many encodings. -/
def CharSet.room (s : CharSet) : Nat :=
  match s.changes with
  | [low, high] =>
    if high = low + 1 then 32 * (String.utf8EncodeChar (Char.ofNat low)).length
    else if s.isAscii then 72
    else 1000
  | changes => if s.isAscii then 64 + 4 * changes.length else 1000

/-- The octets that a matcher for a pattern takes, about: each step has 32, and repetitions are
written out. -/
def room : Pattern → Nat
  | .empty | .look _ => 32
  | .one s => s.room
  | .seq p q => p.room + q.room
  | .alt p q => p.room + q.room + 68
  | .group p => p.room + 64
  | .rep least none p => max least 1 * p.room + 64
  | .rep least (some most) p => most * p.room + (most - least) * 40 + 32

def roomLimit : Nat := 10 * 1048576

end Pattern

end BlockVolume
