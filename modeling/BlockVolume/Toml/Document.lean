import BlockVolume.Toml.Value

namespace BlockVolume.Toml

def passage (dotted : Bool) : Item := .table ⟨true, dotted⟩ []

/-- Changes the table at the end of a path. Missing tables are made on the way, the last row of
several tables stands for them, and a dotted key (`dotted`) does not lead through a table that a
header named. -/
def changeAt (dotted : Bool) (change : Item → Option Item) : List String → Item → Option Item
  | [], t => change t
  | part :: path, .table origin entries =>
    match (Entries.get? entries part).getD (passage dotted) with
    | .table o inner =>
      if dotted && !o.implicit then none
      else do
        let t ← changeAt dotted change path (.table o inner)
        pure (.table origin (Entries.put entries part t))
    | .tables rows => do
      let row ← rows.getLast?
      let t ← changeAt dotted change path row
      pure (.table origin (Entries.put entries part (.tables (rows.dropLast ++ [t]))))
    | _ => none
  | _ :: _, _ => none

/-- Puts an item into a table under its own key. `direct` says that no dotted key led there; it must
not be so in a table that dotted keys made, and must be so in any other. -/
def putEntry (item : Item) (last : String) (direct : Bool) : Item → Option Item
  | .table origin entries =>
    if origin.dotted = direct then none
    else do
      let entries ← Entries.insertNew entries last item
      pure (.table origin entries)
  | _ => none

structure Draft where
  root : Item
  current : Item
  path : List String
  isRow : Bool

namespace Draft

def start : Draft := ⟨.table ⟨false, false⟩ [], .table ⟨false, false⟩ [], [], false⟩

def place (isRow : Bool) (table : Item) (last : String) : Item → Option Item
  | .table origin entries =>
    if isRow then
      match (Entries.get? entries last).getD (.tables []) with
      | .tables rows => some (.table origin (Entries.put entries last (.tables (rows ++ [table]))))
      | _ => none
    else
      match Entries.get? entries last with
      | none => some (.table origin (entries ++ [(last, table)]))
      | some (.table o _) =>
        if o.implicit then some (.table origin (Entries.put entries last table)) else none
      | some _ => none
  | _ => none

def close (d : Draft) : Option Item :=
  match d.path.getLast? with
  | none => some d.current
  | some last => changeAt false (place d.isRow d.current last) d.path.dropLast d.root

def put (d : Draft) (path : List String) (last : String) (item : Item) : Option Draft := do
  let current ← changeAt true (putEntry item last path.isEmpty) path d.current
  pure { d with current }

/-- The entries of the table that a header names: those that are there if only longer headers led
through it, else none; but the header of a table that is there already is refused. -/
def reopened? (last : String) : Item → Option Entries
  | .table _ entries =>
    match Entries.get? entries last with
    | none => some []
    | some (.table o inner) => if o.implicit && !o.dotted then some inner else none
    | some _ => none
  | _ => none

/-- Takes the table under a key out, for it to become the current one. -/
def takeOut (last : String) : Item → Item
  | .table origin entries => .table origin (Entries.erase entries last)
  | t => t

def itemAt? : List String → Item → Option Item
  | [], t => some t
  | part :: path, .table _ entries =>
    match Entries.get? entries part with
    | some (.tables rows) => do itemAt? path (← rows.getLast?)
    | some t => itemAt? path t
    | none => none
  | _ :: _, _ => none

def header (d : Draft) (path : List String) (last : String) : Option Draft := do
  let root ← d.close
  let root ← changeAt false some path root
  let entries ← reopened? last (← itemAt? path root)
  let root ← changeAt false (fun t => some (takeOut last t)) path root
  pure ⟨root, .table ⟨false, false⟩ entries, path ++ [last], false⟩

def takesRows (last : String) : Item → Bool
  | .table _ entries =>
    match Entries.get? entries last with
    | none | some (.tables _) => true
    | some _ => false
  | _ => false

def rowHeader (d : Draft) (path : List String) (last : String) : Option Draft := do
  let root ← d.close
  let root ← changeAt false some path root
  let parent ← itemAt? path root
  if takesRows last parent then
    pure ⟨root, .table ⟨false, false⟩ [], path ++ [last], true⟩
  else none

end Draft

def line (d : Draft) : Reader Draft := fun cs =>
  (do
    match ← Reader.peek with
    | some '#' =>
      lineEnd
      pure d
    | some '\n' | some '\r' =>
      newline
      pure d
    | some '[' =>
      Reader.char '['
      if (← Reader.peek) = some '[' then
        Reader.char '['
        let (path, last) ← key
        Reader.text "]]".toList
        lineEnd
        Reader.ofOption (d.rowHeader path last)
      else
        let (path, last) ← key
        Reader.char ']'
        lineEnd
        Reader.ofOption (d.header path last)
    | _ =>
      let (path, last) ← key
      Reader.char '='
      blanks
      let item ← value 0 (2 * cs.length + 2)
      lineEnd
      Reader.ofOption (d.put path last item) : Reader Draft) cs

def document (d : Draft) : Nat → Reader Draft
  | 0 => Reader.fail
  | fuel + 1 => do
    blanks
    if ← Reader.atEnd then pure d
    else document (← line d) fuel

def parse (text : String) : Option Item := do
  let cs := text.toList
  let cs := if cs.head? = some '\uFEFF' then cs.drop 1 else cs
  let (d, _) ← document Draft.start (cs.length + 1) cs
  d.close

end BlockVolume.Toml
