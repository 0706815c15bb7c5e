import BlockVolume.Config
import BlockVolume.Toml.Document
import BlockVolume.Unix.Call

namespace BlockVolume.Config

inductive Group
  | named (entries : Toml.Entries)
  | ordered (items : List Toml.Item)

namespace Group

/-- The group that an item stands for. A date stands for a group without members. -/
def ofItem? : Toml.Item → Option Group
  | .table _ entries | .inline _ entries => some (.named entries)
  | .array items | .tables items => some (.ordered items)
  | .moment => some (.named [])
  | _ => none

def member? (g : Group) (place : Nat) (name : String) : Option Toml.Item :=
  match g with
  | .named entries => Toml.Entries.get? entries name
  | .ordered items => items[place]?

/-- The value of a member, or `default` if it is missing. A member that cannot be read spoils the
group. -/
def read {α : Type} (g : Group) (place : Nat) (name : String) (default : α)
    (value? : Toml.Item → Option α) : Option α :=
  match g.member? place name with
  | none => some default
  | some item => value? item

end Group

def textOf? : Toml.Item → Option String
  | .string text => some text
  | _ => none

def countOf? (bound : Nat) : Toml.Item → Option Nat
  | .integer n => if 0 ≤ n ∧ n < bound then some n.toNat else none
  | _ => none

def numberOf? : Toml.Item → Option Binary64
  | .integer n => some (Binary64.ofRat n)
  | .float x => some x
  | _ => none

def retryOf? (item : Toml.Item) : Option RetryConfig := do
  let g ← Group.ofItem? item
  let d := RetryConfig.standard
  let initialDelayMillis ←
    g.read 0 "initial_delay_ms" d.initialDelayMillis (countOf? 18446744073709551616)
  let factor ← g.read 1 "factor" d.factor numberOf?
  let steps ← g.read 2 "steps" d.steps (countOf? 4294967296)
  pure ⟨initialDelayMillis, factor, steps⟩

def udevadmTimeoutOf? (item : Toml.Item) : Option Nat := do
  let g ← Group.ofItem? item
  g.read 0 "udevadm_timeout_secs" standard.udevadmTimeoutSecs (countOf? 18446744073709551616)

def ofItem? (root : Toml.Item) : Option Config := do
  let g ← Group.ofItem? root
  let defaultFstype ← g.read 0 "default_fstype" standard.defaultFstype textOf?
  let retry ← g.read 1 "backoff" standard.retry retryOf?
  let udevadmTimeoutSecs ← g.read 2 "commands" standard.udevadmTimeoutSecs udevadmTimeoutOf?
  pure ⟨defaultFstype, retry, udevadmTimeoutSecs⟩

inductive ReadError
  | malformed
  | problem (p : ConfigProblem)
  deriving DecidableEq

def read (text : String) : Except ReadError Config :=
  match Toml.parse text >>= ofItem? with
  | none => .error .malformed
  | some config =>
    match config.problem? with
    | some p => .error (.problem p)
    | none => .ok config

inductive LoadFailure
  | unreadable (error : IoError)
  | invalid (error : ReadError)
  deriving DecidableEq

namespace LoadFailure

def context (file : Path) : LoadFailure → String
  | .unreadable _ => "Unable to read " ++ file.text
  | .invalid _ => "Invalid config file " ++ file.text

def reason : LoadFailure → String
  | .unreadable e => e.message
  | .invalid .malformed => "TOML parse error"
  | .invalid (.problem p) => (VolumeError.config p.message).message

end LoadFailure

def load (file : Path) : Plan Unix (Except LoadFailure Config) := do
  match ← Unix.readText file with
  | .error e => pure (.error (.unreadable e))
  | .ok text => pure ((read text).mapError LoadFailure.invalid)

end BlockVolume.Config
