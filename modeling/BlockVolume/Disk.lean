namespace BlockVolume

inductive DiskContent
  | blank
  | filesystem (fstype : String)
  | partitionTable (kind : String)
  deriving DecidableEq

inductive CheckOutcome
  | clean
  | corrected
  | uncorrected
  | failed (code : Option Int)
  deriving DecidableEq

/-- What an exit code of `fsck` says; no code means that a signal ended it. -/
def CheckOutcome.ofExitCode : Option Int → CheckOutcome
  | some 0 => .clean
  | some 1 => .corrected
  | some 4 => .uncorrected
  | code => .failed code

def formattable : List String := ["ext2", "ext3", "ext4", "xfs"]

/-- The file systems that are checked before they are mounted for writing, and grown on the disk. -/
def isExtFamily (fstype : String) : Bool := ["ext2", "ext3", "ext4"].contains fstype

structure MountFlags where
  bits : Nat
  deriving DecidableEq

namespace MountFlags

def none : MountFlags := ⟨0⟩

def union (a b : MountFlags) : MountFlags := ⟨a.bits ||| b.bits⟩

def contains (a b : MountFlags) : Bool := a.bits &&& b.bits == b.bits

def readOnly : MountFlags := ⟨1⟩

def named : List (String × MountFlags) :=
  [("MS_RDONLY", readOnly), ("MS_NOSUID", ⟨2⟩), ("MS_NODEV", ⟨4⟩), ("MS_NOEXEC", ⟨8⟩),
    ("MS_SYNCHRONOUS", ⟨16⟩), ("MS_NOATIME", ⟨1024⟩), ("MS_NODIRATIME", ⟨2048⟩),
    ("MS_BIND", ⟨4096⟩), ("MS_REC", ⟨16384⟩)]

def describe (flags : MountFlags) : String :=
  let names := (named.filter fun (_, flag) => flags.contains flag).map Prod.fst
  "MsFlags(" ++ (if names.isEmpty then "0x0" else " | ".intercalate names) ++ ")"

end MountFlags

structure MountOptions where
  words : List String
  deriving DecidableEq

namespace MountOptions

def flagsOf? : String → Option MountFlags
  | "ro" => some MountFlags.readOnly
  | "rw" => some MountFlags.none
  | "bind" => some ⟨4096⟩
  | "rbind" => some ⟨4096 + 16384⟩
  | "noatime" => some ⟨1024⟩
  | "nodiratime" => some ⟨2048⟩
  | "nodev" => some ⟨4⟩
  | "noexec" => some ⟨8⟩
  | "nosuid" => some ⟨2⟩
  | "sync" => some ⟨16⟩
  | "defaults" => some MountFlags.none
  | _ => none

def isReadOnly (options : MountOptions) : Bool := options.words.contains "ro"

def flags (options : MountOptions) : MountFlags :=
  (options.words.filterMap flagsOf?).foldl MountFlags.union MountFlags.none

def unrecognised (options : MountOptions) : List String :=
  options.words.filter fun word => (flagsOf? word).isNone

def data (options : MountOptions) : Option String :=
  match options.unrecognised with
  | [] => none
  | words => some (",".intercalate words)

end MountOptions

end BlockVolume
