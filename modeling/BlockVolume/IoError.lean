namespace BlockVolume

structure Errno where
  code : Int
  deriving DecidableEq

namespace Errno

structure Entry where
  code : Int
  name : String
  system : String
  short : String

def table : List Entry :=
  [ ⟨1, "EPERM", "Operation not permitted", "Operation not permitted"⟩,
    ⟨2, "ENOENT", "No such file or directory", "No such file or directory"⟩,
    ⟨4, "EINTR", "Interrupted system call", "Interrupted system call"⟩,
    ⟨5, "EIO", "Input/output error", "I/O error"⟩,
    ⟨6, "ENXIO", "No such device or address", "No such device or address"⟩,
    ⟨11, "EAGAIN", "Resource temporarily unavailable", "Try again"⟩,
    ⟨12, "ENOMEM", "Cannot allocate memory", "Out of memory"⟩,
    ⟨13, "EACCES", "Permission denied", "Permission denied"⟩,
    ⟨16, "EBUSY", "Device or resource busy", "Device or resource busy"⟩,
    ⟨17, "EEXIST", "File exists", "File exists"⟩,
    ⟨19, "ENODEV", "No such device", "No such device"⟩,
    ⟨20, "ENOTDIR", "Not a directory", "Not a directory"⟩,
    ⟨21, "EISDIR", "Is a directory", "Is a directory"⟩,
    ⟨22, "EINVAL", "Invalid argument", "Invalid argument"⟩,
    ⟨24, "EMFILE", "Too many open files", "Too many open files"⟩,
    ⟨28, "ENOSPC", "No space left on device", "No space left on device"⟩,
    ⟨30, "EROFS", "Read-only file system", "Read-only file system"⟩,
    ⟨36, "ENAMETOOLONG", "File name too long", "File name too long"⟩,
    ⟨39, "ENOTEMPTY", "Directory not empty", "Directory not empty"⟩,
    ⟨40, "ELOOP", "Too many levels of symbolic links", "Too many symbolic links encountered"⟩,
    ⟨95, "EOPNOTSUPP", "Operation not supported", "Operation not supported on transport endpoint"⟩,
    ⟨103, "ECONNABORTED", "Software caused connection abort", "Software caused connection abort"⟩,
    ⟨104, "ECONNRESET", "Connection reset by peer", "Connection reset by peer"⟩,
    ⟨107, "ENOTCONN", "Transport endpoint is not connected",
      "Transport endpoint is not connected"⟩,
    ⟨110, "ETIMEDOUT", "Connection timed out", "Connection timed out"⟩,
    ⟨111, "ECONNREFUSED", "Connection refused", "Connection refused"⟩,
    ⟨112, "EHOSTDOWN", "Host is down", "Host is down"⟩,
    ⟨113, "EHOSTUNREACH", "No route to host", "No route to host"⟩,
    ⟨115, "EINPROGRESS", "Operation now in progress", "Operation now in progress"⟩,
    ⟨116, "ESTALE", "Stale file handle", "Stale file handle"⟩,
    ⟨117, "EUCLEAN", "Structure needs cleaning", "Structure needs cleaning"⟩ ]

def entry? (e : Errno) : Option Entry := table.find? (·.code = e.code)

def system (e : Errno) : String :=
  match e.entry? with
  | some row => row.system
  | none => if e.code = 0 then "Success" else "Unknown error " ++ toString e.code

def named (e : Errno) : String :=
  match e.entry? with
  | some row => row.name ++ ": " ++ row.short
  | none => "UnknownErrno: Unknown errno"

def notPermitted : Errno := ⟨1⟩
def noEntry : Errno := ⟨2⟩
def io : Errno := ⟨5⟩
def accessDenied : Errno := ⟨13⟩
def busy : Errno := ⟨16⟩
def fileExists : Errno := ⟨17⟩
def notDirectory : Errno := ⟨20⟩
def isDirectory : Errno := ⟨21⟩
def invalid : Errno := ⟨22⟩
def nameTooLong : Errno := ⟨36⟩
def notEmpty : Errno := ⟨39⟩
def loop : Errno := ⟨40⟩
def notConnected : Errno := ⟨107⟩
def hostDown : Errno := ⟨112⟩
def stale : Errno := ⟨116⟩

/-- The error numbers by which a mount point shows that its mount is broken. -/
def corruptedMount : List Errno := [notConnected, stale, io, accessDenied, hostDown]

end Errno

inductive IoKind
  | notFound
  | permissionDenied
  | connectionRefused
  | connectionReset
  | notConnected
  | addressInUse
  | brokenPipe
  | alreadyExists
  | wouldBlock
  | invalidInput
  | invalidData
  | timedOut
  | writeZero
  | interrupted
  | unsupported
  | unexpectedEnd
  | outOfMemory
  | hostUnreachable
  | notADirectory
  | isADirectory
  | directoryNotEmpty
  | readOnlyFilesystem
  | staleHandle
  | storageFull
  | resourceBusy
  | other
  deriving DecidableEq

def IoKind.message : IoKind → String
  | .notFound => "entity not found"
  | .permissionDenied => "permission denied"
  | .connectionRefused => "connection refused"
  | .connectionReset => "connection reset"
  | .notConnected => "not connected"
  | .addressInUse => "address in use"
  | .brokenPipe => "broken pipe"
  | .alreadyExists => "entity already exists"
  | .wouldBlock => "operation would block"
  | .invalidInput => "invalid input parameter"
  | .invalidData => "invalid data"
  | .timedOut => "timed out"
  | .writeZero => "write zero"
  | .interrupted => "operation interrupted"
  | .unsupported => "unsupported"
  | .unexpectedEnd => "unexpected end of file"
  | .outOfMemory => "out of memory"
  | .hostUnreachable => "host unreachable"
  | .notADirectory => "not a directory"
  | .isADirectory => "is a directory"
  | .directoryNotEmpty => "directory not empty"
  | .readOnlyFilesystem => "read-only filesystem or storage medium"
  | .staleHandle => "stale network file handle"
  | .storageFull => "no storage space"
  | .resourceBusy => "resource busy"
  | .other => "other error"

inductive IoError
  | system (errno : Errno)
  | simple (kind : IoKind)
  | custom (kind : IoKind) (text : String)
  deriving DecidableEq

namespace IoError

def message : IoError → String
  | .system e => e.system ++ " (os error " ++ toString e.code ++ ")"
  | .simple kind => kind.message
  | .custom _ text => text

def errno? : IoError → Option Errno
  | .system e => some e
  | _ => none

def isNotFound : IoError → Bool
  | .system e => e == Errno.noEntry
  | .simple kind => kind == .notFound
  | .custom kind _ => kind == .notFound

def nulInPath : IoError := .custom .invalidInput "file name contained an unexpected NUL byte"

def nulInArgument : IoError := .custom .invalidInput "nul byte found in provided data"

def notText : IoError := .custom .invalidData "stream did not contain valid UTF-8"

end IoError

end BlockVolume
