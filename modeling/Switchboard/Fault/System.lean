import Switchboard.Text.Numeral

/-!
# Faults of the operating system

A call into the operating system fails with a number, and other code reports faults of the same
classes without one. `ErrorKind` is the class, `SystemError` the fault itself: a number, a bare
class, or a class with a text of its own. `SystemError.code` is the number, or 1 where there is
none.
-/

namespace Switchboard

/-- The classes of faults. -/
inductive ErrorKind where
  | notFound | permissionDenied | connectionRefused | connectionReset | hostUnreachable
  | networkUnreachable | connectionAborted | notConnected | addrInUse | addrNotAvailable
  | networkDown | brokenPipe | alreadyExists | wouldBlock | notADirectory | isADirectory
  | directoryNotEmpty | readOnlyFilesystem | filesystemLoop | staleNetworkFileHandle | invalidInput
  | invalidData | timedOut | writeZero | storageFull | notSeekable | quotaExceeded | fileTooLarge
  | resourceBusy | executableFileBusy | deadlock | crossesDevices | tooManyLinks | invalidFilename
  | argumentListTooLong | interrupted | unsupported | unexpectedEof | outOfMemory | inProgress
  | other | uncategorized
  deriving DecidableEq, Repr

namespace ErrorKind

/-- Every class with its name and its description. -/
def table : List (ErrorKind × String × String) :=
  [(notFound, "NotFound", "entity not found"),
   (permissionDenied, "PermissionDenied", "permission denied"),
   (connectionRefused, "ConnectionRefused", "connection refused"),
   (connectionReset, "ConnectionReset", "connection reset"),
   (hostUnreachable, "HostUnreachable", "host unreachable"),
   (networkUnreachable, "NetworkUnreachable", "network unreachable"),
   (connectionAborted, "ConnectionAborted", "connection aborted"),
   (notConnected, "NotConnected", "not connected"),
   (addrInUse, "AddrInUse", "address in use"),
   (addrNotAvailable, "AddrNotAvailable", "address not available"),
   (networkDown, "NetworkDown", "network down"),
   (brokenPipe, "BrokenPipe", "broken pipe"),
   (alreadyExists, "AlreadyExists", "entity already exists"),
   (wouldBlock, "WouldBlock", "operation would block"),
   (notADirectory, "NotADirectory", "not a directory"),
   (isADirectory, "IsADirectory", "is a directory"),
   (directoryNotEmpty, "DirectoryNotEmpty", "directory not empty"),
   (readOnlyFilesystem, "ReadOnlyFilesystem", "read-only filesystem or storage medium"),
   (filesystemLoop, "FilesystemLoop",
     "filesystem loop or indirection limit (e.g. symlink loop)"),
   (staleNetworkFileHandle, "StaleNetworkFileHandle", "stale network file handle"),
   (invalidInput, "InvalidInput", "invalid input parameter"),
   (invalidData, "InvalidData", "invalid data"),
   (timedOut, "TimedOut", "timed out"),
   (writeZero, "WriteZero", "write zero"),
   (storageFull, "StorageFull", "no storage space"),
   (notSeekable, "NotSeekable", "seek on unseekable file"),
   (quotaExceeded, "QuotaExceeded", "quota exceeded"),
   (fileTooLarge, "FileTooLarge", "file too large"),
   (resourceBusy, "ResourceBusy", "resource busy"),
   (executableFileBusy, "ExecutableFileBusy", "executable file busy"),
   (deadlock, "Deadlock", "deadlock"),
   (crossesDevices, "CrossesDevices", "cross-device link or rename"),
   (tooManyLinks, "TooManyLinks", "too many links"),
   (invalidFilename, "InvalidFilename", "invalid filename"),
   (argumentListTooLong, "ArgumentListTooLong", "argument list too long"),
   (interrupted, "Interrupted", "operation interrupted"),
   (unsupported, "Unsupported", "unsupported"),
   (unexpectedEof, "UnexpectedEof", "unexpected end of file"),
   (outOfMemory, "OutOfMemory", "out of memory"),
   (inProgress, "InProgress", "in progress"),
   (other, "Other", "other error"),
   (uncategorized, "Uncategorized", "uncategorized error")]

/-- The name of a class. -/
def name (k : ErrorKind) : String := ((table.lookup k).map Prod.fst).getD ""

/-- What a bare fault of the class says. -/
def description (k : ErrorKind) : String := ((table.lookup k).map Prod.snd).getD ""

/-- The class of a name. -/
def ofName? (s : String) : Option ErrorKind := (table.find? (·.2.1 = s)).map Prod.fst

/-- Every class is found again by its name. -/
theorem ofName?_name (k : ErrorKind) : ofName? k.name = some k := by
  cases k <;> decide

/-- The class of a system error number. -/
def ofNumber : Nat → ErrorKind
  | 1 | 13 => permissionDenied
  | 2 => notFound
  | 4 => interrupted
  | 7 => argumentListTooLong
  | 11 => wouldBlock
  | 12 => outOfMemory
  | 16 => resourceBusy
  | 17 => alreadyExists
  | 18 => crossesDevices
  | 20 => notADirectory
  | 21 => isADirectory
  | 22 => invalidInput
  | 26 => executableFileBusy
  | 27 => fileTooLarge
  | 28 => storageFull
  | 29 => notSeekable
  | 30 => readOnlyFilesystem
  | 31 => tooManyLinks
  | 32 => brokenPipe
  | 35 => deadlock
  | 36 => invalidFilename
  | 38 | 95 => unsupported
  | 39 => directoryNotEmpty
  | 40 => filesystemLoop
  | 98 => addrInUse
  | 99 => addrNotAvailable
  | 100 => networkDown
  | 101 => networkUnreachable
  | 103 => connectionAborted
  | 104 => connectionReset
  | 107 => notConnected
  | 110 => timedOut
  | 111 => connectionRefused
  | 113 => hostUnreachable
  | 115 => inProgress
  | 116 => staleNetworkFileHandle
  | 122 => quotaExceeded
  | _ => uncategorized

end ErrorKind

/-- The system's own texts for its error numbers, from 0 on; an empty one marks an unused number. -/
def systemErrorTexts : Array String := #[
  "Success", "Operation not permitted", "No such file or directory", "No such process",
  "Interrupted system call", "Input/output error", "No such device or address",
  "Argument list too long", "Exec format error", "Bad file descriptor", "No child processes",
  "Resource temporarily unavailable", "Cannot allocate memory", "Permission denied", "Bad address",
  "Block device required", "Device or resource busy", "File exists", "Invalid cross-device link",
  "No such device", "Not a directory", "Is a directory", "Invalid argument",
  "Too many open files in system", "Too many open files", "Inappropriate ioctl for device",
  "Text file busy", "File too large", "No space left on device", "Illegal seek",
  "Read-only file system", "Too many links", "Broken pipe", "Numerical argument out of domain",
  "Numerical result out of range", "Resource deadlock avoided", "File name too long",
  "No locks available", "Function not implemented", "Directory not empty",
  "Too many levels of symbolic links", "", "No message of desired type", "Identifier removed",
  "Channel number out of range", "Level 2 not synchronized", "Level 3 halted", "Level 3 reset",
  "Link number out of range", "Protocol driver not attached", "No CSI structure available",
  "Level 2 halted", "Invalid exchange", "Invalid request descriptor", "Exchange full", "No anode",
  "Invalid request code", "Invalid slot", "", "Bad font file format", "Device not a stream",
  "No data available", "Timer expired", "Out of streams resources",
  "Machine is not on the network", "Package not installed", "Object is remote",
  "Link has been severed", "Advertise error", "Srmount error", "Communication error on send",
  "Protocol error", "Multihop attempted", "RFS specific error", "Bad message",
  "Value too large for defined data type", "Name not unique on network",
  "File descriptor in bad state", "Remote address changed",
  "Can not access a needed shared library", "Accessing a corrupted shared library",
  ".lib section in a.out corrupted", "Attempting to link in too many shared libraries",
  "Cannot exec a shared library directly", "Invalid or incomplete multibyte or wide character",
  "Interrupted system call should be restarted", "Streams pipe error", "Too many users",
  "Socket operation on non-socket", "Destination address required", "Message too long",
  "Protocol wrong type for socket", "Protocol not available", "Protocol not supported",
  "Socket type not supported", "Operation not supported", "Protocol family not supported",
  "Address family not supported by protocol", "Address already in use",
  "Cannot assign requested address", "Network is down", "Network is unreachable",
  "Network dropped connection on reset", "Software caused connection abort",
  "Connection reset by peer", "No buffer space available",
  "Transport endpoint is already connected", "Transport endpoint is not connected",
  "Cannot send after transport endpoint shutdown", "Too many references: cannot splice",
  "Connection timed out", "Connection refused", "Host is down", "No route to host",
  "Operation already in progress", "Operation now in progress", "Stale file handle",
  "Structure needs cleaning", "Not a XENIX named type file", "No XENIX semaphores available",
  "Is a named type file", "Remote I/O error", "Disk quota exceeded", "No medium found",
  "Wrong medium type", "Operation canceled", "Required key not available", "Key has expired",
  "Key has been revoked", "Key was rejected by service", "Owner died", "State not recoverable",
  "Operation not possible due to RF-kill", "Memory page has hardware error"]

/-- The system's text for an error number. -/
def systemErrorText (number : Nat) : String :=
  match systemErrorTexts[number]? with
  | some text => if text.isEmpty then "Unknown error " ++ Numeral.decimal number else text
  | none => "Unknown error " ++ Numeral.decimal number

/-- A failed call. -/
inductive SystemError where
  /-- The operating system refused, with a number. -/
  | os (number : Nat)
  /-- A fault that has only a class. -/
  | plain (kind : ErrorKind)
  /-- A fault that brings a text of its own. -/
  | described (kind : ErrorKind) (message : String)
  deriving DecidableEq, Repr

namespace SystemError

/-- The class of a fault. -/
def kind : SystemError → ErrorKind
  | os n => ErrorKind.ofNumber n
  | plain k => k
  | described k _ => k

/-- What a fault says. -/
def message : SystemError → String
  | os n => systemErrorText n ++ " (os error " ++ Numeral.decimal n ++ ")"
  | plain k => k.description
  | described _ m => m

/-- The system's number, if the fault came from the operating system. -/
def number? : SystemError → Option Nat
  | os n => some n
  | _ => none

/-- The number reported to services: the system's own, and 1 for every other fault. -/
def code (e : SystemError) : Nat := e.number?.getD 1

@[simp] theorem code_os (n : Nat) : (os n).code = n := rfl

@[simp] theorem code_plain (k : ErrorKind) : (plain k).code = 1 := rfl

@[simp] theorem code_described (k : ErrorKind) (m : String) : (described k m).code = 1 := rfl

/-- A fault of the operating system as a log shows it; of other faults only the class is shown. -/
def describe : SystemError → String
  | os n =>
    "Os \x7b code: " ++ Numeral.decimal n ++ ", kind: " ++ (ErrorKind.ofNumber n).name ++
      ", message: \"" ++ systemErrorText n ++ "\" \x7d"
  | e => "Kind(" ++ e.kind.name ++ ")"

/-- The same class and text with the number forgotten. -/
def summarized (e : SystemError) : SystemError := described e.kind e.message

@[simp] theorem code_summarized (e : SystemError) : e.summarized.code = 1 := rfl

@[simp] theorem message_summarized (e : SystemError) : e.summarized.message = e.message := rfl

@[simp] theorem kind_summarized (e : SystemError) : e.summarized.kind = e.kind := rfl

end SystemError

end Switchboard
