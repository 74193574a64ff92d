/-! Faults that the operating system reports. -/
namespace Liveness.Net

/-- A class of faults without a system number. -/
inductive FaultClass where
  | notFound
  | permissionDenied
  | connectionRefused
  | connectionReset
  | connectionAborted
  | notConnected
  | brokenPipe
  | timedOut
  | unexpectedEof
  | hostUnreachable
  | networkUnreachable
deriving DecidableEq, Repr

def FaultClass.message : FaultClass → String
  | .notFound => "entity not found"
  | .permissionDenied => "permission denied"
  | .connectionRefused => "connection refused"
  | .connectionReset => "connection reset"
  | .connectionAborted => "connection aborted"
  | .notConnected => "not connected"
  | .brokenPipe => "broken pipe"
  | .timedOut => "timed out"
  | .unexpectedEof => "unexpected end of file"
  | .hostUnreachable => "host unreachable"
  | .networkUnreachable => "network unreachable"

/-- A fault: by its system number, by its class, or in the words of whoever reports it. -/
inductive Fault where
  | system (number : Int)
  | ofClass (c : FaultClass)
  | stated (text : String)
deriving DecidableEq, Repr

/-- The system's words for the numbers of faults, run by run: the first number, and the words for it
and for those that follow. Two numbers between the runs stand for no fault. -/
def systemTexts : List (Nat × List String) := [
  (0, ["Success", "Operation not permitted", "No such file or directory", "No such process",
    "Interrupted system call", "Input/output error", "No such device or address",
    "Argument list too long", "Exec format error", "Bad file descriptor", "No child processes",
    "Resource temporarily unavailable", "Cannot allocate memory", "Permission denied",
    "Bad address", "Block device required", "Device or resource busy", "File exists",
    "Invalid cross-device link", "No such device", "Not a directory", "Is a directory",
    "Invalid argument", "Too many open files in system", "Too many open files",
    "Inappropriate ioctl for device", "Text file busy", "File too large",
    "No space left on device", "Illegal seek", "Read-only file system", "Too many links",
    "Broken pipe", "Numerical argument out of domain", "Numerical result out of range",
    "Resource deadlock avoided", "File name too long", "No locks available",
    "Function not implemented", "Directory not empty", "Too many levels of symbolic links"]),
  (42, ["No message of desired type", "Identifier removed", "Channel number out of range",
    "Level 2 not synchronized", "Level 3 halted", "Level 3 reset", "Link number out of range",
    "Protocol driver not attached", "No CSI structure available", "Level 2 halted",
    "Invalid exchange", "Invalid request descriptor", "Exchange full", "No anode",
    "Invalid request code", "Invalid slot"]),
  (59, ["Bad font file format", "Device not a stream", "No data available", "Timer expired",
    "Out of streams resources", "Machine is not on the network", "Package not installed",
    "Object is remote", "Link has been severed", "Advertise error", "Srmount error",
    "Communication error on send", "Protocol error", "Multihop attempted", "RFS specific error",
    "Bad message", "Value too large for defined data type", "Name not unique on network",
    "File descriptor in bad state", "Remote address changed",
    "Can not access a needed shared library", "Accessing a corrupted shared library",
    ".lib section in a.out corrupted", "Attempting to link in too many shared libraries",
    "Cannot exec a shared library directly", "Invalid or incomplete multibyte or wide character",
    "Interrupted system call should be restarted", "Streams pipe error", "Too many users",
    "Socket operation on non-socket", "Destination address required", "Message too long",
    "Protocol wrong type for socket", "Protocol not available", "Protocol not supported",
    "Socket type not supported", "Operation not supported", "Protocol family not supported",
    "Address family not supported by protocol", "Address already in use",
    "Cannot assign requested address", "Network is down", "Network is unreachable",
    "Network dropped connection on reset", "Software caused connection abort",
    "Connection reset by peer", "No buffer space available",
    "Transport endpoint is already connected", "Transport endpoint is not connected",
    "Cannot send after transport endpoint shutdown", "Too many references: cannot splice",
    "Connection timed out", "Connection refused", "Host is down", "No route to host",
    "Operation already in progress", "Operation now in progress", "Stale file handle",
    "Structure needs cleaning", "Not a XENIX named type file", "No XENIX semaphores available",
    "Is a named type file", "Remote I/O error", "Disk quota exceeded", "No medium found",
    "Wrong medium type", "Operation canceled", "Required key not available", "Key has expired",
    "Key has been revoked", "Key was rejected by service", "Owner died", "State not recoverable",
    "Operation not possible due to RF-kill", "Memory page has hardware error"])]

def systemText (number : Int) : String :=
  let known := systemTexts.findSome? fun (first, texts) =>
    if first ≤ number then texts[number.toNat - first]? else none
  known.getD ("Unknown error " ++ toString number)

def Fault.message : Fault → String
  | .system n => systemText n ++ " (os error " ++ toString n ++ ")"
  | .ofClass c => c.message
  | .stated text => text

def Fault.missingFile : Fault := .system 2

/-- A file that may not be opened, or not be run. -/
def Fault.permissionDenied : Fault := .system 13

/-- A path that goes on below what is no directory. -/
def Fault.notDirectory : Fault := .system 20

def Fault.isDirectory : Fault := .system 21

/-- A path, or a step of it, that is longer than any can be. -/
def Fault.nameTooLong : Fault := .system 36

/-- An argument with the character zero, which no program can be given. -/
def Fault.zeroInArgument : Fault := .stated "nul byte found in provided data"

def Fault.zeroInFileName : Fault := .stated "file name contained an unexpected NUL byte"

/-- A write to a connection that the peer has reset. -/
def Fault.pipeBroken : Fault := .system 32

def Fault.networkUnreachable : Fault := .system 101

/-- A connection to a port where nobody listens. -/
def Fault.refused : Fault := .system 111

end Liveness.Net
