/-!
The error numbers of the system with their symbolic names and texts.
-/

namespace Overseer.Errno

/-- One error number: its symbolic name, the text the system gives for it, the short description
    under which signal errors report it, and the category of the condition. -/
structure Entry where
  number : Nat
  name : String
  text : String
  description : String
  category : String

/-- Every error number with a name. -/
def table : List Entry := [
  ⟨1, "EPERM", "Operation not permitted", "Operation not permitted", "PermissionDenied"⟩,
  ⟨2, "ENOENT", "No such file or directory", "No such file or directory", "NotFound"⟩,
  ⟨3, "ESRCH", "No such process", "No such process", "Uncategorized"⟩,
  ⟨4, "EINTR", "Interrupted system call", "Interrupted system call", "Interrupted"⟩,
  ⟨5, "EIO", "Input/output error", "I/O error", "Uncategorized"⟩,
  ⟨6, "ENXIO", "No such device or address", "No such device or address", "Uncategorized"⟩,
  ⟨7, "E2BIG", "Argument list too long", "Argument list too long", "ArgumentListTooLong"⟩,
  ⟨8, "ENOEXEC", "Exec format error", "Exec format error", "Uncategorized"⟩,
  ⟨9, "EBADF", "Bad file descriptor", "Bad file number", "Uncategorized"⟩,
  ⟨10, "ECHILD", "No child processes", "No child processes", "Uncategorized"⟩,
  ⟨11, "EAGAIN", "Resource temporarily unavailable", "Try again", "WouldBlock"⟩,
  ⟨12, "ENOMEM", "Cannot allocate memory", "Out of memory", "OutOfMemory"⟩,
  ⟨13, "EACCES", "Permission denied", "Permission denied", "PermissionDenied"⟩,
  ⟨14, "EFAULT", "Bad address", "Bad address", "Uncategorized"⟩,
  ⟨15, "ENOTBLK", "Block device required", "Block device required", "Uncategorized"⟩,
  ⟨16, "EBUSY", "Device or resource busy", "Device or resource busy", "ResourceBusy"⟩,
  ⟨17, "EEXIST", "File exists", "File exists", "AlreadyExists"⟩,
  ⟨18, "EXDEV", "Invalid cross-device link", "Cross-device link", "CrossesDevices"⟩,
  ⟨19, "ENODEV", "No such device", "No such device", "Uncategorized"⟩,
  ⟨20, "ENOTDIR", "Not a directory", "Not a directory", "NotADirectory"⟩,
  ⟨21, "EISDIR", "Is a directory", "Is a directory", "IsADirectory"⟩,
  ⟨22, "EINVAL", "Invalid argument", "Invalid argument", "InvalidInput"⟩,
  ⟨23, "ENFILE", "Too many open files in system", "File table overflow", "Uncategorized"⟩,
  ⟨24, "EMFILE", "Too many open files", "Too many open files", "Uncategorized"⟩,
  ⟨25, "ENOTTY", "Inappropriate ioctl for device", "Not a typewriter", "Uncategorized"⟩,
  ⟨26, "ETXTBSY", "Text file busy", "Text file busy", "ExecutableFileBusy"⟩,
  ⟨27, "EFBIG", "File too large", "File too large", "FileTooLarge"⟩,
  ⟨28, "ENOSPC", "No space left on device", "No space left on device", "StorageFull"⟩,
  ⟨29, "ESPIPE", "Illegal seek", "Illegal seek", "NotSeekable"⟩,
  ⟨30, "EROFS", "Read-only file system", "Read-only file system", "ReadOnlyFilesystem"⟩,
  ⟨31, "EMLINK", "Too many links", "Too many links", "TooManyLinks"⟩,
  ⟨32, "EPIPE", "Broken pipe", "Broken pipe", "BrokenPipe"⟩,
  ⟨33, "EDOM", "Numerical argument out of domain",
    "Math argument out of domain of func", "Uncategorized"⟩,
  ⟨34, "ERANGE", "Numerical result out of range",
    "Math result not representable", "Uncategorized"⟩,
  ⟨35, "EDEADLK", "Resource deadlock avoided", "Resource deadlock would occur", "Deadlock"⟩,
  ⟨36, "ENAMETOOLONG", "File name too long", "File name too long", "InvalidFilename"⟩,
  ⟨37, "ENOLCK", "No locks available", "No record locks available", "Uncategorized"⟩,
  ⟨38, "ENOSYS", "Function not implemented", "Function not implemented", "Unsupported"⟩,
  ⟨39, "ENOTEMPTY", "Directory not empty", "Directory not empty", "DirectoryNotEmpty"⟩,
  ⟨40, "ELOOP", "Too many levels of symbolic links",
    "Too many symbolic links encountered", "FilesystemLoop"⟩,
  ⟨42, "ENOMSG", "No message of desired type", "No message of desired type", "Uncategorized"⟩,
  ⟨43, "EIDRM", "Identifier removed", "Identifier removed", "Uncategorized"⟩,
  ⟨44, "ECHRNG", "Channel number out of range", "Channel number out of range", "Uncategorized"⟩,
  ⟨45, "EL2NSYNC", "Level 2 not synchronized", "Level 2 not synchronized", "Uncategorized"⟩,
  ⟨46, "EL3HLT", "Level 3 halted", "Level 3 halted", "Uncategorized"⟩,
  ⟨47, "EL3RST", "Level 3 reset", "Level 3 reset", "Uncategorized"⟩,
  ⟨48, "ELNRNG", "Link number out of range", "Link number out of range", "Uncategorized"⟩,
  ⟨49, "EUNATCH", "Protocol driver not attached", "Protocol driver not attached", "Uncategorized"⟩,
  ⟨50, "ENOCSI", "No CSI structure available", "No CSI structure available", "Uncategorized"⟩,
  ⟨51, "EL2HLT", "Level 2 halted", "Level 2 halted", "Uncategorized"⟩,
  ⟨52, "EBADE", "Invalid exchange", "Invalid exchange", "Uncategorized"⟩,
  ⟨53, "EBADR", "Invalid request descriptor", "Invalid request descriptor", "Uncategorized"⟩,
  ⟨54, "EXFULL", "Exchange full", "Exchange full", "Uncategorized"⟩,
  ⟨55, "ENOANO", "No anode", "No anode", "Uncategorized"⟩,
  ⟨56, "EBADRQC", "Invalid request code", "Invalid request code", "Uncategorized"⟩,
  ⟨57, "EBADSLT", "Invalid slot", "Invalid slot", "Uncategorized"⟩,
  ⟨59, "EBFONT", "Bad font file format", "Bad font file format", "Uncategorized"⟩,
  ⟨60, "ENOSTR", "Device not a stream", "Device not a stream", "Uncategorized"⟩,
  ⟨61, "ENODATA", "No data available", "No data available", "Uncategorized"⟩,
  ⟨62, "ETIME", "Timer expired", "Timer expired", "Uncategorized"⟩,
  ⟨63, "ENOSR", "Out of streams resources", "Out of streams resources", "Uncategorized"⟩,
  ⟨64, "ENONET", "Machine is not on the network",
    "Machine is not on the network", "Uncategorized"⟩,
  ⟨65, "ENOPKG", "Package not installed", "Package not installed", "Uncategorized"⟩,
  ⟨66, "EREMOTE", "Object is remote", "Object is remote", "Uncategorized"⟩,
  ⟨67, "ENOLINK", "Link has been severed", "Link has been severed", "Uncategorized"⟩,
  ⟨68, "EADV", "Advertise error", "Advertise error", "Uncategorized"⟩,
  ⟨69, "ESRMNT", "Srmount error", "Srmount error", "Uncategorized"⟩,
  ⟨70, "ECOMM", "Communication error on send", "Communication error on send", "Uncategorized"⟩,
  ⟨71, "EPROTO", "Protocol error", "Protocol error", "Uncategorized"⟩,
  ⟨72, "EMULTIHOP", "Multihop attempted", "Multihop attempted", "Uncategorized"⟩,
  ⟨73, "EDOTDOT", "RFS specific error", "RFS specific error", "Uncategorized"⟩,
  ⟨74, "EBADMSG", "Bad message", "Not a data message", "Uncategorized"⟩,
  ⟨75, "EOVERFLOW", "Value too large for defined data type",
    "Value too large for defined data type", "Uncategorized"⟩,
  ⟨76, "ENOTUNIQ", "Name not unique on network", "Name not unique on network", "Uncategorized"⟩,
  ⟨77, "EBADFD", "File descriptor in bad state", "File descriptor in bad state", "Uncategorized"⟩,
  ⟨78, "EREMCHG", "Remote address changed", "Remote address changed", "Uncategorized"⟩,
  ⟨79, "ELIBACC", "Can not access a needed shared library",
    "Can not access a needed shared library", "Uncategorized"⟩,
  ⟨80, "ELIBBAD", "Accessing a corrupted shared library",
    "Accessing a corrupted shared library", "Uncategorized"⟩,
  ⟨81, "ELIBSCN", ".lib section in a.out corrupted",
    ".lib section in a.out corrupted", "Uncategorized"⟩,
  ⟨82, "ELIBMAX", "Attempting to link in too many shared libraries",
    "Attempting to link in too many shared libraries", "Uncategorized"⟩,
  ⟨83, "ELIBEXEC", "Cannot exec a shared library directly",
    "Cannot exec a shared library directly", "Uncategorized"⟩,
  ⟨84, "EILSEQ", "Invalid or incomplete multibyte or wide character",
    "Illegal byte sequence", "Uncategorized"⟩,
  ⟨85, "ERESTART", "Interrupted system call should be restarted",
    "Interrupted system call should be restarted", "Uncategorized"⟩,
  ⟨86, "ESTRPIPE", "Streams pipe error", "Streams pipe error", "Uncategorized"⟩,
  ⟨87, "EUSERS", "Too many users", "Too many users", "Uncategorized"⟩,
  ⟨88, "ENOTSOCK", "Socket operation on non-socket",
    "Socket operation on non-socket", "Uncategorized"⟩,
  ⟨89, "EDESTADDRREQ", "Destination address required",
    "Destination address required", "Uncategorized"⟩,
  ⟨90, "EMSGSIZE", "Message too long", "Message too long", "Uncategorized"⟩,
  ⟨91, "EPROTOTYPE", "Protocol wrong type for socket",
    "Protocol wrong type for socket", "Uncategorized"⟩,
  ⟨92, "ENOPROTOOPT", "Protocol not available", "Protocol not available", "Uncategorized"⟩,
  ⟨93, "EPROTONOSUPPORT", "Protocol not supported", "Protocol not supported", "Uncategorized"⟩,
  ⟨94, "ESOCKTNOSUPPORT", "Socket type not supported",
    "Socket type not supported", "Uncategorized"⟩,
  ⟨95, "EOPNOTSUPP", "Operation not supported",
    "Operation not supported on transport endpoint", "Unsupported"⟩,
  ⟨96, "EPFNOSUPPORT", "Protocol family not supported",
    "Protocol family not supported", "Uncategorized"⟩,
  ⟨97, "EAFNOSUPPORT", "Address family not supported by protocol",
    "Address family not supported by protocol", "Uncategorized"⟩,
  ⟨98, "EADDRINUSE", "Address already in use", "Address already in use", "AddrInUse"⟩,
  ⟨99, "EADDRNOTAVAIL", "Cannot assign requested address",
    "Cannot assign requested address", "AddrNotAvailable"⟩,
  ⟨100, "ENETDOWN", "Network is down", "Network is down", "NetworkDown"⟩,
  ⟨101, "ENETUNREACH", "Network is unreachable", "Network is unreachable", "NetworkUnreachable"⟩,
  ⟨102, "ENETRESET", "Network dropped connection on reset",
    "Network dropped connection because of reset", "Uncategorized"⟩,
  ⟨103, "ECONNABORTED", "Software caused connection abort",
    "Software caused connection abort", "ConnectionAborted"⟩,
  ⟨104, "ECONNRESET", "Connection reset by peer", "Connection reset by peer", "ConnectionReset"⟩,
  ⟨105, "ENOBUFS", "No buffer space available", "No buffer space available", "Uncategorized"⟩,
  ⟨106, "EISCONN", "Transport endpoint is already connected",
    "Transport endpoint is already connected", "Uncategorized"⟩,
  ⟨107, "ENOTCONN", "Transport endpoint is not connected",
    "Transport endpoint is not connected", "NotConnected"⟩,
  ⟨108, "ESHUTDOWN", "Cannot send after transport endpoint shutdown",
    "Cannot send after transport endpoint shutdown", "Uncategorized"⟩,
  ⟨109, "ETOOMANYREFS", "Too many references: cannot splice",
    "Too many references: cannot splice", "Uncategorized"⟩,
  ⟨110, "ETIMEDOUT", "Connection timed out", "Connection timed out", "TimedOut"⟩,
  ⟨111, "ECONNREFUSED", "Connection refused", "Connection refused", "ConnectionRefused"⟩,
  ⟨112, "EHOSTDOWN", "Host is down", "Host is down", "Uncategorized"⟩,
  ⟨113, "EHOSTUNREACH", "No route to host", "No route to host", "HostUnreachable"⟩,
  ⟨114, "EALREADY", "Operation already in progress",
    "Operation already in progress", "Uncategorized"⟩,
  ⟨115, "EINPROGRESS", "Operation now in progress", "Operation now in progress", "InProgress"⟩,
  ⟨116, "ESTALE", "Stale file handle", "Stale file handle", "StaleNetworkFileHandle"⟩,
  ⟨117, "EUCLEAN", "Structure needs cleaning", "Structure needs cleaning", "Uncategorized"⟩,
  ⟨118, "ENOTNAM", "Not a XENIX named type file", "Not a XENIX named type file", "Uncategorized"⟩,
  ⟨119, "ENAVAIL", "No XENIX semaphores available",
    "No XENIX semaphores available", "Uncategorized"⟩,
  ⟨120, "EISNAM", "Is a named type file", "Is a named type file", "Uncategorized"⟩,
  ⟨121, "EREMOTEIO", "Remote I/O error", "Remote I/O error", "Uncategorized"⟩,
  ⟨122, "EDQUOT", "Disk quota exceeded", "Quota exceeded", "QuotaExceeded"⟩,
  ⟨123, "ENOMEDIUM", "No medium found", "No medium found", "Uncategorized"⟩,
  ⟨124, "EMEDIUMTYPE", "Wrong medium type", "Wrong medium type", "Uncategorized"⟩,
  ⟨125, "ECANCELED", "Operation canceled", "Operation canceled", "Uncategorized"⟩,
  ⟨126, "ENOKEY", "Required key not available", "Required key not available", "Uncategorized"⟩,
  ⟨127, "EKEYEXPIRED", "Key has expired", "Key has expired", "Uncategorized"⟩,
  ⟨128, "EKEYREVOKED", "Key has been revoked", "Key has been revoked", "Uncategorized"⟩,
  ⟨129, "EKEYREJECTED", "Key was rejected by service",
    "Key was rejected by service", "Uncategorized"⟩,
  ⟨130, "EOWNERDEAD", "Owner died", "Owner died", "Uncategorized"⟩,
  ⟨131, "ENOTRECOVERABLE", "State not recoverable", "State not recoverable", "Uncategorized"⟩,
  ⟨132, "ERFKILL", "Operation not possible due to RF-kill",
    "Operation not possible due to RF-kill", "Uncategorized"⟩,
  ⟨133, "EHWPOISON", "Memory page has hardware error",
    "Memory page has hardware error", "Uncategorized"⟩]

end Overseer.Errno
