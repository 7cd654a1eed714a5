/-!
# Errors of the operating system

What the operating system refuses comes with a number and a text.  The number has a name of its own,
and messages about terminals show it.

## Main definitions

* `OsError` — an error of the operating system
* `OsError.fileMessage`, `OsError.terminalMessage` — how an error is shown
-/

namespace Scanout

/-- **An error of the operating system**: its number, and what it says. -/
structure OsError where
  number : Nat
  text : String
  deriving DecidableEq, Repr

namespace OsError

/-! ### Errors that are met often -/

def noEntry : OsError := ⟨2, "No such file or directory"⟩

def badFile : OsError := ⟨9, "Bad file number"⟩

def notDirectory : OsError := ⟨20, "Not a directory"⟩

def isDirectory : OsError := ⟨21, "Is a directory"⟩

/-! ### How errors are shown -/

/-- What an error is called whose number has no name. -/
def nameless : String := "UnknownErrno"

/-- The names of the numbers, from one on. -/
def names : List String :=
  ["EPERM", "ENOENT", "ESRCH", "EINTR", "EIO", "ENXIO", "E2BIG", "ENOEXEC", "EBADF", "ECHILD",
    "EAGAIN", "ENOMEM", "EACCES", "EFAULT", "ENOTBLK", "EBUSY", "EEXIST", "EXDEV", "ENODEV",
    "ENOTDIR", "EISDIR", "EINVAL", "ENFILE", "EMFILE", "ENOTTY", "ETXTBSY", "EFBIG", "ENOSPC",
    "ESPIPE", "EROFS", "EMLINK", "EPIPE", "EDOM", "ERANGE", "EDEADLK", "ENAMETOOLONG", "ENOLCK",
    "ENOSYS", "ENOTEMPTY", "ELOOP", nameless, "ENOMSG", "EIDRM", "ECHRNG", "EL2NSYNC", "EL3HLT",
    "EL3RST", "ELNRNG", "EUNATCH", "ENOCSI", "EL2HLT", "EBADE", "EBADR", "EXFULL", "ENOANO",
    "EBADRQC", "EBADSLT", nameless, "EBFONT", "ENOSTR", "ENODATA", "ETIME", "ENOSR", "ENONET",
    "ENOPKG", "EREMOTE", "ENOLINK", "EADV", "ESRMNT", "ECOMM", "EPROTO", "EMULTIHOP", "EDOTDOT",
    "EBADMSG", "EOVERFLOW", "ENOTUNIQ", "EBADFD", "EREMCHG", "ELIBACC", "ELIBBAD", "ELIBSCN",
    "ELIBMAX", "ELIBEXEC", "EILSEQ", "ERESTART", "ESTRPIPE", "EUSERS", "ENOTSOCK",
    "EDESTADDRREQ", "EMSGSIZE", "EPROTOTYPE", "ENOPROTOOPT", "EPROTONOSUPPORT",
    "ESOCKTNOSUPPORT", "EOPNOTSUPP", "EPFNOSUPPORT", "EAFNOSUPPORT", "EADDRINUSE",
    "EADDRNOTAVAIL", "ENETDOWN", "ENETUNREACH", "ENETRESET", "ECONNABORTED", "ECONNRESET",
    "ENOBUFS", "EISCONN", "ENOTCONN", "ESHUTDOWN", "ETOOMANYREFS", "ETIMEDOUT", "ECONNREFUSED",
    "EHOSTDOWN", "EHOSTUNREACH", "EALREADY", "EINPROGRESS", "ESTALE", "EUCLEAN", "ENOTNAM",
    "ENAVAIL", "EISNAM", "EREMOTEIO", "EDQUOT", "ENOMEDIUM", "EMEDIUMTYPE", "ECANCELED",
    "ENOKEY", "EKEYEXPIRED", "EKEYREVOKED", "EKEYREJECTED", "EOWNERDEAD", "ENOTRECOVERABLE",
    "ERFKILL", "EHWPOISON"]

/-- The name of the number of an error. -/
def name (e : OsError) : String := (nameless :: names).getD e.number nameless

/-- How an error of a file operation is shown. -/
def fileMessage (e : OsError) : String := e.text ++ " (os error " ++ toString e.number ++ ")"

/-- How an error of a terminal operation is shown. -/
def terminalMessage (e : OsError) : String := e.name ++ ": " ++ e.text

end OsError

end Scanout
