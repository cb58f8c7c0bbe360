/-!
# Systems

What a run finds outside its directory: directories that are there, files with what they hold, and
files that stand for something else than stored bytes.  Nothing in the program depends on which
these are.  `System.container` describes a small one without a terminal.
-/

namespace LiteralLang.CommandLine

/-- Why a file cannot be read or written. -/
inductive FileFault where
  | notFound
  | isDirectory
  | notDirectory
  | nameTooLong
  | noRoom
  | noDevice
  | noMemory
  | denied
  | notText
  deriving DecidableEq

def FileFault.message : FileFault → String
  | .notFound => "No such file or directory (os error 2)"
  | .isDirectory => "Is a directory (os error 21)"
  | .notDirectory => "Not a directory (os error 20)"
  | .nameTooLong => "File name too long (os error 36)"
  | .noRoom => "No space left on device (os error 28)"
  | .noDevice => "No such device or address (os error 6)"
  | .noMemory => "out of memory"
  | .denied => "Permission denied (os error 13)"
  | .notText => "stream did not contain valid UTF-8"

/-- A file that stands for something else than stored bytes. -/
inductive Device where
  /-- It holds nothing, and what is written to it is lost. -/
  | nothing
  /-- It holds more than there is room for, and what is written to it is lost. -/
  | endless
  /-- It holds more than there is room for, and nothing fits on it. -/
  | full
  | input
  | output
  | errors
  /-- What it stands for is not there. -/
  | absent
  deriving DecidableEq

/-- What a run finds outside its directory. -/
class System where
  /-- The components of the directory around that of the run, the last of them first. -/
  around : List (List Char)
  /-- Directories that are there without holding any of the files. -/
  directories : List String
  /-- Directories in which no file can be made, and why. -/
  closed : List (String × FileFault)
  files : List (String × ByteArray)
  devices : List (String × Device)

namespace System

/-- Bytes of an executable, which are no text. -/
def executable : ByteArray := ⟨#[0x7F, 0x45, 0x4C, 0x46, 0xFF]⟩

/-- A small system without a terminal, whose runs take place inside the directory for temporary
files. -/
instance container : System where
  around := [['t', 'm', 'p'], []]
  directories :=
    ["/boot", "/dev", "/dev/fd", "/dev/pts", "/dev/shm", "/home", "/lib", "/lib64", "/media",
      "/mnt", "/opt", "/proc", "/proc/self", "/proc/self/fd", "/proc/sys", "/proc/thread-self",
      "/proc/thread-self/fd", "/root", "/run", "/sbin", "/srv", "/sys", "/tmp", "/usr/include",
      "/usr/lib", "/usr/local", "/usr/local/bin", "/usr/local/lib", "/usr/sbin", "/usr/share",
      "/usr/src", "/var", "/var/cache", "/var/lib", "/var/log", "/var/spool", "/var/tmp"]
  closed :=
    [("/dev/fd", .notFound), ("/dev/pts", .denied), ("/proc", .notFound),
      ("/proc/self", .notFound), ("/proc/self/fd", .notFound), ("/proc/sys", .notFound),
      ("/proc/thread-self", .notFound), ("/proc/thread-self/fd", .notFound), ("/sys", .denied)]
  files :=
    [("/bin/cat", executable), ("/bin/ls", executable), ("/bin/sh", executable),
      ("/etc/group", "root:x:0:\n".toUTF8), ("/etc/hosts", "127.0.0.1\tlocalhost\n".toUTF8),
      ("/etc/passwd", "root:x:0:0:root:/root:/bin/bash\n".toUTF8), ("/usr/bin/env", executable)]
  devices :=
    [("/dev/null", .nothing), ("/dev/zero", .endless), ("/dev/random", .endless),
      ("/dev/urandom", .endless), ("/dev/full", .full), ("/dev/stdin", .input),
      ("/dev/fd/0", .input), ("/proc/self/fd/0", .input), ("/proc/thread-self/fd/0", .input),
      ("/dev/stdout", .output), ("/dev/fd/1", .output), ("/proc/self/fd/1", .output),
      ("/proc/thread-self/fd/1", .output), ("/dev/stderr", .errors), ("/dev/fd/2", .errors),
      ("/proc/self/fd/2", .errors), ("/proc/thread-self/fd/2", .errors), ("/dev/tty", .absent)]

end System

end LiteralLang.CommandLine
