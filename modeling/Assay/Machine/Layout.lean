import Assay.Files

/-!
# The files of a machine

What stands on a machine before anything is written on it: directories, the programs, the devices,
and the list of users. Programs stand in one directory, to which another name leads too.
-/

namespace Assay.Machine

open Files (Device Node Place)
open Text (Octets)

/-- The place of a path that begins at the root. -/
def placeOf (path : String) : Place := (Text.split '/' path.toList).filter (· ≠ [])

/-- Where the harness works. -/
def workDirectory : Place := placeOf "/tmp/work"

/-- The directories of a machine. -/
def directories : List Place :=
  workDirectory :: ["/boot", "/dev", "/dev/shm", "/etc", "/home", "/media", "/mnt", "/opt", "/proc",
    "/proc/self", "/proc/self/fd", "/root", "/run", "/srv", "/sys", "/tmp", "/usr", "/usr/bin",
    "/usr/games", "/usr/include", "/usr/lib", "/usr/lib64", "/usr/libexec", "/usr/local",
    "/usr/local/bin", "/usr/local/lib", "/usr/sbin", "/usr/share", "/usr/src", "/var", "/var/lib",
    "/var/log", "/var/tmp"].map placeOf

/-- The other names of files, and what they lead to. -/
def links : List (Place × Octets) :=
  [("/bin", "usr/bin"), ("/sbin", "usr/sbin"), ("/lib", "usr/lib"), ("/lib64", "usr/lib64"),
    ("/usr/bin/sh", "dash"), ("/dev/fd", "/proc/self/fd"), ("/dev/stdin", "/proc/self/fd/0"),
    ("/dev/stdout", "/proc/self/fd/1"), ("/dev/stderr", "/proc/self/fd/2"),
    ("/var/run", "/run")].map fun (path, target) => (placeOf path, target.toList)

/-- The descriptors that have a name as files. -/
def namedDescriptors : Nat := 32

/-- The devices. -/
def devices : List (Place × Device) :=
  [("/dev/null", .null), ("/dev/zero", .zero), ("/dev/full", .full),
    ("/dev/tty", .terminal)].map (fun (path, device) => (placeOf path, device)) ++
  (List.range namedDescriptors).map fun d =>
    (placeOf "/proc/self/fd" ++ [Text.digits d], .descriptor d)

/-- The users, each with a number, a home and a shell. -/
def users : List String :=
  ["root:x:0:0:root:/root:/bin/bash",
    "daemon:x:1:1:daemon:/usr/sbin:/usr/sbin/nologin",
    "bin:x:2:2:bin:/bin:/usr/sbin/nologin",
    "sys:x:3:3:sys:/dev:/usr/sbin/nologin",
    "sync:x:4:65534:sync:/bin:/bin/sync",
    "games:x:5:60:games:/usr/games:/usr/sbin/nologin",
    "man:x:6:12:man:/var/cache/man:/usr/sbin/nologin",
    "lp:x:7:7:lp:/var/spool/lpd:/usr/sbin/nologin",
    "mail:x:8:8:mail:/var/mail:/usr/sbin/nologin",
    "news:x:9:9:news:/var/spool/news:/usr/sbin/nologin",
    "uucp:x:10:10:uucp:/var/spool/uucp:/usr/sbin/nologin",
    "proxy:x:13:13:proxy:/bin:/usr/sbin/nologin",
    "www-data:x:33:33:www-data:/var/www:/usr/sbin/nologin",
    "backup:x:34:34:backup:/var/backups:/usr/sbin/nologin",
    "list:x:38:38:Mailing List Manager:/var/list:/usr/sbin/nologin",
    "irc:x:39:39:ircd:/run/ircd:/usr/sbin/nologin",
    "_apt:x:42:65534::/nonexistent:/usr/sbin/nologin",
    "nobody:x:65534:65534:nobody:/nonexistent:/usr/sbin/nologin"]

/-- A text file. -/
def textFile (lines : List String) (executable : Bool) : Node :=
  .ofBytes (Text.Octets.toBytes (lines.flatMap fun line => line.toList ++ ['\n'])) executable 0

/-- The tree of a machine that has these programs. -/
def layout (programs : List String) : Files.Tree :=
  ⟨directories.map (·, .directory Node.directoryMode) ++
    programs.map (fun name => (placeOf "/usr/bin" ++ [name.toList], Node.ofProgram name)) ++
    links.map (fun (place, target) => (place, .link target)) ++
    devices.map (fun (place, device) => (place, .device device)) ++
    [(placeOf "/etc/passwd", textFile users false)], []⟩

end Assay.Machine
