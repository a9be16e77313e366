/-!
# The tree of the system

What a path finds outside of a working directory: the usual directories of a system, a few files of
its configuration, and its programs.  The tree is a table, and holds no more than what most systems
have in common.
-/

namespace PostgresAccess.SystemTree

/-- What a path of the system holds. -/
inductive Entry where
  | directory
  | text (content : String)
  | program
  /-- A directory by another name. -/
  | link (target : List String)
deriving DecidableEq, Repr

/-- The directories below the root. -/
def directories : List String :=
  ["boot", "dev", "dev/pts", "dev/shm", "etc", "etc/alternatives", "etc/apt", "etc/cron.d",
    "etc/cron.daily", "etc/default", "etc/dpkg", "etc/init.d", "etc/kernel", "etc/ld.so.conf.d",
    "etc/logrotate.d", "etc/opt", "etc/pam.d", "etc/profile.d", "etc/security", "etc/selinux",
    "etc/skel", "etc/ssl", "etc/ssl/certs", "etc/ssl/private", "etc/systemd", "home", "media",
    "mnt", "opt", "proc", "root", "run", "run/lock", "srv", "sys", "tmp", "usr", "usr/bin",
    "usr/games", "usr/include", "usr/lib", "usr/lib64", "usr/libexec", "usr/local",
    "usr/local/bin", "usr/local/etc", "usr/local/games", "usr/local/include", "usr/local/lib",
    "usr/local/sbin", "usr/local/share", "usr/local/src", "usr/sbin", "usr/share", "usr/share/doc",
    "usr/share/man", "usr/src", "var", "var/backups", "var/cache", "var/lib", "var/lib/dpkg",
    "var/local", "var/log", "var/mail", "var/opt", "var/spool", "var/tmp"]

/-- The directories that are reached by other names. -/
def links : List (String × List String) :=
  [("bin", ["usr", "bin"]), ("lib", ["usr", "lib"]), ("lib64", ["usr", "lib64"]),
    ("sbin", ["usr", "sbin"]), ("var/lock", ["run", "lock"]), ("var/run", ["run"])]

/-- The files of text, with their beginnings. -/
def texts : List (String × String) :=
  [("dev/null", ""),
    ("etc/fstab", "# UNCONFIGURED FSTAB FOR BASE SYSTEM\n"),
    ("etc/group", "root:x:0:\n"),
    ("etc/gshadow", "root:*::\n"),
    ("etc/hosts", "127.0.0.1\tlocalhost\n"),
    ("etc/passwd", "root:x:0:0:root:/root:/bin/bash\n"),
    ("etc/shadow", "root:*:\n"),
    ("etc/shells", "# /etc/shells: valid login shells\n/bin/sh\n")]

/-- The directory of the programs. -/
def programDirectory : List String := ["usr", "bin"]

/-- The names of the programs. -/
def programs : List String :=
  ["[", "awk", "base64", "basename", "bash", "cat", "chmod", "cp", "cut", "dash", "date", "dd",
    "df", "dirname", "du", "echo", "env", "expr", "false", "find", "grep", "head", "id", "kill",
    "ln", "ls", "mkdir", "mktemp", "mv", "nproc", "od", "printenv", "printf", "ps", "pwd",
    "readlink", "realpath", "rm", "rmdir", "sed", "seq", "sh", "sha256sum", "sleep", "sort", "stat",
    "stty", "sync", "tail", "tar", "tee", "test", "timeout", "touch", "tr", "true", "tty", "uname",
    "uniq", "wc", "which", "whoami", "xargs", "yes"]

/-- What some parts lead to from the root, if they lead to anything. -/
def find? (parts : List String) : Option Entry :=
  let path := "/".intercalate parts
  if directories.contains path then some .directory
  else
    match links.find? fun link => link.1 == path, texts.find? fun file => file.1 == path with
    | some (_, target), _ => some (.link target)
    | none, some (_, content) => some (.text content)
    | none, none =>
      if parts.dropLast = programDirectory ∧ programs.contains (parts.getLast?.getD "") then
        some .program
      else none

end PostgresAccess.SystemTree
