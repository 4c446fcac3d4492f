import ChartManifests.Host.Files
/-!
What every host has: the usual directories, devices, and programs, some of them under two names, and
accounts, each with a home directory, with the file that lists them.
-/

namespace ChartManifests

structure Account where
  name : String
  number : Nat
  group : Nat
  remark : String
  home : String
  shell : String
deriving DecidableEq, Repr

namespace Account

def noShell : String := "/usr/sbin/nologin"

def all : List Account :=
  [⟨"root", 0, 0, "root", "/root", "/bin/bash"⟩,
    ⟨"daemon", 1, 1, "daemon", "/usr/sbin", noShell⟩,
    ⟨"bin", 2, 2, "bin", "/bin", noShell⟩,
    ⟨"sys", 3, 3, "sys", "/dev", noShell⟩,
    ⟨"sync", 4, 65534, "sync", "/bin", "/bin/sync"⟩,
    ⟨"games", 5, 60, "games", "/usr/games", noShell⟩,
    ⟨"man", 6, 12, "man", "/var/cache/man", noShell⟩,
    ⟨"lp", 7, 7, "lp", "/var/spool/lpd", noShell⟩,
    ⟨"mail", 8, 8, "mail", "/var/mail", noShell⟩,
    ⟨"news", 9, 9, "news", "/var/spool/news", noShell⟩,
    ⟨"uucp", 10, 10, "uucp", "/var/spool/uucp", noShell⟩,
    ⟨"proxy", 13, 13, "proxy", "/bin", noShell⟩,
    ⟨"www-data", 33, 33, "www-data", "/var/www", noShell⟩,
    ⟨"backup", 34, 34, "backup", "/var/backups", noShell⟩,
    ⟨"list", 38, 38, "Mailing List Manager", "/var/list", noShell⟩,
    ⟨"irc", 39, 39, "ircd", "/run/ircd", noShell⟩,
    ⟨"_apt", 42, 65534, "", "/nonexistent", noShell⟩,
    ⟨"nobody", 65534, 65534, "nobody", "/nonexistent", noShell⟩]

def home? (name : String) : Option String :=
  (all.find? fun account => account.name = name).map home

def line (account : Account) : String :=
  ":".intercalate [account.name, "x", toString account.number, toString account.group,
    account.remark, account.home, account.shell] ++ "\n"

def listing : String := String.join (all.map line)

end Account

end ChartManifests

namespace ChartManifests.Files

def ordinaryDirectories : List Location :=
  [[], ["boot"], ["dev"], ["dev", "fd"], ["dev", "shm"], ["etc"], ["etc", "alternatives"],
    ["home"], ["media"], ["mnt"], ["opt"], ["proc"], ["root"], ["run"], ["srv"], ["sys"],
    ["usr"], ["usr", "bin"], ["usr", "lib"], ["usr", "local"], ["usr", "local", "bin"],
    ["usr", "local", "sbin"], ["usr", "sbin"], ["usr", "share"], ["var"], ["var", "lib"],
    ["var", "log"]]

def ordinaryDevices : List (String × Device) :=
  [("null", .null), ("zero", .zero), ("full", .full), ("random", .random), ("urandom", .random),
    ("stdin", .input), ("stdout", .output), ("stderr", .errors)]

def ordinaryUtilities : List String :=
  ["[", "base64", "basename", "bash", "cat", "chmod", "cmp", "comm", "cp", "cut", "dash", "dd",
    "dirname", "echo", "egrep", "env", "expr", "false", "fgrep", "find", "fold", "grep", "head",
    "id", "ln", "ls", "mawk", "mkdir", "mktemp", "mv", "nice", "nl", "nohup", "od", "paste",
    "printenv", "printf", "pwd", "readlink", "realpath", "rev", "rm", "rmdir", "sed", "seq",
    "setsid", "sleep", "sort", "stat", "stdbuf", "sync", "tac", "tail", "tee", "test", "timeout",
    "touch", "tr", "true", "truncate", "uname", "uniq", "unlink", "wc", "which", "whoami", "xargs",
    "yes"]

def ordinaryLinks : List (Location × String) :=
  [(["bin"], "usr/bin"), (["sbin"], "usr/sbin"), (["lib"], "usr/lib"),
    (["usr", "bin", "sh"], "dash"), (["usr", "bin", "awk"], "/etc/alternatives/awk"),
    (["etc", "alternatives", "awk"], "/usr/bin/mawk")]

def ordinary : Files :=
  let withDirectories := ordinaryDirectories.foldl
    (fun files place => files.add place .directory usualDirectory) empty
  let withTemporary := [["tmp"], ["var", "tmp"]].foldl
    (fun files place => files.add place .directory 0o1777) withDirectories
  let withAccounts := withTemporary.add ["etc", "passwd"]
    (.file (Text.Utf8.encode Account.listing)) usualFile
  let withDevices := ordinaryDevices.foldl (fun files device =>
    files.add ["dev", device.1] (.device device.2) Permission.ofFile) withAccounts
  let withUtilities := ordinaryUtilities.foldl (fun files name =>
    files.add ["usr", "bin", name] (.utility name) usualDirectory) withDevices
  ordinaryLinks.foldl (fun files link =>
    files.add link.1 (.link link.2) Permission.ofDirectory) withUtilities

end ChartManifests.Files
