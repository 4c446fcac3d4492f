import ChartManifests.Program.Condition
import ChartManifests.Program.Printing
import ChartManifests.Program.Utility.Basic
import ChartManifests.Program.Utility.Bytes
import ChartManifests.Program.Utility.Columns
import ChartManifests.Program.Utility.Copying
import ChartManifests.Program.Utility.Editing
import ChartManifests.Program.Utility.Finding
import ChartManifests.Program.Utility.Lines
import ChartManifests.Program.Utility.Matching
import ChartManifests.Program.Utility.Naming
import ChartManifests.Program.Utility.Order
import ChartManifests.Program.Utility.Ruled
import ChartManifests.Program.Utility.Sum
/-!
Utilities: the small programs that scripts are made of. Each takes its arguments, reads and writes
through its descriptors, and ends with a status. Those that are part of the shell as well complain
in the name that they are given.
-/

namespace ChartManifests.Program.Utility

def complainAs (name text : String) : Run Unit := writeText 2 (name ++ ": " ++ text ++ "\n")

def printf (dialect : Dialect) (name : String) (words : List String) : Run Nat := do
  match words with
  | [] =>
    match dialect with
    | .shell => do
      complainAs name "usage: printf format [arg ...]"
      pure 2
    | _ => missing 1
  | format :: rest =>
    let (content, complaints) := printed dialect 0 format rest
    put content
    for complaint in complaints do
      complainAs name (complaint.message dialect)
    pure ((complaints.map (Complaint.status dialect)).foldl max 0)

def test (dialect : Dialect) (name : String) (words : List String) : Run Nat := do
  let state ← get
  match Condition.holds dialect ⟨state.files, state.current⟩ words with
  | .ok holds => pure (if holds then 0 else 1)
  | .error fault => do
    complainAs name (fault.message dialect)
    pure 2

def bracket (dialect : Dialect) (name : String) (words : List String) : Run Nat := do
  if words.getLast? = some "]" then test dialect name words.dropLast
  else do
    complainAs name (ConditionFault.bracket.message dialect)
    pure 2

def perform (launcher : Launcher) (name : String) (arguments : List String) : Run Nat := do
  let title := (← get).title
  match name with
  | "[" => bracket .standalone title arguments
  | "base64" => base64 arguments
  | "basename" => basename arguments
  | "cat" => cat arguments
  | "chmod" => chmod arguments
  | "cmp" => cmp arguments
  | "comm" => comm arguments
  | "cp" => cp arguments
  | "cut" => cut arguments
  | "dd" => dd arguments
  | "dirname" => dirname arguments
  | "echo" => do
    put (echoedAlone arguments)
    pure 0
  | "egrep" => grepWith (some 'E') arguments
  | "env" => env launcher arguments
  | "expr" => expr arguments
  | "false" => pure 1
  | "fgrep" => grepWith (some 'F') arguments
  | "find" => find launcher arguments
  | "fold" => fold arguments
  | "grep" => grepWith none arguments
  | "head" => head arguments
  | "id" => identity arguments
  | "ln" => ln arguments
  | "ls" => ls arguments
  | "mawk" => awk launcher arguments
  | "mkdir" => mkdir arguments
  | "mkfifo" => mkfifo arguments
  | "mktemp" => mktemp arguments
  | "mv" => mv arguments
  | "nice" => nice launcher arguments
  | "nl" => nl arguments
  | "nohup" => nohup launcher arguments
  | "od" => od arguments
  | "paste" => paste arguments
  | "printenv" => printenv arguments
  | "printf" => printf .standalone title (match arguments with
    | "--" :: rest => rest
    | _ => arguments)
  | "pwd" => pwd arguments
  | "readlink" => readlink arguments
  | "realpath" => realpath arguments
  | "rev" => rev arguments
  | "rm" => rm arguments
  | "rmdir" => rmdir arguments
  | "sed" => sed arguments
  | "seq" => seq arguments
  | "setsid" => setsid launcher arguments
  | "sleep" => sleep arguments
  | "sort" => sort arguments
  | "stat" => stat arguments
  | "stdbuf" => passOn launcher bufferOptions arguments
  | "sync" => pure 0
  | "tac" => tac arguments
  | "tail" => tail arguments
  | "tee" => tee arguments
  | "test" => test .standalone title arguments
  | "timeout" => timeout launcher arguments
  | "touch" => touch arguments
  | "tr" => tr arguments
  | "true" => pure 0
  | "truncate" => truncate arguments
  | "uname" => uname arguments
  | "uniq" => uniq arguments
  | "unlink" => unlink arguments
  | "wc" => wc arguments
  | "which" => which arguments
  | "whoami" => plainLine "root" arguments
  | "xargs" => xargs launcher arguments
  | "yes" =>
    let words := if arguments.head? = some "--" then arguments.drop 1 else arguments
    let line := if words.isEmpty then "y" else " ".intercalate words
    writeForever (Text.octets (line ++ "\n"))
  | _ => pure 127

def lossReport (name : String) (fault : FileFault) : String × Nat :=
  match name with
  | "sed" => ("couldn't flush stdout: " ++ fault.wording, 4)
  | "grep" | "egrep" | "fgrep" => ("write error: " ++ fault.wording, 2)
  | "cat" =>
    ((if fault = .badDescriptor then "standard output: " else "write error: ") ++ fault.wording, 1)
  | _ => ("write error: " ++ fault.wording, 1)

def run (launcher : Launcher) (name : String) (arguments : List String) : Run Nat := do
  let status ← tryCatch (perform launcher name arguments) fun departure =>
    match departure with
    | .exited status => pure status
    | other => throw other
  outlastFlood
  match (← get).unwritten with
  | none => pure status
  | some fault => do
    let (text, failure) := lossReport name fault
    complain text
    pure failure

end ChartManifests.Program.Utility
