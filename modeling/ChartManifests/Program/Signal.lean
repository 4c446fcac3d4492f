/-!
Signals by number and by name, and what a signal does to a program that made no arrangements.
-/

namespace ChartManifests.Program

inductive SignalEffect
  | ends
  | ignored
  | stops
deriving DecidableEq, Repr

namespace Signal

def names : List String :=
  ["EXIT", "HUP", "INT", "QUIT", "ILL", "TRAP", "ABRT", "BUS", "FPE", "KILL", "USR1", "SEGV",
    "USR2", "PIPE", "ALRM", "TERM", "16", "CHLD", "CONT", "STOP", "TSTP", "TTIN", "TTOU", "URG",
    "XCPU", "XFSZ", "VTALRM", "PROF", "WINCH", "IO", "PWR", "SYS", "32", "33", "RTMIN"]
    ++ (List.range 15).map (fun index => "RTMIN+" ++ toString (index + 1))
    ++ (List.range 14).map (fun index => "RTMAX-" ++ toString (14 - index)) ++ ["RTMAX"]

def isNumber (text : String) : Bool := !text.isEmpty && text.toList.all Char.isDigit

def number? (text : String) : Option Nat :=
  if isNumber text then (text.toNat?).filter (· < names.length)
  else
    let upper := String.ofList (text.toList.map Char.toUpper)
    names.findIdx? (· = upper)

def effect (number : Nat) : SignalEffect :=
  if [17, 18, 23, 28].contains number then .ignored
  else if [19, 20, 21, 22].contains number then .stops
  else .ends

def notice (number : Nat) : String :=
  match number with
  | 1 => "Hangup"
  | 3 => "Quit"
  | 4 => "Illegal instruction"
  | 5 => "Trace/breakpoint trap"
  | 6 => "Aborted"
  | 7 => "Bus error"
  | 8 => "Floating point exception"
  | 9 => "Killed"
  | 10 => "User defined signal 1"
  | 11 => "Segmentation fault"
  | 12 => "User defined signal 2"
  | 14 => "Alarm clock"
  | 15 => "Terminated"
  | 16 => "Stack fault"
  | 24 => "CPU time limit exceeded"
  | 25 => "File size limit exceeded"
  | 26 => "Virtual timer expired"
  | 27 => "Profiling timer expired"
  | 29 => "I/O possible"
  | 30 => "Power failure"
  | 31 => "Bad system call"
  | _ => if number < 34 then "" else "Real-time signal " ++ toString (number - 34)

end Signal

end ChartManifests.Program
