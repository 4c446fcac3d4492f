import ChartManifests.Command
import ChartManifests.Config.Document
import ChartManifests.Host.FileFault
import ChartManifests.Text.ByteForm
import ChartManifests.Yaml.Fault
/-!
All the ways in which inflating a chart can fail, and how each is worded.
-/

namespace ChartManifests

/-- Why a command did not give its output. A program that was not started comes with the words of the
operating system. An exit status below zero is the number of the signal that ended the program. -/
inductive CommandFault
  | notStarted (complaint : String)
  | overdue
  | exited (status : Int) (errors : String)
  | refused (errors : String)
deriving DecidableEq, Repr

inductive CommandDefect
  | noProgram
  | nullWord
  | nullValue
  | variableName
  | nullCharacter
  | encoding (fault : Text.EncodingFault)
deriving DecidableEq, Repr

inductive PathDefect
  | noHome
  | noName
  | noFile
deriving DecidableEq, Repr

inductive Failure
  | config (fault : ConfigFault)
  | keyKind (kind : String)
  | unwritable
  | scalar (fault : Yaml.Fault)
  | noChartName
  | notConfigured
  | alreadyRun (chart : Option Text)
  | command (purpose : Purpose) (line : Text) (fault : CommandFault)
  | defect (defect : CommandDefect)
  | path (defect : PathDefect)
  | noVersion (output : String)
  | unsupportedVersion (version : String)
  | unreadableOutput (chart : Option Text)
  | file (fault : FileFault) (name : Text)
  | unwritten (fault : FileFault)
  | noDirectory (fault : FileFault) (name : Text)
  | raised (text : String)
  | crashed (text : String)

def formatted (text : Option Text) : Text := text.getD "None"

namespace CommandFault

/-- What a failing program is known to have said; nothing is known of one that was too slow. -/
def errors? : CommandFault → Option String
  | notStarted complaint => some complaint
  | overdue => none
  | exited _ errors => some errors
  | refused errors => some errors

def message (line : Text) : CommandFault → Text
  | notStarted complaint => "Command '" ++ line ++ "' failed to start: " ++ complaint
  | overdue => "Command '" ++ line ++ "' timed out"
  | exited status errors =>
    "Command '" ++ line ++ "' failed with return code " ++ toString status
      ++ (if errors = "" then "" else "\n" ++ errors : String)
  | refused errors => "Command '" ++ line ++ "' failed with return code 1\n" ++ errors

end CommandFault

namespace CommandDefect

def message : CommandDefect → String
  | noProgram =>
    "create_subprocess_exec() missing 1 required positional argument: 'program'"
  | nullWord | nullValue => "expected str, bytes or os.PathLike object, not NoneType"
  | variableName => "illegal environment variable name"
  | nullCharacter => "embedded null byte"
  | encoding fault => fault.message

end CommandDefect

namespace PathDefect

def message : PathDefect → String
  | noHome => "expected str, bytes or os.PathLike object, not NoneType"
  | noName => "unsupported operand type(s) for /: 'PosixPath' and 'NoneType'"
  | noFile => "expected str, bytes or os.PathLike object, not list"

end PathDefect

namespace Failure

def supportedMajor : String := "3"

def message : Failure → Text
  | config fault => fault.message
  | keyKind kind => "sequence item 0: expected str instance, " ++ kind ++ " found"
  | unwritable => Numeral.limitNotice none
  | scalar fault => fault.message
  | noChartName => "chartName cannot be empty"
  | notConfigured => "Generator has not been configured"
  | alreadyRun chart => "Generator for chart " ++ formatted chart ++ " has already run"
  | command _ line fault => fault.message line
  | defect cause => cause.message
  | path cause => cause.message
  | noVersion output =>
    "Unable to parse helm version from output: " ++ Text.quoted output
  | unsupportedVersion version =>
    "This generator requires helm v" ++ supportedMajor ++ " but got v" ++ version
  | unreadableOutput chart =>
    "Unable to parse helm template output for chart " ++ formatted chart ++ ": <yaml error>"
  | file fault name => fault.message name
  | unwritten fault => fault.brief
  | noDirectory .occupied _ => "[Errno 17] No usable temporary directory name found"
  | noDirectory fault name => fault.message name
  | raised text => text
  | crashed text => text

def isInput : Failure → Bool
  | config _ | noChartName | notConfigured | alreadyRun _ => true
  | _ => false

def isReported : Failure → Bool
  | config _ | noChartName | notConfigured | alreadyRun _ | command _ _ _ | noVersion _
  | unsupportedVersion _ | unreadableOutput _ => true
  | _ => false

end Failure

end ChartManifests
