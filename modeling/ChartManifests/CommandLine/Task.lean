import ChartManifests.CommandLine.Arguments
import ChartManifests.Config.Defaults
import ChartManifests.Log
/-!
What the tool is asked to do, as its arguments tell: to inflate the chart of a configuration file,
or to check the version of helm.
-/

namespace ChartManifests.CommandLine

inductive Task
  | generate (configFile : String) (outputFile : Given)
  | version (helmBin : Given)
deriving DecidableEq, Repr

structure Order where
  level : Option Level
  task : Task
deriving DecidableEq, Repr

/-- Why there is no order: a text to show instead, as asked for, or with a complaint. -/
inductive Refusal
  | shown (text : String)
  | refused (text : String)
deriving DecidableEq, Repr

def toolName : String := "helm-inflator"

def helpFlag : Flag := ⟨["-h", "--help"], false, []⟩

def levelFlag : Flag := ⟨["--log-level"], true, Level.all.map Level.name⟩

def outputFlag : Flag := ⟨["--output-file"], true, []⟩

def binFlag : Flag := ⟨["--helm-bin"], true, []⟩

def textOf (lines : List String) : String :=
  String.join (lines.map fun line => line ++ "\n")

def choicesText (choices : List String) : String :=
  "\x7b" ++ ",".intercalate choices ++ "\x7d"

def commands : List String := ["generate", "version"]

def toolUsage : String := textOf [
  "usage: helm-inflator [-h] [--log-level " ++ choicesText levelFlag.choices ++ "]",
  "                     " ++ choicesText commands ++ " ..."]

def toolHelp : String := toolUsage ++ textOf [
  "",
  "Inflate a helm chart into kubernetes resource manifests.",
  "",
  "positional arguments:",
  "  " ++ choicesText commands ++ "    Command",
  "    generate            Inflate a helm chart described by a generator config",
  "                        file",
  "    version             Check that the helm binary is a supported version",
  "",
  "options:",
  "  -h, --help            show this help message and exit",
  "  --log-level " ++ choicesText levelFlag.choices]

def generateUsage : String := textOf [
  "usage: helm-inflator generate [-h] [--output-file OUTPUT_FILE] config_file"]

def generateHelp : String := generateUsage ++ textOf [
  "",
  "Reads a generator config, pulls the chart unless it is already present in the",
  "chart home and renders it with helm template. The rendered manifests are",
  "written as a multi-document YAML stream.",
  "",
  "positional arguments:",
  "  config_file           Path to the generator config file, or - to read from",
  "                        stdin",
  "",
  "options:",
  "  -h, --help            show this help message and exit",
  "  --output-file OUTPUT_FILE",
  "                        Output file for the rendered manifests"]

def versionUsage : String := textOf [
  "usage: helm-inflator version [-h] [--helm-bin HELM_BIN]"]

def versionHelp : String := versionUsage ++ textOf [
  "",
  "options:",
  "  -h, --help           show this help message and exit",
  "  --helm-bin HELM_BIN  Name or path of the helm binary"]

def toolInterface : Interface :=
  ⟨toolName, toolUsage, toolHelp, [helpFlag, levelFlag],
    .remaining "command" commands⟩

def generateInterface : Interface :=
  ⟨toolName ++ " generate", generateUsage, generateHelp, [helpFlag, outputFlag],
    .one "config_file"⟩

def versionInterface : Interface :=
  ⟨toolName ++ " version", versionUsage, versionHelp, [helpFlag, binFlag], .none⟩

def Interface.refuse (interface : Interface) (fault : ArgumentFault) : Refusal :=
  .refused (interface.usage ++ interface.program ++ ": error: " ++ fault.message ++ "\n")

def Interface.answer (interface : Interface) : Halt → Refusal
  | .help => .shown interface.help
  | .refused fault => interface.refuse fault

def standardOutput : String := "/dev/stdout"

def levelOf (given : Option Given) : Option Level :=
  match given with
  | some (.text name) => Level.all.find? fun level => level.name = name
  | _ => none

def taskOf (command : String) (arguments : List String) : Except Refusal (Task × List String) :=
  if command = "generate" then do
    let understood ← (generateInterface.understand arguments).mapError generateInterface.answer
    .ok (.generate ((understood.operand.getD []).headD "")
      ((understood.value? outputFlag.name).getD (.text standardOutput)), understood.left)
  else do
    let understood ← (versionInterface.understand arguments).mapError versionInterface.answer
    .ok (.version ((understood.value? binFlag.name).getD (.text defaultBin)), understood.left)

/-- Understands the arguments of the tool. What no part of it understands is refused last. -/
def orderOf (arguments : List String) : Except Refusal Order := do
  let understood ← (toolInterface.understand arguments).mapError toolInterface.answer
  let words := understood.operand.getD []
  let (task, left) ← taskOf (words.headD "") (words.drop 1)
  let unknown := understood.left ++ left
  if unknown.isEmpty then .ok ⟨levelOf (understood.value? levelFlag.name), task⟩
  else .error (toolInterface.refuse (.unrecognized unknown))

end ChartManifests.CommandLine
