import ChartManifests.Config
import ChartManifests.Value.Display
import ChartManifests.Value.Key
/-!
Configurations as documents: which documents are configurations, what they say, and the document
that says what a configuration holds.

The faults of a document are looked for in a fixed order, whatever the order of its entries: two
spellings of one option, options that are not text, additional arguments, unknown keys, metadata.
-/

namespace ChartManifests

/-- Why a document is no configuration. What is shown is the form that a value has in a message. -/
inductive ConfigFault
  | unreadable
  | notMapping (shown : String)
  | bothSpellings (alternate key : String)
  | notText (option : Setting) (shown : String)
  | notTextList (shown : String)
  | unknownKeys (keys : List Text)
  | badMetadata (shown : String)
deriving DecidableEq

namespace ConfigFault

def message : ConfigFault → Text
  | unreadable => "Unable to parse generator config: <yaml error>"
  | notMapping shown => "Invalid generator config, expected a mapping: " ++ shown
  | bothSpellings alternate key =>
    "Invalid generator config, both '" ++ alternate ++ "' and '" ++ key ++ "' are set"
  | notText option shown =>
    "Invalid generator config, '" ++ option.key ++ "' must be a string: " ++ shown
  | notTextList shown =>
    "Invalid generator config, 'extraArgs' must be a list of strings: " ++ shown
  | unknownKeys keys =>
    "Invalid generator config: Serialized dict has keys that are not defined in GeneratorConfig: "
      ++ Text.joined ", " keys
  | badMetadata shown =>
    "Invalid generator config: Field \"metadata\" of type Optional[ObjectMeta] in GeneratorConfig "
      ++ "has invalid value " ++ shown

end ConfigFault

/-- Why a document is not read as a configuration: it is none, or a key that is no text stands
where the unknown keys are listed, or a value that is to be written as text has no such form. -/
inductive DocumentFault
  | invalid (fault : ConfigFault)
  | keyKind (kind : String)
  | unwritable
deriving DecidableEq

abbrev Entries := List (Value × Value)

namespace Entries

def lookup (entries : Entries) (key : Text) : Option Value :=
  (entries.find? fun entry => entry.1.text? = some key).map Prod.snd

def has (entries : Entries) (key : Text) : Bool := (entries.lookup key).isSome

def without (entries : Entries) (key : Text) : Entries :=
  entries.filter fun entry => entry.1.text? ≠ some key

end Entries

namespace Config

open DocumentFault ConfigFault

def alternates : List (String × String) :=
  [("chartRepoURL", "chartRepoUrl"), ("chartArgs", "extraArgs")]

def rename (entries : Entries) (alternate key : String) : Except DocumentFault Entries :=
  match entries.lookup alternate with
  | none => .ok entries
  | some value =>
    if entries.has key then .error (invalid (bothSpellings alternate key))
    else .ok (entries.without alternate ++ [(.text key, value)])

def renameAll (entries : Entries) : Except DocumentFault Entries :=
  alternates.foldlM (fun kept spelling => rename kept spelling.1 spelling.2) entries

def refusal (value : Value) (fault : String → ConfigFault) : DocumentFault :=
  match value.shown? with
  | some shown => invalid (fault shown)
  | none => unwritable

def readSetting (entries : Entries) (option : Setting) :
    Except DocumentFault (Option Text) :=
  match entries.lookup option.key with
  | none | some .null => .ok none
  | some (.text content) => .ok (some content)
  | some value => .error (refusal value (notText option))

def readExtraArgs (entries : Entries) : Except DocumentFault (Option (List Text)) :=
  match entries.lookup "extraArgs" with
  | none | some .null => .ok none
  | some (.list anchor items) =>
    match items.mapM Value.text? with
    | some words => .ok (some words)
    | none => .error (refusal (.list anchor items) notTextList)
  | some value => .error (refusal value notTextList)

def knownKeys : List String :=
  Setting.all.map Setting.key ++ ["extraArgs", "metadata", "apiVersion", "kind"]

def isKnown (key : Value) : Bool :=
  match key with
  | .text content => (knownKeys.map Text.ofString).contains content
  | _ => false

def checkKeys (entries : Entries) : Except DocumentFault Unit :=
  let unknown := (entries.map Prod.fst).filter fun key => !isKnown key
  match unknown.find? fun key => key.text?.isNone with
  | some key => .error (keyKind key.kindName)
  | none =>
    if unknown.isEmpty then .ok ()
    else
      let names := unknown.filterMap Value.text?
      .error (invalid (unknownKeys (names.mergeSort Text.isUpTo)))

def readWritten (entries : Entries) (key : Text) : Except DocumentFault (Option Text) :=
  match entries.lookup key with
  | none | some .null => .ok none
  | some value =>
    match value.written? with
    | some content => .ok (some content)
    | none => .error unwritable

def writtenPairs : Entries → Option (List (Text × Text))
  | [] => some []
  | (key, value) :: rest => do
    let name ← key.written?
    let content ← value.written?
    let others ← writtenPairs rest
    some ((name, content) :: others)

def isTextMap : Option Value → Bool
  | none | some .null | some (.map _ _) => true
  | some _ => false

def readTextMap (entries : Entries) (key : Text) : Except DocumentFault (Option TextMap) :=
  match entries.lookup key with
  | some (.map _ pairs) =>
    match writtenPairs pairs with
    | some written => .ok (some (.ofEntries written))
    | none => .error unwritable
  | _ => .ok none

def metadataKeys : List String := ["name", "namespace", "labels", "annotations"]

def isMetadataKey (key : Value) : Bool :=
  match key with
  | .text content => (metadataKeys.map Text.ofString).contains content
  | _ => false

def isMetadata (entries : Entries) : Bool :=
  entries.all (fun entry => isMetadataKey entry.1) && isTextMap (entries.lookup "labels")
    && isTextMap (entries.lookup "annotations")

def metadataOf (entries : Entries) : Except DocumentFault ObjectMeta := do
  let name ← readWritten entries "name"
  let space ← readWritten entries "namespace"
  let labels ← readTextMap entries "labels"
  let annotations ← readTextMap entries "annotations"
  .ok ⟨name, space, labels, annotations⟩

def readMetadata (entries : Entries) : Except DocumentFault (Option ObjectMeta) :=
  match entries.lookup "metadata" with
  | none | some .null => .ok none
  | some (.map anchor members) =>
    if isMetadata members then (metadataOf members).map some
    else .error (refusal (.map anchor members) badMetadata)
  | some value => .error (refusal value badMetadata)

def ofEntries (entries : Entries) : Except DocumentFault Config := do
  let renamed ← renameAll entries
  let chartName ← readSetting renamed .chartName
  let chartVersion ← readSetting renamed .chartVersion
  let chartRepoName ← readSetting renamed .chartRepoName
  let chartRepoUrl ← readSetting renamed .chartRepoUrl
  let chartHome ← readSetting renamed .chartHome
  let releaseName ← readSetting renamed .releaseName
  let releaseNamespace ← readSetting renamed .releaseNamespace
  let values ← readSetting renamed .values
  let helmBin ← readSetting renamed .helmBin
  let helmHome ← readSetting renamed .helmHome
  let extraArgs ← readExtraArgs renamed
  checkKeys renamed
  let metadata ← readMetadata renamed
  let apiVersion ← readWritten renamed "apiVersion"
  let kind ← readWritten renamed "kind"
  .ok {
    chartName, chartVersion, chartRepoName, chartRepoUrl, chartHome, releaseName,
    releaseNamespace, values, extraArgs, helmBin, helmHome, metadata, apiVersion, kind }

def ofDocument : Value → Except DocumentFault Config
  | .null => ofEntries []
  | .map _ entries => ofEntries entries
  | document => .error (refusal document notMapping)

def member? (key : Text) (value : Option Value) : Entries :=
  match value with
  | some value => [(.text key, value)]
  | none => []

def textEntry (key : Text) (value : Option Text) : Entries := member? key (value.map .text)

def mapValue (map : TextMap) : Value :=
  .map none (map.entries.map fun entry => (.text entry.1, .text entry.2))

def metadataValue (metadata : ObjectMeta) : Value :=
  .map none (textEntry "name" metadata.name ++ textEntry "namespace" metadata.space
    ++ member? "labels" (metadata.labels.map mapValue)
    ++ member? "annotations" (metadata.annotations.map mapValue))

/-- The document of a configuration: what is set, under the key that it is known by. -/
def toDocument (config : Config) : Value :=
  .map none (textEntry "chartName" config.chartName
    ++ textEntry "chartVersion" config.chartVersion
    ++ textEntry "chartRepoName" config.chartRepoName
    ++ textEntry "chartRepoUrl" config.chartRepoUrl
    ++ textEntry "chartHome" config.chartHome
    ++ textEntry "releaseName" config.releaseName
    ++ textEntry "releaseNamespace" config.releaseNamespace
    ++ textEntry "values" config.values
    ++ member? "extraArgs" (config.extraArgs.map fun words => .list none (words.map .text))
    ++ textEntry "helmBin" config.helmBin
    ++ textEntry "helmHome" config.helmHome
    ++ member? "metadata" (config.metadata.map metadataValue)
    ++ textEntry "apiVersion" config.apiVersion
    ++ textEntry "kind" config.kind)

end Config

end ChartManifests
