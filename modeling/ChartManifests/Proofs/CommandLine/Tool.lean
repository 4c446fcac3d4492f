import ChartManifests.CommandLine.Tool
import ChartManifests.Proofs.CommandLine.Orders
import ChartManifests.Proofs.Generator.Course
import ChartManifests.Proofs.Host.Writing
import ChartManifests.Proofs.Resolve
import ChartManifests.Proofs.Text.ByteForm
/-!
What a run of the tool leaves behind. The output file changes only when there are manifests, and no
working directory is left, whatever fails and wherever.
-/

namespace ChartManifests.CommandLine

variable {host : Host} {runner : Runner} {input : Text.Bytes} {world : World}

def manifestsOf (host : Host) (runner : Runner) (input : Text.Bytes) (configFile : String) :
    Action Text.Bytes := do
  let content ← readConfigFile host input configFile
  Action.of fun world =>
    let configured := Generator.configure host (.stream (.bytes content)) .unconfigured world
    match configured.result with
    | .error failure => (.error failure, configured.world)
    | .ok () =>
      let reply := configured.generator.generate host runner configured.world
      (reply.result, reply.world)

theorem runGenerate_eq (configFile : String) (outputFile : Given) :
    runGenerate host runner input configFile outputFile =
      manifestsOf host runner input configFile >>= deliver host outputFile := by
  rw [manifestsOf, bind_assoc]
  rfl

/-- Without a configuration, or without a working directory, no file changes. Otherwise there is a
working directory, which is removed after the commands. -/
theorem manifestsOf_cases (host : Host) (runner : Runner) (input : Text.Bytes) (configFile : String)
    (world : World) :
    (∃ failure after, (manifestsOf host runner input configFile).run world =
        (.error failure, after) ∧ after.files = world.files) ∨
    ∃ issued result after, (manifestsOf host runner input configFile).run world =
        (result, (WorkingDirectory.numbered host world.directories).remove after) ∧
      runner.Carries issued (WorkingDirectory.made host world) after := by
  obtain ⟨read, ran⟩ : ∃ result, (readConfigFile host input configFile).run world =
      (result, world) := ⟨_, rfl⟩
  rw [manifestsOf, Action.run_bind, ran]
  cases read with
  | error failure => exact Or.inl ⟨failure, world, rfl, rfl⟩
  | ok content =>
    simp only [Action.run_of]
    obtain ⟨failure, _, refused⟩ | ⟨_, fault, _, _, refused⟩ | ⟨config, _, _, accepted⟩ :=
      configure_cases host (.stream (.bytes content)) .unconfigured world
    · rw [refused]
      exact Or.inl ⟨failure, world, rfl, rfl⟩
    · rw [refused]
      exact Or.inl ⟨_, WorkingDirectory.unmade world, rfl, rfl⟩
    · obtain ⟨issued, result, after, generated, _, carried⟩ := generate_ready host runner config
        (WorkingDirectory.numbered host world.directories) (WorkingDirectory.made host world)
      rw [accepted]
      simp only [Generator.discardDirectory, generated]
      exact Or.inr ⟨issued, result, after, rfl, carried⟩

section Delivery

inductive Barred (host : Host) (files : Files) (name : String) (manifests : Text.Bytes) :
    Failure → Prop
  | improper : '\x00' ∈ name.toList → Barred host files name manifests (.defect .nullCharacter)
  | path {fault : FileFault} : '\x00' ∉ name.toList →
      files.Barred host.current (Text.inOctets name) fault →
      Barred host files name manifests (.file fault name)
  | full {location : Location} : '\x00' ∉ name.toList →
      files.find host.current (Text.inOctets name) = .ok (location, .device .full) →
      manifests ≠ [] → Barred host files name manifests (.unwritten .noSpace)

/-- Where the bytes come out that are written to something that keeps nothing. -/
def passedOn (content : Text.Bytes) : Entry → Printed
  | .device .output => ⟨content, []⟩
  | .device .errors => ⟨[], content⟩
  | _ => ⟨[], []⟩

variable {name : String} {content : Text.Bytes} {failure : Failure}

theorem Barred.unreported {files : Files} (barred : Barred host files name content failure) :
    failure.isReported = false := by
  cases barred <;> rfl

theorem Barred.deliver (barred : Barred host world.files name content failure) :
    (deliver host (.text name) content).run world = (.error failure, world) := by
  simp only [CommandLine.deliver, Action.run_of, List.contains_iff_mem]
  cases barred with
  | improper null => rw [if_pos null]
  | path proper barred => rw [if_neg proper, Files.replace_error_iff.mpr barred]
  | full proper found some =>
    simp only [if_neg proper, Files.replace, found, List.isEmpty_eq_false_iff.mpr some]
    rfl

theorem deliver_cases (host : Host) (name : String) (content : Text.Bytes) (world : World) :
    (∃ failure, (deliver host (.text name) content).run world = (.error failure, world) ∧
      Barred host world.files name content failure) ∨
    (∃ after, (deliver host (.text name) content).run world =
        (.ok ⟨[], []⟩, { world with files := after }) ∧
      Files.SameWays world.files after ∧
      after.content? host.current (Text.inOctets name) = some content) ∨
    ∃ location entry, (deliver host (.text name) content).run world =
        (.ok (passedOn content entry), world) ∧
      world.files.find host.current (Text.inOctets name) = .ok (location, entry) ∧
      entry.IsSink := by
  simp only [deliver, Action.run_of, List.contains_iff_mem]
  by_cases improper : '\x00' ∈ name.toList
  · rw [if_pos improper]
    exact Or.inl ⟨_, rfl, .improper improper⟩
  rw [if_neg improper]
  cases written : world.files.replace host.current (Text.inOctets name) content with
  | error fault => exact Or.inl ⟨_, rfl, .path improper (Files.replace_error_iff.mp written)⟩
  | ok outcome =>
    cases outcome with
    | stored after =>
      obtain ⟨same, held | ⟨rfl, location, entry, found, sink, plain⟩⟩ :=
        Files.replace_stored written
      · exact Or.inr (Or.inl ⟨after, rfl, same, held⟩)
      · refine Or.inr (Or.inr ⟨location, entry, ?_, found, sink⟩)
        cases entry with
        | device kind => exact absurd rfl (plain kind)
        | _ => rfl
    | taken kind =>
      obtain ⟨location, found⟩ := Files.replace_taken written
      have sink : Entry.IsSink (.device kind) := ⟨nofun, nofun⟩
      cases kind with
      | full =>
        cases content with
        | nil => exact Or.inr (Or.inr ⟨location, _, rfl, found, sink⟩)
        | cons byte rest => exact Or.inl ⟨_, rfl, .full improper found (by simp)⟩
      | _ => exact Or.inr (Or.inr ⟨location, _, rfl, found, sink⟩)

end Delivery

section Printing

/-- A code point as it goes out: by its own bytes, or by its number if it has none. -/
def pointBytes (point : CodePoint) : Text.Bytes :=
  match point.char? with
  | some character => String.utf8EncodeChar character
  | none => ("\\u" ++ String.ofList (Nat.toDigits 16 point.number)).toUTF8.toList

theorem hexDigits_eq_toDigits {width number : Nat} (low : 16 ^ width ≤ number)
    (high : number < 16 ^ (width + 1)) :
    Text.hexDigits (width + 1) number = Nat.toDigits 16 number := by
  induction width generalizing number with
  | zero =>
    have digit : number < 16 := high
    rw [Nat.toDigits_of_lt_base digit, Text.hexDigits, Text.hexDigits, Nat.mod_eq_of_lt digit,
      List.nil_append]
  | succ width ih =>
    have base : 16 ≤ number := Nat.le_trans (Nat.le_self_pow (Nat.succ_ne_zero width) 16) low
    rw [Nat.toDigits_of_base_le (by decide) base, Text.hexDigits, ih]
    · rw [Nat.le_div_iff_mul_le (by decide), ← Nat.pow_succ]
      exact low
    · rw [Nat.div_lt_iff_lt_mul (by decide), ← Nat.pow_succ]
      exact high

theorem hexEscape_of_surrogate {point : CodePoint} (unknown : point.char? = none) :
    Text.hexEscape point.number = '\\' :: 'u' :: Nat.toDigits 16 point.number := by
  have surrogate : 0xD800 ≤ point.number ∧ point.number ≤ 0xDFFF := by
    simpa [CodePoint.char?, CodePoint.isSurrogate] using unknown
  rw [Text.hexEscape, if_neg (by omega), if_pos (by omega), hexDigits_eq_toDigits (by omega)
    (by omega)]

theorem printed_eq (text : Text) : printed text = text.flatMap pointBytes := by
  rw [printed, Text.encode_characters, Text.writable, String.toList_ofList, List.flatMap_assoc]
  congr 1
  funext point
  rw [pointBytes]
  cases known : point.char? with
  | some character => exact List.flatMap_singleton _ _
  | none =>
    change (Text.hexEscape point.number).flatMap _ = Text.Utf8.encode _
    rw [Text.encode_characters, String.toList_append, String.toList_ofList,
      hexEscape_of_surrogate known, String.toList_ofList]
    rfl

theorem printed_ofString (string : String) :
    printed (Text.ofString string) = string.toUTF8.toList := by
  change _ = Text.Utf8.encode string
  rw [printed_eq, Text.encode_characters, Text.ofString, Text.ofChars, List.flatMap_map]
  congr 1
  funext character
  rw [pointBytes, CodePoint.char?_ofChar]

theorem printed_append (first second : Text) :
    printed (first ++ second) = printed first ++ printed second := by
  simp only [printed_eq, List.flatMap_append]

/-- The bytes of a message behind the name of the tool, on a line of its own. -/
def complaint (failure : Failure) : Text.Bytes :=
  "helm-inflator error:  ".toUTF8.toList ++ failure.message.flatMap pointBytes
    ++ "\n".toUTF8.toList

theorem printed_failureText (failure : Failure) :
    printed (failureText none failure) = complaint failure := by
  have shape : failureText none failure =
      Text.ofString "helm-inflator error:  " ++ failure.message ++ Text.ofString "\n" := rfl
  rw [shape, printed_append, printed_append, printed_ofString, printed_ofString, printed_eq]
  rfl

theorem printed_logText_none (host : Host) (first : Nat) (log : List Event) :
    printed (logText host none first log) = [] :=
  printed_eq []

end Printing

/-- How the tool ends with a failure. Its own failures are reported; any other one leaves it. -/
inductive Fails : Failure → Report → Prop
  | reported {failure : Failure} :
      failure.isReported = true → Fails failure ⟨.ok 1, [], complaint failure⟩
  | left {failure : Failure} :
      failure.isReported = false → Fails failure ⟨.error failure, [], []⟩

section Orders

variable {task : Task} {arguments : List String} {after : World}

theorem run_of_ok {shown : Printed} (ordered : orderOf arguments = .ok ⟨none, task⟩)
    (ended : (task.run host runner input).run world = (.ok shown, after)) :
    run host runner arguments input world = (⟨.ok 0, shown.output, shown.errors⟩, after) := by
  simp only [run, ordered, Order.run, ended, printed_logText_none, List.nil_append]

theorem run_of_error {failure : Failure} (ordered : orderOf arguments = .ok ⟨none, task⟩)
    (ended : (task.run host runner input).run world = (.error failure, after)) :
    ∃ report, run host runner arguments input world = (report, after) ∧ Fails failure report := by
  simp only [run, ordered, Order.run, ended, printed_logText_none, List.nil_append,
    printed_failureText]
  refine ⟨_, rfl, ?_⟩
  cases reported : failure.isReported with
  | true => exact .reported reported
  | false => exact .left reported

theorem generate_of_error {configFile output : String} {failure : Failure}
    (inflated : (manifestsOf host runner input configFile).run world = (.error failure, after)) :
    (Task.run host runner input (.generate configFile (.text output))).run world =
      (.error failure, after) := by
  rw [Task.run, runGenerate_eq, Action.run_bind_error inflated]

theorem generate_of_ok {configFile output : String} {manifests : Text.Bytes}
    (inflated : (manifestsOf host runner input configFile).run world = (.ok manifests, after)) :
    (Task.run host runner input (.generate configFile (.text output))).run world =
      (deliver host (.text output) manifests).run after := by
  rw [Task.run, runGenerate_eq, Action.run_bind_ok inflated]

end Orders

def nextDirectory (host : Host) (world : World) : Location :=
  (WorkingDirectory.numbered host world.directories).location

/-- Nothing stands where the next working directory is made, nor below. -/
def Fresh (host : Host) (world : World) : Prop :=
  ∀ place, nextDirectory host world <+: place → world.files.standing? place = none

/-- The turns of the runner in a run of the tool. The first of them meets the working directory,
which has just been made. -/
def turns (host : Host) (runner : Runner) (before after : World) : List Turn :=
  runner.turns before.commands (WorkingDirectory.made host before).files
    (after.commands.drop before.commands.length)

/-- A turn of the runner leaves alone what a path leads to. What is in the working directory does
not count, since it is gone with that directory in the end. -/
def Spares (runner : Runner) (directory current : Location) (path : String) (turn : Turn) : Prop :=
  ((runner.answer turn).files.removeDirectory directory).find current path =
    (turn.files.removeDirectory directory).find current path

/-- No working directory of those that were asked for in between is there that was not before. -/
def LeavesNoDirectory (host : Host) (before after : World) : Prop :=
  ∀ number, before.directories ≤ number → number < after.directories →
    after.files.isDirectory (WorkingDirectory.numbered host number).location = true →
    before.files.isDirectory (WorkingDirectory.numbered host number).location = true

theorem LeavesNoDirectory.of_sameWays {before between after : World}
    (none : LeavesNoDirectory host before between)
    (same : Files.SameWays between.files after.files)
    (counted : after.directories = between.directories) : LeavesNoDirectory host before after := by
  intro number made bound there
  rw [Files.isDirectory_iff, same.directories, ← Files.isDirectory_iff] at there
  exact none number made (counted ▸ bound) there

theorem LeavesNoDirectory.of_files {before after : World} (same : after.files = before.files) :
    LeavesNoDirectory host before after :=
  fun _ _ _ there => same ▸ there

theorem LeavesNoDirectory.of_remove {last : World}
    (counted : last.directories = world.directories + 1) :
    LeavesNoDirectory host world
      ((WorkingDirectory.numbered host world.directories).remove last) := by
  intro number lower upper there
  have bound : number < last.directories := upper
  obtain rfl : number = world.directories := by omega
  have gone := last.files.isDirectory_removeDirectory_self
    (WorkingDirectory.numbered host world.directories).location
  exact absurd (gone.symm.trans there) Bool.false_ne_true

theorem find_removeDirectory_made (fresh : Fresh host world) (current : Location) (path : String) :
    ((WorkingDirectory.made host world).files.removeDirectory (nextDirectory host world)).find
      current path = world.files.find current path := by
  apply Files.find_congr
  intro place
  change ((world.files.add (nextDirectory host world) .directory _).removeDirectory
    (nextDirectory host world)).standing? place = _
  rw [Files.standing?_removeDirectory, Files.standing?_add]
  simp only [Files.isDirectory_iff, Files.standing?_add, if_true, true_and]
  by_cases below : nextDirectory host world <+: place
  · rw [if_pos below, fresh place below]
  · have apart : place ≠ nextDirectory host world := by
      rintro rfl
      exact below List.prefix_rfl
    rw [if_neg below, if_neg apart]

theorem manifestsOf_leavesNoDirectory {configFile : String} {result : Except Failure Text.Bytes}
    {after : World}
    (ran : (manifestsOf host runner input configFile).run world = (result, after)) :
    LeavesNoDirectory host world after := by
  obtain ⟨failure, _, unmade, same⟩ | ⟨issued, _, last, made, carried⟩ :=
    manifestsOf_cases host runner input configFile world
  · cases unmade.symm.trans ran
    exact .of_files same
  · cases made.symm.trans ran
    exact .of_remove carried.directories

theorem manifestsOf_find {configFile path : String} {result : Except Failure Text.Bytes}
    {after : World} (fresh : Fresh host world)
    (ran : (manifestsOf host runner input configFile).run world = (result, after))
    (spared : ∀ turn ∈ turns host runner world after,
      Spares runner (nextDirectory host world) host.current path turn) :
    after.files.find host.current path = world.files.find host.current path := by
  obtain ⟨failure, _, unmade, same⟩ | ⟨issued, _, last, made, carried⟩ :=
    manifestsOf_cases host runner input configFile world
  · cases unmade.symm.trans ran
    rw [same]
  · cases made.symm.trans ran
    have commands : last.commands.drop world.commands.length = issued := by
      rw [carried.commands]
      exact List.drop_left
    -- The trees are compared without the working directory: it is made before the first turn, and
    -- whatever a command leaves in it is gone with it.
    let like : Files → Prop := fun files =>
      (files.removeDirectory (nextDirectory host world)).find host.current path =
        world.files.find host.current path
    have same : like last.files := by
      rw [carried.files]
      apply runner.leaves_induction
      · intro turn member kept
        refine (spared turn ?_).trans kept
        change turn ∈ runner.turns _ _ (last.commands.drop world.commands.length)
        exact commands.symm ▸ member
      · exact find_removeDirectory_made fresh host.current path
    exact same

/-- The output file is as it was: what its path leads to, if anything, and what is in it. -/
def Unchanged (host : Host) (output : String) (before after : World) : Prop :=
  after.files.find host.current (Text.inOctets output) =
    before.files.find host.current (Text.inOctets output)

/-- How a run ends that was to inflate a chart, by what became of the manifests. -/
inductive Ending (host : Host) (output : String) (before after : World) :
    Except Failure Text.Bytes → Report → Prop
  | written {manifests : Text.Bytes} :
      after.files.content? host.current (Text.inOctets output) = some manifests →
      Ending host output before after (.ok manifests) ⟨.ok 0, [], []⟩
  | drained {manifests : Text.Bytes} {location : Location} {entry : Entry} :
      before.files.find host.current (Text.inOctets output) = .ok (location, entry) →
      entry.IsSink →
      (∀ failure, ¬ Barred host after.files output manifests failure) →
      Unchanged host output before after →
      Ending host output before after (.ok manifests)
        ⟨.ok 0, (passedOn manifests entry).output, (passedOn manifests entry).errors⟩
  | barred {manifests : Text.Bytes} {failure : Failure} :
      Barred host after.files output manifests failure →
      failure.isReported = false →
      Unchanged host output before after →
      Ending host output before after (.ok manifests) ⟨.error failure, [], []⟩
  | failed {failure : Failure} {report : Report} :
      Fails failure report →
      Unchanged host output before after →
      Ending host output before after (.error failure) report

theorem Ending.replaced {output : String} {before after : World} {old manifests : Text.Bytes}
    {report : Report} (proper : '\x00' ∉ output.toList)
    (held : before.files.content? host.current (Text.inOctets output) = some old)
    (ending : Ending host output before after (.ok manifests) report) :
    after.files.content? host.current (Text.inOctets output) = some manifests ∧
      report = ⟨.ok 0, [], []⟩ := by
  obtain ⟨location, found⟩ := Files.content?_eq_some_iff.mp held
  cases ending with
  | written stored => exact ⟨stored, rfl⟩
  | drained sinks sink =>
    cases found.symm.trans sinks
    exact absurd rfl (sink.2 old)
  | barred barred _ unchanged =>
    have kept := Files.content?_eq_some_iff.mpr ⟨location, unchanged.trans found⟩
    cases barred with
    | improper null => exact absurd null proper
    | path _ barred => exact absurd barred (Files.not_barred_of_content? kept)
    | full _ full => cases (unchanged.trans found).symm.trans full

/-- A run that is to inflate a chart leaves no working directory. The output file is as it was
unless it holds the manifests, as long as the runner spares it. -/
theorem run_generate {configFile output : String} {report : Report} {after : World}
    (config : IsPlain configFile) (plain : IsPlain output)
    (ran : run host runner ["generate", configFile, "--output-file", output] input world =
      (report, after)) :
    LeavesNoDirectory host world after ∧
      (Fresh host world →
        (∀ turn ∈ turns host runner world after,
          Spares runner (nextDirectory host world) host.current (Text.inOctets output) turn) →
        Ending host output world after ((manifestsOf host runner input configFile).run world).1
          report) := by
  cases inflated : (manifestsOf host runner input configFile).run world with
  | mk result between =>
    have ordered := orderOf_generate config plain
    have none := manifestsOf_leavesNoDirectory inflated
    cases result with
    | error failure =>
      obtain ⟨failed, ended, fails⟩ := run_of_error ordered (generate_of_error inflated)
      cases ran.symm.trans ended
      exact ⟨none, fun fresh spared => .failed fails (manifestsOf_find fresh inflated spared)⟩
    | ok manifests =>
      have delivered : (Task.run host runner input (.generate configFile (.text output))).run
          world = (deliver host (.text output) manifests).run between := generate_of_ok inflated
      obtain ⟨failure, refused, barred⟩ | ⟨files, stored, same, held⟩ |
          ⟨location, entry, passed, found, sink⟩ := deliver_cases host output manifests between
      · obtain ⟨failed, ended, fails⟩ := run_of_error ordered (delivered.trans refused)
        cases ran.symm.trans ended
        have unreported := barred.unreported
        cases fails with
        | reported reported => exact absurd reported (by simp [unreported])
        | left =>
          refine ⟨none, fun fresh spared => ?_⟩
          exact .barred barred unreported (manifestsOf_find fresh inflated spared)
      · cases ran.symm.trans (run_of_ok ordered (delivered.trans stored))
        exact ⟨none.of_sameWays same rfl, fun fresh spared => .written held⟩
      · cases ran.symm.trans (run_of_ok ordered (delivered.trans passed))
        refine ⟨none, fun fresh spared => ?_⟩
        have kept := manifestsOf_find fresh inflated spared
        refine .drained (kept.symm.trans found) sink (fun failure barred => ?_) kept
        cases barred.deliver.symm.trans passed

/-- How a run ends that was to check the version, by what the answer comes to. -/
inductive Checked : Except Failure String → Report → Prop
  | accepted {version : String} :
      Checked (.ok version) ⟨.ok 0, ("v" ++ version ++ "\n").toUTF8.toList, []⟩
  | failed {failure : Failure} {report : Report} :
      Fails failure report → Checked (.error failure) report

theorem readNamed_version (helmBin : String) :
    Config.readNamed (.document (versionDocument (.text helmBin))) =
      .ok { Config.empty with chartName := some "version", helmBin := some helmBin } := rfl

theorem resolve_version (helmBin : String) (able : WorkingDirectory.fault? host world = none) :
    ∃ config, (Config.resolve host (.document (versionDocument (.text helmBin)))).run world =
        (.ok (config, WorkingDirectory.numbered host world.directories),
          WorkingDirectory.made host world) ∧
      config.helmBin = some (Text.ofString (if helmBin = "" then defaultBin else helmBin)) := by
  refine ⟨_, Config.resolve_ok (readNamed_version helmBin) rfl able, ?_⟩
  by_cases nameless : helmBin = ""
  · subst nameless
    rfl
  · have named : nonEmpty? (some (Text.ofString helmBin)) = some (Text.ofString helmBin) := by
      refine Config.nonEmpty?_eq_some.mpr ⟨rfl, ?_⟩
      simpa [Text.ofString, Text.ofChars] using nameless
    simp only [Config.completed, named, nameless, if_false, Option.getD_some]

theorem runVersion_run (input : Text.Bytes) {config : Config} {directory : WorkingDirectory}
    {helmBin : String} {answer : Except Failure String} {made after : World}
    (resolved : (Config.resolve host (.document (versionDocument (.text helmBin)))).run world =
      (.ok (config, directory), made))
    (checked : (Helm.checkVersion runner config).run made = (answer, after)) :
    (Task.run host runner input (.version (.text helmBin))).run world =
      (answer.map fun version => ⟨("v" ++ version ++ "\n").toUTF8.toList, []⟩,
        directory.remove after) := by
  have within : (directory.within (Helm.checkVersion runner config)).run made =
      (answer, directory.remove after) := by
    simp only [WorkingDirectory.within, Action.run_andFinally, checked]
  rw [Task.run, runVersion, Action.run_bind_ok resolved, Action.run_bind, within]
  cases answer <;> rfl

/-- How a check of the version goes: a working directory is refused and nothing is asked, or helm is
asked for its version and the run ends by the answer. -/
inductive VersionRun (host : Host) (runner : Runner) (helmBin : String) (before after : World) :
    Report → Prop
  | refused {fault : FileFault} {report : Report} :
      WorkingDirectory.fault? host before = some fault →
      after.commands = before.commands →
      Fails (.noDirectory fault (WorkingDirectory.numbered host before.directories).path.text)
        report →
      VersionRun host runner helmBin before after report
  | asked {asked : Command} {report : Report} :
      WorkingDirectory.fault? host before = none →
      asked.words = some (Text.ofString (if helmBin = "" then defaultBin else helmBin)) ::
        Helm.versionArgs.map some →
      asked.purpose = .helm →
      after.commands = before.commands ++ [asked] →
      Checked (Helm.gate (runner before.commands asked (WorkingDirectory.made host before).files))
        report →
      VersionRun host runner helmBin before after report

/-- A check of the version leaves no directory. It asks the helm that it is told to, or the usual one
if that has no name, and ends by the answer. -/
theorem run_version {helmBin : String} {report : Report} {after : World} (plain : IsPlain helmBin)
    (ran : run host runner ["version", "--helm-bin", helmBin] input world = (report, after)) :
    LeavesNoDirectory host world after ∧ VersionRun host runner helmBin world after report := by
  have ordered := orderOf_version plain
  cases able : WorkingDirectory.fault? host world with
  | some fault =>
    have refused := Config.resolve_refused (readNamed_version helmBin) able
    have task : (Task.run host runner input (.version (.text helmBin))).run world = _ :=
      Action.run_bind_error refused
    obtain ⟨failed, ended, fails⟩ := run_of_error ordered task
    cases ran.symm.trans ended
    exact ⟨.of_files rfl, .refused able rfl fails⟩
  | none =>
    obtain ⟨config, resolved, bin⟩ := resolve_version helmBin able
    obtain ⟨last, checked, carried⟩ := Helm.checkVersion_run runner config
      (WorkingDirectory.made host world)
    have task := runVersion_run input resolved checked
    have none : LeavesNoDirectory host world
        ((WorkingDirectory.numbered host world.directories).remove last) :=
      .of_remove carried.directories
    have words : (Helm.versionCommand config).words =
        some (Text.ofString (if helmBin = "" then defaultBin else helmBin)) ::
          Helm.versionArgs.map some := by
      rw [← bin]
      rfl
    cases answered : Helm.gate (runner (WorkingDirectory.made host world).commands
        (Helm.versionCommand config) (WorkingDirectory.made host world).files) with
    | ok version =>
      rw [answered] at task
      cases ran.symm.trans (run_of_ok ordered task)
      exact ⟨none, .asked able words rfl carried.commands (answered ▸ .accepted)⟩
    | error failure =>
      rw [answered] at task
      obtain ⟨failed, ended, fails⟩ := run_of_error ordered task
      cases ran.symm.trans ended
      exact ⟨none, .asked able words rfl carried.commands (answered ▸ .failed fails)⟩

/-- The output file changes on success only and no working directory is left, whatever the
configuration is, whatever the output file held and whatever the runner does. The same holds of a
check of the version, which prints the version exactly if it is accepted. -/
theorem run_outcome (host : Host) (runner : Runner) (input : Text.Bytes) (world : World) :
    (∀ configFile output report after, IsPlain configFile → IsPlain output →
      run host runner ["generate", configFile, "--output-file", output] input world =
        (report, after) →
      LeavesNoDirectory host world after ∧
        (Fresh host world →
          (∀ turn ∈ turns host runner world after,
            Spares runner (nextDirectory host world) host.current (Text.inOctets output) turn) →
          Ending host output world after ((manifestsOf host runner input configFile).run world).1
            report)) ∧
    (∀ helmBin report after, IsPlain helmBin →
      run host runner ["version", "--helm-bin", helmBin] input world = (report, after) →
      LeavesNoDirectory host world after ∧ VersionRun host runner helmBin world after report) :=
  ⟨fun _ _ _ _ config plain ran => run_generate config plain ran,
    fun _ _ _ plain ran => run_version plain ran⟩

theorem run_outcome_of_idle :
    let host : Host := { current := [], environment := [], temporaryNames := toString }
    let runner : Runner := fun _ _ files => ⟨.ok (Text.Utf8.encode "v3.14.2"), files, []⟩
    let input := Text.Utf8.encode "chartName: nginx"
    let old := Text.Utf8.encode "old"
    let root := (Files.empty.add [] .directory 0o755).add ["tmp"] .directory 0o777
    let world : World := ⟨root.add ["out.yaml"] (.file old) 0o644, 0, [], []⟩
    let ended := run host runner ["generate", "-", "--output-file", "out.yaml"] input world
    let asked := run host runner ["version", "--helm-bin", ""] input world
    Fresh host world ∧
    (∀ turn ∈ turns host runner world ended.2,
      Spares runner (nextDirectory host world) host.current (Text.inOctets "out.yaml") turn) ∧
    LeavesNoDirectory host world ended.2 ∧
    Ending host "out.yaml" world ended.2 ((manifestsOf host runner input "-").run world).1
      ended.1 ∧
    LeavesNoDirectory host world asked.2 ∧
    VersionRun host runner "" world asked.2 asked.1 := by
  intro host runner input old root world ended asked
  have fresh : Fresh host world := by
    intro place below
    have length : 2 ≤ place.length := below.length_le
    have notFile : place ≠ ["out.yaml"] := by
      rintro rfl
      simp at length
    have notAround : place ≠ ["tmp"] := by
      rintro rfl
      simp at length
    have notRoot : place ≠ [] := by
      rintro rfl
      simp at length
    simp only [world, root, Files.standing?_add, notFile, notAround, notRoot, if_false]
    rfl
  have spared : ∀ turn ∈ turns host runner world ended.2,
      Spares runner (nextDirectory host world) host.current (Text.inOctets "out.yaml") turn :=
    fun _ _ => rfl
  have outcome := run_outcome host runner input world
  obtain ⟨none, ending⟩ := outcome.1 "-" "out.yaml" ended.1 ended.2 (Or.inl rfl)
    (Or.inr (by decide)) rfl
  obtain ⟨alsoNone, checked⟩ := outcome.2 "" asked.1 asked.2 (Or.inr (by decide)) rfl
  exact ⟨fresh, spared, none, ending fresh spared, alsoNone, checked⟩

end ChartManifests.CommandLine
