import ChartManifests.Proofs.Helm
import ChartManifests.Proofs.Text.Decoding
import ChartManifests.Proofs.Version
/-!
Which outputs of the program pass the check of its version. The first token of the output decides,
and only the numbers in it: the first one must be a 3, written as that one digit. Bytes in front of
the token do not matter if there is no `v` among them, nor does what follows if it does not go on
with the token.
-/

namespace ChartManifests

theorem Text.isDigit_low {character : Char} (low : character.toNat < 0x80)
    (outside : ¬ (0x30 ≤ character.toNat ∧ character.toNat ≤ 0x39)) :
    Text.isDigit character = false := by
  simp only [Text.isDigit, Text.digitValue?]
  rw [if_pos low, if_neg outside]
  rfl

namespace Version

/-- The first token of a text, as long as it goes, is that of a version. -/
def Leads (version : String) (text : List Char) : Prop :=
  ∃ before after, IsFirst text before ('v' :: version.toList) after

def IsThird (version : String) : Prop := version.toList.takeWhile (· ≠ '.') = ['3']

theorem major_iff {version : String} :
    major version = Failure.supportedMajor ↔ IsThird version := by
  have three : Failure.supportedMajor = String.ofList ['3'] := rfl
  rw [major, three, IsThird]
  refine ⟨fun same => ?_, fun same => congrArg String.ofList same⟩
  have characters := congrArg String.toList same
  rwa [String.toList_ofList, String.toList_ofList] at characters

/-- What the check of an output comes to: the version, or a failure that names none if there is no
token, and the version otherwise. -/
structure Decides (text : List Char) (result : Except Failure String) : Prop where
  accepts : ∀ version, result = .ok version ↔ Leads version text ∧ IsThird version
  misses : (∃ shown, result = .error (.noVersion shown)) ↔
    ¬ ∃ token, IsToken token ∧ token <:+: text
  refuses : ∀ version, result = .error (.unsupportedVersion version) ↔
    Leads version text ∧ ¬ IsThird version
  fails : ∀ failure, result = .error failure →
    (∃ shown, failure = .noVersion shown) ∨ ∃ version, failure = .unsupportedVersion version

theorem Leads.isToken {version : String} {text : List Char} (leads : Leads version text) :
    ∃ token, IsToken token ∧ token <:+: text := by
  obtain ⟨before, after, first⟩ := leads
  exact ⟨_, first.isToken, before, after, first.stands.symm⟩

theorem Leads.unique {version other : String} {text : List Char} (leads : Leads version text)
    (also : Leads other text) : version = other := by
  obtain ⟨before, after, first⟩ := leads
  obtain ⟨front, behind, second⟩ := also
  have same := (first.unique second).1
  rw [List.cons.injEq] at same
  exact String.toList_inj.mp same.2

theorem supported_decides (text : List Char) : Decides text (supported text) := by
  cases parsed : parse text with
  | error failure =>
    obtain ⟨rfl, missing⟩ := parse_error parsed
    have absent := first?_none missing
    have failed : supported text = .error (.noVersion (String.ofList (Text.trim text))) := by
      rw [supported, parsed]
      rfl
    rw [failed]
    exact {
      accepts := fun version => ⟨nofun, fun decided => absurd decided.1.isToken absent⟩
      misses := ⟨fun _ => absent, fun _ => ⟨_, rfl⟩⟩
      refuses := fun version => ⟨nofun, fun decided => absurd decided.1.isToken absent⟩
      fails := fun _ same => Or.inl ⟨_, (Except.error.inj same).symm⟩ }
  | ok found =>
    have leads : Leads found text := (parse_ok_iff text found).mp parsed
    have decided : supported text = if major found = Failure.supportedMajor then .ok found
        else .error (.unsupportedVersion found) := by
      rw [supported, parsed]
      rfl
    rw [decided]
    by_cases third : IsThird found
    · rw [if_pos (major_iff.mpr third)]
      refine ⟨fun version => ⟨?_, ?_⟩, ⟨nofun, fun absent => absurd leads.isToken absent⟩,
        fun version => ⟨nofun, ?_⟩, nofun⟩
      · rintro ⟨⟩
        exact ⟨leads, third⟩
      · exact fun other => congrArg Except.ok (leads.unique other.1)
      · exact fun other => absurd (leads.unique other.1 ▸ third) other.2
    · rw [if_neg fun major => third (major_iff.mp major)]
      refine ⟨fun version => ⟨nofun, ?_⟩, ⟨nofun, fun absent => absurd leads.isToken absent⟩,
        fun version => ⟨?_, ?_⟩, fun _ same => Or.inr ⟨found, (Except.error.inj same).symm⟩⟩
      · exact fun other => absurd (leads.unique other.1 ▸ other.2) third
      · rintro ⟨⟩
        exact ⟨leads, third⟩
      · exact fun other => congrArg (Except.error ∘ Failure.unsupportedVersion)
          (leads.unique other.1)

theorem IsFirst.behind {front text before token after : List Char} (clear : 'v' ∉ front)
    (first : IsFirst text before token after) :
    IsFirst (front ++ text) (front ++ before) token after := by
  refine ⟨?_, first.isToken, ?_, ?_⟩
  · simp only [first.stands, List.append_assoc]
  · intro start other behind same isOther
    rw [List.append_assoc] at same
    rw [List.length_append]
    obtain ⟨more, rfl, rest⟩ | ⟨more, rfl, rest⟩ := List.append_eq_append_iff.mp same
    · have early := first.leftmost more other behind (by rw [rest, List.append_assoc]) isOther
      rw [List.length_append]
      omega
    · cases more with
      | nil =>
        rw [List.nil_append] at rest
        have early := first.leftmost [] other behind rest.symm isOther
        rw [List.length_nil] at early
        rw [List.append_nil]
        omega
      | cons head more =>
        -- The token would begin in front of the text, with its `v`.
        obtain ⟨character, others, rfl, -⟩ := isToken_iff.mp isOther
        simp only [List.cons_append, List.cons.injEq] at rest
        rw [← rest.1] at clear
        exact absurd (List.mem_append_right start List.mem_cons_self) clear
  · intro other behind same isOther
    rw [List.append_assoc, List.append_assoc] at same
    refine first.longest other behind ?_ isOther
    rw [List.append_assoc]
    exact List.append_cancel_left same

theorem supported_surrounded {front token rest : List Char} (clear : 'v' ∉ front)
    (isToken : IsToken token) (ends : Ends rest) :
    supported (front ++ (token ++ rest)) = supported token := by
  obtain ⟨character, more, rfl, -⟩ := isToken_iff.mp isToken
  have numbers : (String.ofList (character :: more)).toList = character :: more :=
    String.toList_ofList
  have first := isFirst_of_ends isToken ends
  have alone := isFirst_of_ends isToken ends_nil
  rw [List.append_nil] at alone
  rw [← numbers] at first alone ⊢
  rw [supported, supported, (parse_ok_iff _ _).mpr ⟨_, _, first.behind clear⟩,
    (parse_ok_iff _ _).mpr ⟨_, _, alone⟩]

end Version

namespace Helm

open Text

def Tells (runner : Runner) (config : Config) (world : World) (output : Bytes) : Prop :=
  (runner world.commands (versionCommand config) world.files).result = .ok output

/-- Nothing, or something that begins with a byte of ASCII that is neither a digit nor a dot. -/
def EndsToken (output : Bytes) : Prop :=
  ∀ byte rest, output = byte :: rest →
    byte.toNat < 0x80 ∧ ¬ (0x30 ≤ byte.toNat ∧ byte.toNat ≤ 0x39) ∧ byte.toNat ≠ 0x2E

theorem ends_of_endsToken {output : Bytes} {text : List Char} (ended : EndsToken output)
    (decodes : Utf8.Decodes output text) : Version.Ends text := by
  rw [decodes.eq_decodeLossy]
  cases output with
  | nil => exact Version.ends_nil
  | cons byte rest =>
    obtain ⟨low, noDigit, noDot⟩ := ended byte rest rfl
    have read : Utf8.decodeLossy (byte :: rest) =
        Char.ofNat byte.toNat :: Utf8.decodeLossy rest := by
      rw [Utf8.decodeLossy, ← List.singleton_append, (Utf8.Spells.one low rfl).read]
      rfl
    rw [read]
    rw [← toNat_ofNat_byte byte] at low noDigit noDot
    constructor
    · rintro _ _ ⟨⟩
      exact isDigit_low low noDigit
    · rintro _ _ same
      rw [List.cons.injEq] at same
      rw [same.1] at noDot
      exact absurd rfl noDot

theorem supported_output {before after : Bytes} {token : String} (clear : (0x76 : UInt8) ∉ before)
    (isToken : Version.IsToken token.toList) (ended : EndsToken after) :
    Version.supported (Utf8.decodeLossy (before ++ (Utf8.encode token ++ after))) =
      Version.supported (Utf8.decodeLossy (Utf8.encode token)) := by
  have front := Utf8.decodes_decodeLossy before
  have rest := Utf8.decodes_decodeLossy after
  have noLetter : 'v' ∉ Utf8.decodeLossy before :=
    fun present => clear (front.mem_of_low (by decide) present)
  have restLow : Utf8.BeginsLow after := fun byte more same => (ended byte more same).1
  have tokenLow : Utf8.BeginsLow (Utf8.encode token ++ after) := by
    obtain ⟨character, more, spelled, -⟩ := Version.isToken_iff.mp isToken
    rw [encode_characters, spelled]
    rintro byte _ ⟨⟩
    decide
  have whole := front.append ((Utf8.decodes_encode token).append rest restLow) tokenLow
  rw [← whole.eq_decodeLossy, ← (Utf8.decodes_encode token).eq_decodeLossy]
  exact Version.supported_surrounded noLetter isToken (ends_of_endsToken ended rest)

theorem checkVersion_told {runner : Runner} {config : Config} {world : World} {output : Bytes}
    (told : Tells runner config world output) :
    ((checkVersion runner config).run world).1 = Version.supported (Utf8.decodeLossy output) := by
  obtain ⟨after, ended, -⟩ := checkVersion_run runner config world
  rw [ended, gate, told]
  rfl

/-- The check of the version reads the output in the one way there is, and decides by the first
token in it. A token with other bytes around it decides as it does alone, for whatever configuration
and in whatever world, if no `v` is in front of it and nothing behind it goes on with it. -/
theorem checkVersion_decides {runner : Runner} {config : Config} {world : World} {output : Bytes}
    (told : Tells runner config world output) :
    (∃ text, (∀ other, Utf8.Decodes output other ↔ other = text) ∧
      Version.Decides text ((checkVersion runner config).run world).1) ∧
    ∀ (before after : Bytes) (token : String), output = before ++ Utf8.encode token ++ after →
      (0x76 : UInt8) ∉ before → Version.IsToken token.toList → EndsToken after →
      ∀ (other : Runner) (given : Config) (start : World),
        Tells other given start (Utf8.encode token) →
        ((checkVersion runner config).run world).1 = ((checkVersion other given).run start).1 := by
  rw [checkVersion_told told]
  refine ⟨⟨_, fun other => ⟨Utf8.Decodes.eq_decodeLossy, ?_⟩, Version.supported_decides _⟩, ?_⟩
  · rintro rfl
    exact Utf8.decodes_decodeLossy output
  · rintro before after token rfl clear isToken ended other given start alone
    rw [checkVersion_told alone, List.append_assoc]
    exact supported_output clear isToken ended

theorem supported_three :
    Version.supported (Utf8.decodeLossy (Utf8.encode "v3.14.2")) = .ok "3.14.2" := by
  have read : Utf8.decodeLossy (Utf8.encode "v3.14.2") =
      ['v', '3', '.', '1', '4', '.', '2'] := Utf8.decodeLossy_encode _
  have numbers : Version.first? ['v', '3', '.', '1', '4', '.', '2'] =
      some ['3', '.', '1', '4', '.', '2'] := by decide
  have three : Version.major (String.ofList ['3', '.', '1', '4', '.', '2']) =
      Failure.supportedMajor := by
    rw [Version.major, String.toList_ofList]
    rfl
  rw [read]
  simp only [Version.supported, Version.parse, numbers, bind, Except.bind, if_pos three]

theorem checkVersion_decides_of_cut :
    let before : Bytes := [0xE2, 0x82]
    let after : Bytes := [0x2B, 0x76, 0x32, 0x2E, 0x31]
    let output := before ++ Utf8.encode "v3.14.2" ++ after
    let runner : Runner := fun _ _ files => ⟨.ok output, files, []⟩
    let alone : Runner := fun _ _ files => ⟨.ok (Utf8.encode "v3.14.2"), files, []⟩
    let world : World := ⟨.empty, 0, [], []⟩
    Tells runner .empty world output ∧ (0x76 : UInt8) ∉ before ∧
      Version.IsToken "v3.14.2".toList ∧ EndsToken after ∧
      Tells alone .empty world (Utf8.encode "v3.14.2") ∧
      ((checkVersion runner .empty).run world).1 = ((checkVersion alone .empty).run world).1 ∧
      ((checkVersion alone .empty).run world).1 = .ok "3.14.2" ∧
      ∃ text, (∀ other, Utf8.Decodes output other ↔ other = text) ∧
        Version.Decides text ((checkVersion runner .empty).run world).1 := by
  intro before after output runner alone world
  have told : Tells runner .empty world output := rfl
  have toldAlone : Tells alone .empty world (Utf8.encode "v3.14.2") := rfl
  have clear : (0x76 : UInt8) ∉ before := by decide
  have isToken : Version.IsToken "v3.14.2".toList := by
    refine ⟨['3'], [['1', '4'], ['2']], ⟨by decide, List.all_eq_true.mp rfl⟩, by decide, ?_, rfl⟩
    simp only [List.forall_mem_cons]
    exact ⟨⟨by decide, List.all_eq_true.mp rfl⟩, ⟨by decide, List.all_eq_true.mp rfl⟩, nofun⟩
  have ended : EndsToken after := by
    intro byte rest same
    rw [← (List.cons.inj same).1]
    decide
  obtain ⟨decided, same⟩ := checkVersion_decides told
  refine ⟨told, clear, isToken, ended, toldAlone, ?_, ?_, decided⟩
  · exact same before after "v3.14.2" rfl clear isToken ended alone .empty world toldAlone
  · rw [checkVersion_told toldAlone, supported_three]

end Helm

end ChartManifests
