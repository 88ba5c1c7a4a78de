import ControlPlane.Proofs.Duration
import ControlPlane.Proofs.Json.Reader
import ControlPlane.Proofs.Net.Address
import ControlPlane.Settings.File

/-!
# Settings that are written and read again

What an operator is shown of the settings in force is itself a settings file, but not always
one that can be used.

* Values.  Addresses and policies are read back, a number if its text is near enough
  (`Rereads`), and a delay if its milliseconds fit a word (`Duration.read_json`).
* Sections.  `read_json` is the reading of each section as it is written.  What is left in it
  are the values that may come back changed or not at all.
* Files.  `Settings.read_json_eq_ok_iff` says when all settings are read back, and then there
  is what becomes of the settings of a file.
-/

namespace ControlPlane

open Json Net Text

/-! ## Values -/

/-- A number is what its text is read as. -/
def Rereads (x : Float) : Prop := (decode Json.float (Decimal.exchange x)).toOption = some x

instance : DecidablePred Rereads := fun _ => inferInstanceAs (Decidable (_ = _))

/-- The shortest text of a number may be read as the number next to it. -/
theorem not_rereads : ¬Rereads 0.42524172427482715 := by decide +kernel

theorem rereads_iff {x : Float} :
    Rereads x ↔ Json.float (Value.fraction x).document = .ok x := by
  have hdecode : decode Json.float (Decimal.exchange x) = Json.float (Value.fraction x).document :=
    decode_compact Json.float (.fraction x)
  rw [Rereads, hdecode]
  cases Json.float (Value.fraction x).document <;> simp [Except.toOption]

theorem Net.Address.read_json (a : Address) : Address.reader a.json.document = .ok a := by
  refine (parsed_text _ _ _).trans ?_
  rw [parse?_text]

theorem Policy.read_json (p : Policy) : Policy.reader (Value.text p.name).document = .ok p := by
  cases p <;> rfl

/-- A delay is read back if its milliseconds fit a word. -/
theorem Duration.read_json (d : Duration) : Duration.reader d.json.document =
    if d.millis ≤ maxWord then .ok d else .error (.mismatch "a duration") := by
  refine (parsed_text _ _ _).trans ?_
  rw [parse_text]
  by_cases hfits : d.millis ≤ maxWord
  · rw [if_pos hfits, if_pos hfits]
    rfl
  · rw [if_neg hfits, if_neg hfits]
    rfl

theorem Duration.read_json_eq_ok_iff {d : Duration} :
    Duration.reader d.json.document = .ok d ↔ d.millis ≤ maxWord := by
  rw [Duration.read_json]
  split
  · next hfits => exact iff_of_true rfl hfits
  · next hover => exact iff_of_false nofun hover

/-! ## Sections -/

/-- The section is read back but for its fractions and its delay. -/
theorem SafeModeSettings.read_json (s : SafeModeSettings) :
    SafeModeSettings.reader s.json.document = (do
      let container ← Json.float (Value.fraction s.containerThreshold).document
      let healthy ← Json.float (Value.fraction s.healthyThreshold).document
      let reported ← Json.float (Value.fraction s.reportedThreshold).document
      let delay ← Duration.reader s.exitDelay.json.document
      return { s with
        containerThreshold := container, healthyThreshold := healthy,
        reportedThreshold := reported, exitDelay := delay }) := by
  have hread : SafeModeSettings.reader s.json.document = _ :=
    (Record.Yields.withDefault _ (bool_bool s.enabled)).map SafeModeSettings.mk
      |>.seq (.withDefault _ (word64_whole s.minNodes))
      |>.seq (.withDefault _ rfl)
      |>.seq (.withDefault _ (bool_bool s.pipelineCheck))
      |>.seq (.withDefault _ rfl)
      |>.seq (.withDefault _ rfl)
      |>.seq (.withDefault _ rfl)
      |>.read (by simp)
  rw [hread]
  simp only [bind_map_left, bind_assoc, pure_bind]
  rfl

/-- The section is read back but for its fraction. -/
theorem ProviderSettings.read_json (s : ProviderSettings) :
    ProviderSettings.reader s.json.document =
      (Json.float (Value.fraction s.factor).document).map fun x => { s with factor := x } := by
  have hread : ProviderSettings.reader s.json.document = _ :=
    (Record.Yields.withDefault _ (word64_whole s.minPipelines)).map ProviderSettings.mk
      |>.seq (.withDefault _ rfl)
      |>.seq (.withDefault _ s.policy.read_json)
      |>.read (by simp)
  rw [hread]
  simp only [bind_map_left, bind_assoc, pure_bind]
  rfl

theorem SafeModeSettings.read_json_eq_ok_iff {s : SafeModeSettings} :
    SafeModeSettings.reader s.json.document = .ok s ↔
      Rereads s.containerThreshold ∧ Rereads s.healthyThreshold ∧ Rereads s.reportedThreshold ∧
        s.exitDelay.millis ≤ maxWord := by
  rw [read_json]
  obtain ⟨enabled, nodes, container, check, healthy, reported, delay⟩ := s
  simp [bind_eq_ok_iff, rereads_iff, ← Duration.read_json_eq_ok_iff, pure, Except.pure]

theorem ProviderSettings.read_json_eq_ok_iff {s : ProviderSettings} :
    ProviderSettings.reader s.json.document = .ok s ↔ Rereads s.factor := by
  rw [read_json, rereads_iff]
  obtain ⟨pipelines, factor, policy⟩ := s
  cases Json.float (Value.fraction factor).document <;> simp [Except.map]

theorem ContainerSettings.read_json (s : ContainerSettings) :
    ContainerSettings.reader s.json.document = .ok s :=
  (Record.Yields.withDefault _ (word64_whole s.maxSize)).map ContainerSettings.mk
    |>.read (by simp)

theorem AdminSettings.read_json (s : AdminSettings) :
    AdminSettings.reader s.json.document = .ok s :=
  (Record.Yields.withDefault _ (bool_bool s.enabled)).map AdminSettings.mk
    |>.seq (.withDefault _ s.address.read_json)
    |>.read (by simp)

theorem ObservabilitySettings.read_json (s : ObservabilitySettings) :
    ObservabilitySettings.reader s.json.document = .ok s :=
  (Record.Yields.withDefault _ (bool_bool s.metricsEnabled)).map ObservabilitySettings.mk
    |>.seq (.withDefault _ s.metricsAddress.read_json)
    |>.seq (.withDefault _ (text_text s.logLevel))
    |>.seq (.withDefault _ (bool_bool s.jsonLogs))
    |>.read (by simp)

/-! ## Files -/

namespace Settings

/-- Settings are read back but for the two sections that have fractions. -/
theorem read_json (s : Settings) :
    reader s.json.document = (do
      let safeMode ← SafeModeSettings.reader s.safeMode.json.document
      let provider ← ProviderSettings.reader s.provider.json.document
      return { s with safeMode := safeMode, provider := provider }) := by
  have hread : reader s.json.document = _ :=
    (Record.Yields.withDefault _ rfl).map Settings.mk
      |>.seq (.withDefault _ rfl)
      |>.seq (.withDefault _ s.container.read_json)
      |>.seq (.withDefault _ s.admin.read_json)
      |>.seq (.withDefault _ s.observability.read_json)
      |>.read (by simp)
  rw [hread]
  simp only [bind_map_left, bind_assoc, pure_bind]
  rfl

/-- The settings that are fractions. -/
def fractions (s : Settings) : List Float := s.provider.factor :: s.thresholds.map Prod.snd

/-- Settings are read back if their delay and their fractions are. -/
theorem read_json_eq_ok_iff {s : Settings} : reader s.json.document = .ok s ↔
    s.safeMode.exitDelay.millis ≤ maxWord ∧ ∀ x ∈ s.fractions, Rereads x := by
  have hsections : reader s.json.document = .ok s ↔
      SafeModeSettings.reader s.safeMode.json.document = .ok s.safeMode ∧
        ProviderSettings.reader s.provider.json.document = .ok s.provider := by
    rw [read_json]
    obtain ⟨safeMode, provider, container, admin, observability⟩ := s
    simp [bind_eq_ok_iff, pure, Except.pure]
  have hfractions : (∀ x ∈ s.fractions, Rereads x) ↔ Rereads s.provider.factor ∧
      Rereads s.safeMode.containerThreshold ∧ Rereads s.safeMode.healthyThreshold ∧
        Rereads s.safeMode.reportedThreshold := by simp [fractions, thresholds]
  rw [hsections, SafeModeSettings.read_json_eq_ok_iff, ProviderSettings.read_json_eq_ok_iff,
    hfractions]
  simp only [and_assoc, and_comm]

/-- Settings whose delay is too long are not read back at all. -/
theorem exists_read_json_eq_error {s : Settings} (h : maxWord < s.safeMode.exitDelay.millis) :
    ∃ fault, reader s.json.document = .error fault := by
  cases hread : reader s.json.document with
  | error fault => exact ⟨fault, rfl⟩
  | ok t =>
    rw [read_json] at hread
    obtain ⟨safeMode, hsafe, -⟩ := bind_eq_ok_iff.1 hread
    rw [SafeModeSettings.read_json, Duration.read_json, if_neg (Nat.not_le.2 h)] at hsafe
    simp [bind_eq_ok_iff] at hsafe

theorem decode_written {s : Settings} {text : String}
    (htext : text = s.json.compact ∨ text = s.json.pretty) :
    decode reader text = reader s.json.document := by
  rcases htext with rfl | rfl
  · exact decode_compact reader s.json
  · exact decode_pretty reader s.json

theorem ofText_eq_ok_iff {content : String} {s : Settings} :
    ofText content = .ok s ↔ decode reader content = .ok s ∧ s.validate = .ok () := by
  unfold ofText
  cases decode reader content with
  | error fault => simp
  | ok s' =>
    cases hvalid : s'.validate with
    | error e =>
      have hnot : s' = s → s.validate ≠ .ok () := by
        rintro rfl
        simp [hvalid]
      simpa [hvalid, Except.map] using hnot
    | ok =>
      have hok : s' = s → s.validate = .ok () := by
        rintro rfl
        exact hvalid
      simpa [hvalid, Except.map] using hok

/-- Settings whose delay is too long are refused as they are written. -/
theorem ofText_written_eq_error {s : Settings} {text : String}
    (htext : text = s.json.compact ∨ text = s.json.pretty)
    (hdelay : maxWord < s.safeMode.exitDelay.millis) :
    ∃ reason, ofText text = .error (.input (.unparsable reason)) := by
  obtain ⟨fault, hfault⟩ := exists_read_json_eq_error hdelay
  refine ⟨fault.message, ?_⟩
  rw [ofText, decode_written htext, hfault]

theorem ofFile_eq_ofText {files : Files} {path content : String}
    (h : files path = .ok content.toUTF8) : ofFile files path = ofText content := by
  have hutf8 : String.fromUTF8? content.toUTF8 = some content := by
    simp [String.fromUTF8?, String.fromUTF8, content.isValidUTF8]
  simp only [ofFile, h, hutf8]

theorem ofFile_text (content path : String) :
    ofFile (fun _ => .ok content.toUTF8) path = ofText content := ofFile_eq_ofText rfl

theorem ofText_of_ofFile {files : Files} {path : String} {s : Settings}
    (h : ofFile files path = .ok s) : ∃ content, ofText content = .ok s := by
  unfold ofFile at h
  split at h
  · cases h
  · split at h
    · cases h
    · next content _ => exact ⟨content, h⟩

/-- The settings of a file are written as a file of the same settings if and only if their
delay is of at most 64 bits of milliseconds and their fractions are read back.  With a longer
delay the file that is written is refused.  The delays that a file may give go beyond that, for
it may count them in seconds. -/
theorem ofFile_written (files copy : Files) (path path' : String) (s : Settings) (d : Duration) :
    (ofFile files path = .ok s → ∀ text, text = s.json.compact ∨ text = s.json.pretty →
      copy path' = .ok text.toUTF8 →
        (ofFile copy path' = .ok s ↔
          s.safeMode.exitDelay.millis ≤ maxWord ∧ ∀ x ∈ s.fractions, Rereads x) ∧
        (maxWord < s.safeMode.exitDelay.millis →
          ∃ reason, ofFile copy path' = .error (.input (.unparsable reason)))) ∧
    ((∃ text, Duration.parse text = .ok d) ↔
      d.millis ≤ maxWord ∨ ∃ n ≤ maxWord, d.millis = n * 1000) ∧
    Duration.parse d.text =
      if d.millis ≤ maxWord then .ok d else .error (.number .tooLarge) := by
  refine ⟨fun h text htext hcopy => ?_, Duration.exists_parse_iff, Duration.parse_text d⟩
  obtain ⟨content, hcontent⟩ := ofText_of_ofFile h
  rw [ofFile_eq_ofText hcopy]
  refine ⟨?_, ofText_written_eq_error htext⟩
  rw [ofText_eq_ok_iff, decode_written htext, read_json_eq_ok_iff]
  exact and_iff_left (ofText_eq_ok_iff.1 hcontent).2

/-- Settings with some values of their own. -/
def tuned : Settings where
  safeMode := { containerThreshold := 0.75, healthyThreshold := 0.5, exitDelay := ⟨90000⟩ }
  admin := { address := .v4 ⟨127, 0, 0, 1⟩ 80 }

/-- A file with these values.  It counts the delay in seconds. -/
def tunedText : String :=
  "\x7b\"safe_mode\":\x7b\"container_threshold_pct\":0.75," ++
    "\"healthy_pipeline_threshold_pct\":0.5,\"exit_notify_delay\":\"90s\"\x7d," ++
    "\"admin\":\x7b\"bind_addr\":\"127.0.0.1:80\"\x7d\x7d"

theorem ofText_tuned : ofText tunedText = .ok tuned := by decide +kernel

theorem ofFile_written_tuned :
    ofFile (fun _ => .ok tunedText.toUTF8) "tuned.json" = .ok tuned ∧
      ofFile (fun _ => .ok tuned.json.pretty.toUTF8) "copy.json" = .ok tuned ∧
      Duration.parse tuned.safeMode.exitDelay.text = .ok ⟨90000⟩ := by
  obtain ⟨hfile, -, hdelay⟩ := ofFile_written (fun _ => .ok tunedText.toUTF8)
    (fun _ => .ok tuned.json.pretty.toUTF8) "tuned.json" "copy.json" tuned ⟨90000⟩
  have htuned := (ofFile_text tunedText "tuned.json").trans ofText_tuned
  exact ⟨htuned, (hfile htuned _ (.inr rfl) rfl).1.2 ⟨by decide, by decide +kernel⟩,
    hdelay.trans (if_pos (by decide))⟩

/-- Settings with the shortest delay of whole seconds that does not fit as milliseconds. -/
def longDelay : Settings := { safeMode := { exitDelay := ⟨18446744073709552000⟩ } }

theorem ofText_longDelay : ofText
    "\x7b\"safe_mode\": \x7b\"exit_notify_delay\": \"18446744073709552s\"\x7d\x7d" =
      .ok longDelay := by rfl

/-- A delay in seconds is taken from a file and then refused as it is written. -/
theorem ofFile_written_refused :
    (∃ content : String,
      ofFile (fun _ => .ok content.toUTF8) "settings.json" = .ok longDelay) ∧
    (∃ reason, ofFile (fun _ => .ok longDelay.json.pretty.toUTF8) "settings.json" =
      .error (.input (.unparsable reason))) ∧
    Duration.parse "18446744073709552s" = .ok longDelay.safeMode.exitDelay ∧
    Duration.parse longDelay.safeMode.exitDelay.text = .error (.number .tooLarge) := by
  refine ⟨⟨_, (ofFile_text _ _).trans ofText_longDelay⟩, ?_, rfl, ?_⟩
  · rw [ofFile_text]
    exact ofText_written_eq_error (.inr rfl) (by decide)
  · exact (Duration.parse_text _).trans (if_neg (by decide))

end Settings

end ControlPlane
