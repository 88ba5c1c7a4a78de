import ControlPlane.Json.Wire
import ControlPlane.Settings.Basic

/-!
# Settings files

Settings as a JSON text.  A file may leave out any section and any field, which
then have their defaults; a text that is written names all of them in the order
of the sections.
-/

namespace ControlPlane

open Json Net

/-- An address in JSON. -/
def Net.Address.json (a : Address) : Value := a.text

/-- Reads an address. -/
def Net.Address.reader : Reader Address := parsed "a socket address" Address.parse?

/-- A duration in JSON. -/
def Duration.json (d : Duration) : Value := d.text

/-- Reads a duration. -/
def Duration.reader : Reader Duration :=
  parsed "a duration" fun s => (Duration.parse s).toOption

/-- The name of a policy. -/
def Policy.name : Policy → String
  | .random => "random"
  | .capacity => "capacity"
  | .healthy => "healthy"

/-- Reads a policy. -/
def Policy.reader : Reader Policy :=
  enumeration ([Policy.random, .capacity, .healthy].map fun p => (p.name, p))

namespace SafeModeSettings

/-- The section in JSON. -/
def json (s : SafeModeSettings) : Value :=
  .object [
    ("enabled", s.enabled),
    ("min_datanodes", s.minNodes.toNat),
    ("container_threshold_pct", .fraction s.containerThreshold),
    ("pipeline_availability_check", s.pipelineCheck),
    ("healthy_pipeline_threshold_pct", .fraction s.healthyThreshold),
    ("one_replica_pipeline_threshold_pct", .fraction s.reportedThreshold),
    ("exit_notify_delay", s.exitDelay.json)]

/-- Reads the section. -/
def reader : Reader SafeModeSettings :=
  let d : SafeModeSettings := {}
  Record.read (SafeModeSettings.mk <$> Record.withDefault "enabled" Json.bool d.enabled <*>
    Record.withDefault "min_datanodes" word64 d.minNodes <*>
    Record.withDefault "container_threshold_pct" Json.float d.containerThreshold <*>
    Record.withDefault "pipeline_availability_check" Json.bool d.pipelineCheck <*>
    Record.withDefault "healthy_pipeline_threshold_pct" Json.float d.healthyThreshold <*>
    Record.withDefault "one_replica_pipeline_threshold_pct" Json.float d.reportedThreshold <*>
    Record.withDefault "exit_notify_delay" Duration.reader d.exitDelay)

end SafeModeSettings

namespace ProviderSettings

/-- The section in JSON. -/
def json (s : ProviderSettings) : Value :=
  .object [
    ("minimum_pipelines", s.minPipelines.toNat),
    ("pipeline_per_volume_factor", .fraction s.factor),
    ("choose_policy", s.policy.name)]

/-- Reads the section. -/
def reader : Reader ProviderSettings :=
  let d : ProviderSettings := {}
  Record.read (ProviderSettings.mk <$>
    Record.withDefault "minimum_pipelines" word64 d.minPipelines <*>
    Record.withDefault "pipeline_per_volume_factor" Json.float d.factor <*>
    Record.withDefault "choose_policy" Policy.reader d.policy)

end ProviderSettings

namespace ContainerSettings

/-- The section in JSON. -/
def json (s : ContainerSettings) : Value := .object [("max_size_bytes", s.maxSize.toNat)]

/-- Reads the section. -/
def reader : Reader ContainerSettings :=
  let d : ContainerSettings := {}
  Record.read (ContainerSettings.mk <$> Record.withDefault "max_size_bytes" word64 d.maxSize)

end ContainerSettings

namespace AdminSettings

/-- The section in JSON. -/
def json (s : AdminSettings) : Value :=
  .object [("enabled", s.enabled), ("bind_addr", s.address.json)]

/-- Reads the section. -/
def reader : Reader AdminSettings :=
  let d : AdminSettings := {}
  Record.read (AdminSettings.mk <$> Record.withDefault "enabled" Json.bool d.enabled <*>
    Record.withDefault "bind_addr" Address.reader d.address)

end AdminSettings

namespace ObservabilitySettings

/-- The section in JSON. -/
def json (s : ObservabilitySettings) : Value :=
  .object [
    ("metrics_enabled", s.metricsEnabled),
    ("metrics_addr", s.metricsAddress.json),
    ("log_level", s.logLevel),
    ("json_logs", s.jsonLogs)]

/-- Reads the section. -/
def reader : Reader ObservabilitySettings :=
  let d : ObservabilitySettings := {}
  Record.read (ObservabilitySettings.mk <$>
    Record.withDefault "metrics_enabled" Json.bool d.metricsEnabled <*>
    Record.withDefault "metrics_addr" Address.reader d.metricsAddress <*>
    Record.withDefault "log_level" Json.text d.logLevel <*>
    Record.withDefault "json_logs" Json.bool d.jsonLogs)

end ObservabilitySettings

namespace Settings

/-- The settings in JSON. -/
def json (s : Settings) : Value :=
  .object [
    ("safe_mode", s.safeMode.json),
    ("provider", s.provider.json),
    ("container", s.container.json),
    ("admin", s.admin.json),
    ("observability", s.observability.json)]

/-- Reads settings, without a look at whether they can be used. -/
def reader : Reader Settings :=
  Record.read (Settings.mk <$> Record.withDefault "safe_mode" SafeModeSettings.reader {} <*>
    Record.withDefault "provider" ProviderSettings.reader {} <*>
    Record.withDefault "container" ContainerSettings.reader {} <*>
    Record.withDefault "admin" AdminSettings.reader {} <*>
    Record.withDefault "observability" ObservabilitySettings.reader {})

/-- The settings that a text holds, if they can be used. -/
def ofText (content : String) : Except Error Settings :=
  match decode reader content with
  | .error fault => .error (.input (.unparsable fault.message))
  | .ok s => s.validate.map fun _ => s

end Settings

instance : Wire Policy := ⟨fun p => .text p.name, Policy.reader⟩
instance : Wire SafeModeSettings := ⟨SafeModeSettings.json, SafeModeSettings.reader⟩
instance : Wire ProviderSettings := ⟨ProviderSettings.json, ProviderSettings.reader⟩
instance : Wire ContainerSettings := ⟨ContainerSettings.json, ContainerSettings.reader⟩
instance : Wire AdminSettings := ⟨AdminSettings.json, AdminSettings.reader⟩
instance : Wire ObservabilitySettings :=
  ⟨ObservabilitySettings.json, ObservabilitySettings.reader⟩
instance : Wire Settings := ⟨Settings.json, Settings.reader⟩

/-- The content of files by their paths, or the system's reason why a file
cannot be read. -/
abbrev Files := String → Except String ByteArray

/-- The system's reason for a file that does not exist. -/
def Files.missing : String := "No such file or directory (os error 2)"

/-- The settings in a file, if it is a text and they can be used. -/
def Settings.ofFile (files : Files) (path : String) : Except Error Settings :=
  match files path with
  | .error reason => .error (.input (.unreadable reason))
  | .ok bytes =>
    match String.fromUTF8? bytes with
    | none => .error (.input (.unreadable "stream did not contain valid UTF-8"))
    | some content => ofText content

end ControlPlane
