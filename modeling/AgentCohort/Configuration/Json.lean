import AgentCohort.Configuration
import AgentCohort.Json.Decoder

/-!
# Configuration from JSON

Every setting has a default, so any part may be left out.  A section may also be a list
of its settings in order.
-/

namespace AgentCohort

open Json (Decoder Field)

/-- Reads the choice for a cohort launched in part. -/
def PartialLaunch.decoder : Decoder PartialLaunch :=
  .enumeration PartialLaunch.byName

namespace SupervisorSettings

/-- The settings of a supervisor. -/
def fields : List Field :=
  [.defaulted "cooldown_secs" .word64,
   .defaulted "join_timeout_secs" Decoder.word64.optional,
   .defaulted "max_restarts" Decoder.word32.optional,
   .defaulted "partial_launch" PartialLaunch.decoder]

/-- Reads the settings of a supervisor. -/
def decoder : Decoder SupervisorSettings := fun source document => do
  let found ← Json.collect "SupervisorConfig" fields source document
  let cooldownSeconds ← found.withDefault "cooldown_secs" standard.cooldownSeconds .word64
  let joinTimeoutSeconds? ← found.optional "join_timeout_secs" .word64
  let maxRestarts? ← found.optional "max_restarts" .word32
  let partialLaunch ←
    found.withDefault "partial_launch" standard.partialLaunch PartialLaunch.decoder
  return ⟨cooldownSeconds, joinTimeoutSeconds?, maxRestarts?, partialLaunch⟩

end SupervisorSettings

namespace AgentSettings

/-- The settings of the agents. -/
def fields : List Field :=
  [.defaulted "registration_retry_ms" .word64,
   .defaulted "stop_grace_ms" .word64]

/-- Reads the settings of the agents. -/
def decoder : Decoder AgentSettings := fun source document => do
  let found ← Json.collect "AgentRuntimeConfig" fields source document
  let registrationRetryMs ←
    found.withDefault "registration_retry_ms" standard.registrationRetryMs .word64
  let stopGraceMs ← found.withDefault "stop_grace_ms" standard.stopGraceMs .word64
  return ⟨registrationRetryMs, stopGraceMs⟩

end AgentSettings

namespace LoggingSettings

/-- The settings of the log. -/
def fields : List Field :=
  [.defaulted "level" .text,
   .defaulted "json" .boolean,
   .defaulted "dir" Decoder.text.optional]

/-- Reads the settings of the log. -/
def decoder : Decoder LoggingSettings := fun source document => do
  let found ← Json.collect "LoggingConfig" fields source document
  let level ← found.withDefault "level" standard.level .text
  let json ← found.withDefault "json" standard.json .boolean
  let directory? ← found.optional "dir" .text
  return ⟨level, json, directory?⟩

end LoggingSettings

namespace Configuration

/-- The sections. -/
def fields : List Field :=
  [.defaulted "supervisor" SupervisorSettings.decoder,
   .defaulted "agent" AgentSettings.decoder,
   .defaulted "logging" LoggingSettings.decoder]

/-- Reads all settings. -/
def decoder : Decoder Configuration := fun source document => do
  let found ← Json.collect "AppConfig" fields source document
  let supervisor ← found.withDefault "supervisor" .standard SupervisorSettings.decoder
  let agent ← found.withDefault "agent" .standard AgentSettings.decoder
  let logging ← found.withDefault "logging" .standard LoggingSettings.decoder
  return ⟨supervisor, agent, logging⟩

end Configuration
end AgentCohort
