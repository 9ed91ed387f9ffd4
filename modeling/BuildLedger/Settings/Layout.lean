import BuildLedger.Settings.Basic

/-!
# How settings are written

Each section is a record whose fields may all be absent; only an agent has fields that must be
there. An override list that is empty is written and read back as an empty list, which is not the
same as no list.
-/
namespace BuildLedger

open Codec in
def Publisher.codec : Codec Publisher :=
  Codec.record "PublisherConfig" [
    .optional "context_url" text (·.contextUrl),
    .optional "username" text (·.username),
    .optional "password" text (·.password),
    .optional "repo_key" text (·.repoKey),
    .defaulted "include_patterns" (list text) (·.includePatterns),
    .defaulted "exclude_patterns" (list text) (·.excludePatterns),
    .defaulted "publish_artifacts" flag (·.publishArtifacts),
    .defaulted "publish_build_info" flag (·.publishBuildInfo),
    .writtenUnless "properties" named Keyed.isEmpty (·.properties)
  ] fun entries => do
    return {
      contextUrl := ← maybe entries "context_url" text
      username := ← maybe entries "username" text
      password := ← maybe entries "password" text
      repoKey := ← maybe entries "repo_key" text
      includePatterns := ← fallback entries "include_patterns" (list text) []
      excludePatterns := ← fallback entries "exclude_patterns" (list text) []
      publishArtifacts := ← fallback entries "publish_artifacts" flag true
      publishBuildInfo := ← fallback entries "publish_build_info" flag true
      properties := ← fallback entries "properties" named ∅
    }

open Codec in
def Proxy.codec : Codec Proxy :=
  Codec.record "ProxyConfig" [
    .optional "host" text (·.host),
    .optional "port" word16 (·.port),
    .optional "username" text (·.username),
    .optional "password" text (·.password)
  ] fun entries => do
    return {
      host := ← maybe entries "host" text
      port := ← maybe entries "port" word16
      username := ← maybe entries "username" text
      password := ← maybe entries "password" text
    }

open Codec in
def Retention.codec : Codec Retention :=
  Codec.record "RetentionConfig" [
    .optional "max_builds" word32 (·.maxBuilds),
    .optional "max_days" word32 (·.maxDays),
    .defaulted "delete_build_artifacts" flag (·.deleteBuildArtifacts),
    .writtenUnless "exclude_builds" (list text) List.isEmpty (·.excludeBuilds),
    .defaulted "async" flag (·.inBackground)
  ] fun entries => do
    return {
      maxBuilds := ← maybe entries "max_builds" word32
      maxDays := ← maybe entries "max_days" word32
      deleteBuildArtifacts := ← fallback entries "delete_build_artifacts" flag false
      excludeBuilds := ← fallback entries "exclude_builds" (list text) []
      inBackground := ← fallback entries "async" flag false
    }

open Codec in
def BuildSettings.codec : Codec BuildSettings :=
  Codec.record "BuildInfoConfig" [
    .optional "name" text (·.name),
    .optional "number" text (·.number),
    .optional "agent" Agent.codec (·.agent),
    .optional "url" text (·.url),
    .optional "principal" text (·.principal),
    .optional "vcs_revision" text (·.vcsRevision),
    .optional "vcs_url" text (·.vcsUrl),
    .defaulted "incremental" flag (·.incremental),
    .optional "export_file" path (·.exportFile),
    .optional "build_info_output" path (·.buildInfoOutput),
    .optional "deploy_manifest_output" path (·.deployManifestOutput),
    .optional "retention" Retention.codec (·.retention)
  ] fun entries => do
    return {
      name := ← maybe entries "name" text
      number := ← maybe entries "number" text
      agent := ← maybe entries "agent" Agent.codec
      url := ← maybe entries "url" text
      principal := ← maybe entries "principal" text
      vcsRevision := ← maybe entries "vcs_revision" text
      vcsUrl := ← maybe entries "vcs_url" text
      incremental := ← fallback entries "incremental" flag false
      exportFile := ← maybe entries "export_file" path
      buildInfoOutput := ← maybe entries "build_info_output" path
      deployManifestOutput := ← maybe entries "deploy_manifest_output" path
      retention := ← maybe entries "retention" Retention.codec
    }

open Codec in
def UnitSettings.codec : Codec UnitSettings :=
  Codec.record "ModuleOverride" [
    .optional "include_patterns" (list text) (·.includePatterns),
    .optional "exclude_patterns" (list text) (·.excludePatterns),
    .optional "publish_artifacts" flag (·.publishArtifacts),
    .writtenUnless "properties" named Keyed.isEmpty (·.properties)
  ] fun entries => do
    return {
      includePatterns := ← maybe entries "include_patterns" (list text)
      excludePatterns := ← maybe entries "exclude_patterns" (list text)
      publishArtifacts := ← maybe entries "publish_artifacts" flag
      properties := ← fallback entries "properties" named ∅
    }

namespace FailurePolicy

def name : FailurePolicy → String
  | .abort => "abort"
  | .carryOn => "continue"

def ofName? (name : String) : Option FailurePolicy :=
  if name = "abort" then some .abort
  else if name = "continue" then some .carryOn
  else none

def codec : Codec FailurePolicy where
  shape := .choice ["abort", "continue"]
  encode policy := .text policy.name
  decode
    | .text name => ofName? name
    | _ => none

end FailurePolicy

open Codec in
def Settings.codec : Codec Settings :=
  Codec.record "PublishConfig" [
    .defaulted "publisher" Publisher.codec (·.publisher),
    .defaulted "proxy" Proxy.codec (·.proxy),
    .optional "timeout_secs" word64 (·.timeoutSeconds),
    .optional "connection_retries" word32 (·.connectionRetries),
    .defaulted "build" BuildSettings.codec (·.build),
    .writtenUnless "modules" (keyed UnitSettings.codec) Keyed.isEmpty (·.modules),
    .defaulted "deploy_failure_policy" FailurePolicy.codec (·.failurePolicy),
    .optional "props_file" path (·.propsFile)
  ] fun entries => do
    return {
      publisher := ← fallback entries "publisher" Publisher.codec {}
      proxy := ← fallback entries "proxy" Proxy.codec {}
      timeoutSeconds := ← maybe entries "timeout_secs" word64
      connectionRetries := ← maybe entries "connection_retries" word32
      build := ← fallback entries "build" BuildSettings.codec {}
      modules := ← fallback entries "modules" (keyed UnitSettings.codec) ∅
      failurePolicy := ← fallback entries "deploy_failure_policy" FailurePolicy.codec .abort
      propsFile := ← maybe entries "props_file" path
    }

end BuildLedger
