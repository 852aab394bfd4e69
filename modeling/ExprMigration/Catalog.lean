import ExprMigration.Registry

/-!
# The built-in catalog

The keys with a fixed current expression, by the thing they speak of, and the families of keys.
-/

namespace ExprMigration
namespace Catalog

/-- Keys of infrastructures. -/
def infrastructureEntries : List (String × String) := [
  ("infra.kubernetes.namespace", "<+infra.namespace>"),
  ("infra.kubernetes.infraId", "<+INFRA_KEY>"),
  ("infra.helm.releaseName", "<+infra.releaseName>"),
  ("infra.name", "<+infra.name>")]

/-- Keys of environments. -/
def environmentEntries : List (String × String) := [
  ("env.name", "<+env.name>"),
  ("env.description", "<+env.description>"),
  ("env.environmentType", "<+env.type>"),
  ("env.uuid", "<+env.identifier>")]

/-- Keys of services. -/
def serviceEntries : List (String × String) := [
  ("service.name", "<+service.name>"),
  ("service.Name", "<+service.name>"),
  ("Service.name", "<+service.name>"),
  ("service.tag", "<+service.tags>"),
  ("service.uuid", "<+service.identifier>"),
  ("service.description", "<+service.description>")]

/-- Keys of artifacts. -/
def artifactEntries : List (String × String) := [
  ("artifact.metadata.image", "<+artifact.image>"),
  ("artifact.metadata.tag", "<+artifact.tag>"),
  ("artifact.source.dockerconfig", "<+artifact.imagePullSecret>"),
  ("artifact.metadata.fileName", "<+artifact.fileName>"),
  ("artifact.metadata.format", "<+artifact.repositoryFormat>"),
  ("artifact.metadata.getSHA()", "<+artifact.metadata.SHA>"),
  ("artifact.metadata.groupId", "<+artifact.groupId>"),
  ("artifact.metadata.package", "<+artifact.metadata.package>"),
  ("artifact.metadata.region", "<+artifact.metadata.region>"),
  ("artifact.metadata.repository", "<+artifact.repository>"),
  ("artifact.metadata.repositoryName", "<+artifact.repositoryName>"),
  ("artifact.metadata.url", "<+artifact.url>"),
  ("artifact.buildNo", "<+artifact.tag>")]

/-- Keys of artifacts rolled back to. -/
def rollbackEntries : List (String × String) := [
  ("rollbackArtifact.metadata.image", "<+rollbackArtifact.image>"),
  ("rollbackArtifact.metadata.tag", "<+rollbackArtifact.tag>"),
  ("rollbackArtifact.source.dockerconfig", "<+rollbackArtifact.imagePullSecret>"),
  ("rollbackArtifact.metadata.fileName", "<+rollbackArtifact.fileName>"),
  ("rollbackArtifact.metadata.format", "<+rollbackArtifact.repositoryFormat>"),
  ("rollbackArtifact.metadata.getSHA()", "<+rollbackArtifact.metadata.SHA>"),
  ("rollbackArtifact.metadata.groupId", "<+rollbackArtifact.groupId>"),
  ("rollbackArtifact.metadata.package", "<+rollbackArtifact.metadata.package>"),
  ("rollbackArtifact.metadata.region", "<+rollbackArtifact.metadata.region>"),
  ("rollbackArtifact.metadata.repository", "<+rollbackArtifact.repository>"),
  ("rollbackArtifact.metadata.repositoryName", "<+rollbackArtifact.repositoryName>"),
  ("rollbackArtifact.metadata.url", "<+rollbackArtifact.url>"),
  ("rollbackArtifact.buildNo", "<+rollbackArtifact.tag>")]

/-- Keys of applications. -/
def applicationEntries : List (String × String) := [
  ("app.name", "<+project.name>"),
  ("app.description", "<+project.description>")]

/-- Keys of HTTP steps. -/
def httpEntries : List (String × String) := [
  ("httpResponseCode", "<+httpResponseCode>"),
  ("httpResponseBody", "<+httpResponseBody>"),
  ("httpMethod", "<+httpMethod>"),
  ("httpUrl", "<+httpUrl>")]

/-- Every key with a fixed current expression, and that expression. -/
def entries : List (Text × Text) :=
  (infrastructureEntries ++ environmentEntries ++ serviceEntries ++ artifactEntries ++
    rollbackEntries ++ applicationEntries ++ httpEntries).map
    fun (key, value) => (key.toList, value.toList)

/-- The stems of the field families, each with the target below which it keeps the rest of a key. -/
def fieldStems : List (String × String) := [
  ("workflow.variables", "stage.variables"),
  ("pipeline.variables", "pipeline.variables"),
  ("serviceVariable", "serviceVariables"),
  ("serviceVariables", "serviceVariables"),
  ("service.variables", "serviceVariables"),
  ("environmentVariable", "env.variables"),
  ("environmentVariables", "env.variables"),
  ("app.defaults", "variable")]

/-- The stem of the secret family. -/
def secretStem : Text := "secrets.getValue(".toList

/-- The families of keys, with secrets looked up in the given scope. -/
def families (scope : SecretScope) : List Family :=
  fieldStems.map (fun (stem, target) => ⟨stem.toList, .field target.toList⟩) ++
    [⟨secretStem, .secret scope⟩]

/-- The registry of all families. -/
def registry (scope : SecretScope) : Registry := .ofFamilies (families scope)

end Catalog
end ExprMigration
