import AgentOperator.Blueprint
import AgentOperator.Text.Encoding

/-! The secret that holds an agent's credential, and the namespace of a scanner. -/
namespace AgentOperator.Manifest

structure Namespace where
  metadata : Metadata
  deriving DecidableEq

structure Credential where
  token : String
  expiresAt : Timestamp
  deriving DecidableEq, Repr

structure Secret where
  metadata : Metadata
  /-- Values before they are encoded. -/
  data : Option (Fields String) := none
  type : String
  deriving DecidableEq

def namespaceOf (b : Blueprint) : Namespace := ⟨b.clusterMeta b.ns⟩

/-- The secret as it is addressed: labelled for the expiry loop, without contents. -/
def credentialIdentity (b : Blueprint) : Secret :=
  { metadata :=
      { b.namespacedMeta (Blueprint.credentialName b.instanceName) with
        labels := some (b.labels.insert Conventions.credentialLabel "true") }
    type := "Opaque" }

def credentialSecret (b : Blueprint) (credential : Credential) : Secret :=
  let identity := credentialIdentity b
  { identity with
    metadata := { identity.metadata with
      annotations := some [(Conventions.expirationAnnotation, credential.expiresAt.render)] }
    data := some [(Conventions.tokenKey, credential.token)] }

def Namespace.resource (ns : Namespace) : Resource :=
  ⟨.namespace, .ofKind .namespace ns.metadata []⟩

def Secret.resource (secret : Secret) : Resource :=
  ⟨.secret, .ofKind .secret secret.metadata <|
    (match secret.data with
    | some data =>
      [("data", Json.obj (data.mapValues fun value => .str (Text.Base64.encodeText value)))]
    | none => []) ++ [("type", .str secret.type)]⟩

end AgentOperator.Manifest
