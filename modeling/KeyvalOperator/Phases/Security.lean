import Mathlib.Data.Finset.Sort
import Mathlib.Data.String.Basic
import KeyvalOperator.Ops.Replication

/-!
# Security phase

`security.FromSpec` resolves the credentials and certificates of a cluster from secrets,
`security.TLSDigest` hashes the secret with the certificates, and the Security phase calls both: the
second reads the secret again, and when that fails the hash is empty.
-/

namespace Keyval.Security

open Go Interact

/-! ## Digest -/

def hexDigit (n : Nat) : Char := if n < 10 then Char.ofNat (48 + n) else Char.ofNat (87 + n)

/-- `hex.EncodeToString` of a SHA-256 sum. -/
def hexEncode (sum : BitVec 256) : String :=
  String.ofList ((List.range 64).map fun i => hexDigit (sum.toNat >>> (4 * (63 - i)) % 16))

/-- The hash of a secret's data: its keys in order, each followed by its data. -/
def dataDigest (F : Formats) (data : Map String) : String :=
  hexEncode (F.sha256 (String.join ((data.keys.sort (· ≤ ·)).map fun k => k ++ Map.str data k)))

def tlsDigest (F : Formats) (cr : KeyValCluster) : M (String × Bool) :=
  match cr.spec.security.bind (·.tls) with
  | none => return ("", false)
  | some tls =>
    if ¬ tls.enabled ∨ tls.secretName = "" then return ("", false)
    else do
      match ← ask (.getSecret cr.ns tls.secretName) with
      | .error _ => return ("", false)
      | .ok secret => return (dataDigest F secret.data, true)

/-! ## Settings -/

/-- The settings with the credentials of the spec. -/
def resolveAuthSpec (cr : KeyValCluster) (auth : AuthSpec) (out : Settings) :
    M (Result Settings) :=
  match auth.passwordSecretRef with
  | none => return .error (.new "auth enabled but passwordSecretRef not set")
  | some ref =>
    if ref.name = "" then return .error (.new "auth passwordSecretRef missing name")
    else do
      match ← ask (.getSecret cr.ns ref.name) with
      | .error e => return .error (.wrap ("get auth secret " ++ quote ref.name) e)
      | .ok secret =>
        if ref.key = "" then return .error (.new "auth passwordSecretRef missing key")
        else
          match secret.data.lookup ref.key with
          | none =>
            return .error (.new ("auth secret " ++ quote ref.name ++ " missing key " ++
              quote ref.key))
          | some val =>
            return .ok { out with
              authEnabled := true
              username := auth.username
              password := val
              authSecretName := ref.name
              authSecretKey := ref.key
              authResourceVersion := secret.resourceVersion }

/-- A key of the spec, or its default. -/
def keyOr (key default : String) : String := if key = "" then default else key

/-- The data of a key, which must not be empty. -/
def requireKey (name : String) (secret : Secret) (key : String) : Result String :=
  if Map.str secret.data key = "" then
    .error (.new ("tls secret " ++ quote name ++ " missing key " ++ quote key))
  else .ok (Map.str secret.data key)

/-- The settings with the certificates of a secret. -/
def certificateSettings (F : Formats) (tls : TLSSpec) (secret : Secret) (out : Settings) :
    Result Settings := do
  let caCertKey := keyOr tls.caCertKey "ca.crt"
  let certKey := keyOr tls.certKey "tls.crt"
  let keyKey := keyOr tls.keyKey "tls.key"
  let caData ← requireKey tls.secretName secret caCertKey
  let certData ← requireKey tls.secretName secret certKey
  let keyData ← requireKey tls.secretName secret keyKey
  let settings := { out with
    tlsEnabled := true
    tlsSecretName := tls.secretName
    caCertKey, certKey, keyKey
    requireClientAuth := tls.requireClientAuth.getD false
    disablePlaintext := tls.disablePlaintext.getD false
    tlsResourceVersion := secret.resourceVersion
    caBundle := caData }
  if settings.requireClientAuth then
    match F.x509KeyPair certData keyData with
    | some e => .error (.wrap "parse tls client certificate" e)
    | none => .ok { settings with clientCertificate := some (certData, keyData) }
  else .ok settings

def resolveTLSSpec (F : Formats) (cr : KeyValCluster) (tls : TLSSpec) (out : Settings) :
    M (Result Settings) :=
  if tls.secretName = "" then return .error (.new "tls enabled but secretName not set")
  else do
    match ← ask (.getSecret cr.ns tls.secretName) with
    | .error e => return .error (.wrap ("get tls secret " ++ quote tls.secretName) e)
    | .ok secret => return certificateSettings F tls secret out

/-- The credentials, when authentication is enabled. -/
def fromAuth (cr : KeyValCluster) : M (Result Settings) :=
  match cr.spec.security.bind (·.auth) with
  | some auth => if auth.enabled then resolveAuthSpec cr auth {} else return .ok {}
  | none => return .ok {}

def fromSpec (F : Formats) (cr : KeyValCluster) : M (Result Settings) := do
  match ← fromAuth cr with
  | .error e => return .error e
  | .ok out =>
    match cr.spec.security.bind (·.tls) with
    | some tls => if tls.enabled then resolveTLSSpec F cr tls out else return .ok out
    | none => return .ok out

end Keyval.Security

namespace Keyval.Phases

open Go Interact Security

/-- The Security phase: the settings and the hash of the certificates. -/
def security (F : Formats) (cr : KeyValCluster) : M (Result (Settings × String)) := do
  match ← fromSpec F cr with
  | .error e => return .error (.wrapFatal (.wrap "resolve security settings" e))
  | .ok settings =>
    match Replication.clientTLSConfig F settings with
    | some e => return .error (.wrapFatal (.wrap "build redis tls client config" e))
    | none =>
      if settings.tlsEnabled then do
        match ← tlsDigest F cr with
        | (digest, true) => return .ok (settings, digest)
        | (_, false) => return .ok (settings, "")
      else return .ok (settings, "")

end Keyval.Phases
