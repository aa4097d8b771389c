import KeyvalOperator.Phases.Security

/-!
# The secrets of a cluster

The Security phase asks for nothing but secrets that the spec names: the one with the password
(`fromAuth_asks`) and the one with the certificates (`fromSpec_asks`, `security_asks`).
-/

namespace Keyval.Security

open Go Interact Interact.Prog

variable (F : Formats) (cr : KeyValCluster)

/-- The certificates are in the secret. -/
def TLSFrom (name : String) : Prop :=
  ∃ tls, cr.spec.security.bind (·.tls) = some tls ∧ tls.enabled = true ∧ tls.secretName = name

/-- The password is in the secret. -/
def PasswordFrom (name : String) : Prop :=
  ∃ auth ref, cr.spec.security.bind (·.auth) = some auth ∧ auth.enabled = true ∧
    auth.passwordSecretRef = some ref ∧ ref.name = name

/-- The request reads a secret of the spec. -/
def NamedRead : Req → Prop
  | .getSecret ns name => ns = cr.ns ∧ (TLSFrom cr name ∨ PasswordFrom cr name)
  | _ => False

theorem fromAuth_asks : Asks (NamedRead cr) (fromAuth cr) := by
  unfold fromAuth
  split
  · next auth hauth =>
    split
    · next henabled =>
      unfold resolveAuthSpec
      split
      · exact .ret _
      · next ref href =>
        split
        · exact .ret _
        · refine .call ⟨rfl, .inr ⟨auth, ref, hauth, henabled, href, rfl⟩⟩ fun r _ => ?_
          cases r with
          | error e => exact .ret _
          | ok secret =>
            rw [ret_bind]
            dsimp only
            split
            · exact .ret _
            · generalize secret.data.lookup _ = value
              cases value <;> exact .ret _
    · exact .ret _
  · exact .ret _

theorem fromSpec_asks : Asks (NamedRead cr) (fromSpec F cr) := by
  refine (fromAuth_asks cr).bind fun r => ?_
  cases r with
  | error e => exact .ret _
  | ok out =>
    dsimp only
    split
    · next tls htls =>
      split
      · next henabled =>
        unfold resolveTLSSpec
        split
        · exact .ret _
        · refine .call ⟨rfl, .inl ⟨tls, htls, henabled, rfl⟩⟩ fun r _ => ?_
          cases r <;> exact .ret _
      · exact .ret _
    · exact .ret _

theorem tlsDigest_asks : Asks (NamedRead cr) (tlsDigest F cr) := by
  unfold tlsDigest
  split
  · exact .ret _
  · next tls htls =>
    split
    · exact .ret _
    · next hused =>
      rw [not_or, not_not] at hused
      refine .call ⟨rfl, .inl ⟨tls, htls, hused.1, rfl⟩⟩ fun r _ => ?_
      cases r <;> exact .ret _

theorem security_asks : Asks (NamedRead cr) (Phases.security F cr) := by
  refine (fromSpec_asks F cr).bind fun r => ?_
  cases r with
  | error e => exact .ret _
  | ok settings =>
    dsimp only
    split
    · exact .ret _
    · split
      · refine (tlsDigest_asks F cr).bind fun d => ?_
        obtain ⟨digest, _ | _⟩ := d <;> exact .ret _
      · exact .ret _

end Keyval.Security
