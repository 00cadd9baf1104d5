/-
  Gatehouse/Proofs/Config/Links.lean --- bases of links that no link can be made on.

  The check of a configuration looks at the beginning of the two bases only.  Said here is
  which of the bases that it accepts carry links, and what becomes of signups and recoveries
  on the others: all of them fail, whoever asks and however the stores are.

  Main statements: `AppConfig.links_made_iff`, `AppConfig.not_always_linked`.
-/
import Gatehouse.Proofs.Account.Serving
import Gatehouse.Proofs.Config.Validation
import Gatehouse.Proofs.Url.Bases

set_option autoImplicit false

namespace Gatehouse

/-- A mail can be made when its link can. -/
theorem AccountService.exists_mailFor_iff (s : AccountService) (kind : CredentialKind)
    (address token : String) :
    (∃ mail, s.mailFor kind address token = .ok mail)
      ↔ ∃ link, linkWithToken (s.config.base kind) token = .ok link := by
  rw [mailFor, CredentialKind.mail]
  cases linkWithToken (s.config.base kind) token with
  | error e => exact iff_of_false (fun ⟨_, h⟩ => nomatch h) fun ⟨_, h⟩ => nomatch h
  | ok link => exact iff_of_true ⟨_, rfl⟩ ⟨link, rfl⟩

namespace AppConfig

theorem Accepted.base {c : AppConfig} (h : c.Accepted) (kind : CredentialKind) :
    isWebUrl (c.auth.account.base kind) = true := by
  cases kind with
  | activation => exact h.activation
  | recovery => exact h.recovery

/-- Under an accepted configuration a link of a kind can be made, whatever its token,
exactly when the authority of its base is read, which the check does not look at.  On such
a base a signup, or a new recovery, succeeds whenever its collaborators do their part.  On
any other base every one of them fails and commits nothing; and when the collaborators do
their part, it fails because its mail cannot be made. -/
theorem links_made_iff {c : AppConfig} (accepted : c.validate = .ok ()) (tokens : TokenService)
    (kind : CredentialKind) :
    (∀ token, (∃ link, linkWithToken (c.auth.account.base kind) token = .ok link)
        ↔ Url.Reachable (c.auth.account.base kind).toList)
      ∧ ∀ (K : UnitKinds) (w : Workflow), .saveCredential kind ∈ w.plan →
        ∀ (said : List (Exchange K)) (r : Except Failure w.Result),
          (w.run ⟨c.auth.account, tokens⟩).run.Runs said r →
          (Url.Reachable (c.auth.account.base kind).toList →
              (∀ x ∈ said, x.1.Served x.2) → ∃ a, r = .ok a)
            ∧ (¬ Url.Reachable (c.auth.account.base kind).toList →
              (∃ e, r = .error e) ∧ Uncommitted said
                ∧ ((∀ x ∈ said, x.1.Served x.2) → ∃ address token e,
                  AccountService.mailFor ⟨c.auth.account, tokens⟩ kind address token = .error e
                    ∧ r = .error e)) := by
  have linked : ∀ token, (∃ link, linkWithToken (c.auth.account.base kind) token = .ok link)
      ↔ Url.Reachable (c.auth.account.base kind).toList :=
    exists_linkWithToken_iff ((validate_eq_ok_iff.1 accepted).base kind)
  have mailed : ∀ address token, (∃ mail,
      AccountService.mailFor ⟨c.auth.account, tokens⟩ kind address token = .ok mail)
      ↔ Url.Reachable (c.auth.account.base kind).toList := by
    intro address token
    rw [AccountService.exists_mailFor_iff]
    exact linked token
  refine ⟨linked, ?_⟩
  intro K w kept said r runs
  have served : (∀ x ∈ said, x.1.Served x.2) → (∃ a, r = .ok a) ∨ ∃ address token e,
      AccountService.mailFor ⟨c.auth.account, tokens⟩ kind address token = .error e
        ∧ r = .error e := by
    intro served
    obtain hok | ⟨kind', address, token, e, kept', unmailable, hr⟩ :=
      w.ok_or_unmailable _ runs served
    · exact Or.inl hok
    · obtain rfl := w.kind_unique kept kept'
      exact Or.inr ⟨address, token, e, unmailable, hr⟩
  refine ⟨?_, ?_⟩
  · intro reachable hserved
    obtain hok | ⟨address, token, e, unmailable, -⟩ := served hserved
    · exact hok
    · obtain ⟨mail, hmail⟩ := (mailed address token).2 reachable
      exact nomatch unmailable.symm.trans hmail
  · intro unreachable
    have never : ∀ address token, ∃ e,
        AccountService.mailFor ⟨c.auth.account, tokens⟩ kind address token = .error e := by
      intro address token
      cases hmail : AccountService.mailFor ⟨c.auth.account, tokens⟩ kind address token with
      | error e => exact ⟨e, rfl⟩
      | ok mail => exact absurd ((mailed address token).1 ⟨mail, hmail⟩) unreachable
    obtain ⟨⟨e, rfl⟩, uncommitted⟩ := w.fails_of_unmailable _ kept never runs
    refine ⟨⟨e, rfl⟩, uncommitted, ?_⟩
    intro hserved
    obtain ⟨a, ha⟩ | unmailable := served hserved
    · exact nomatch ha
    · exact unmailable

/-- The built-in configuration with another base for activations. -/
def withActivationUrl (base : String) : AppConfig :=
  { AppConfig.default with
    auth := { AuthConfig.default with
      account := { AccountConfig.default with activationUrl := base } } }

/-- With a base on this machine a signup succeeds whenever its collaborators do their part. -/
theorem links_made_on_loopback :
    (withActivationUrl "http://[::1]:8080/activate").validate = .ok ()
      ∧ (∃ link, linkWithToken "http://[::1]:8080/activate" "abc123" = .ok link)
      ∧ ∀ (K : UnitKinds) (input : SignupInput) (said : List (Exchange K))
        (r : Except Failure User),
        ((Workflow.signup input).run
          ⟨(withActivationUrl "http://[::1]:8080/activate").auth.account, .default⟩).run.Runs
          said r → (∀ x ∈ said, x.1.Served x.2) → ∃ user, r = .ok user := by
  have accepted : (withActivationUrl "http://[::1]:8080/activate").validate = .ok () := rfl
  have made := links_made_iff accepted .default .activation
  have pieces : Host.ipv6? "::1".toList = some [0, 0, 0, 0, 0, 0, 0, 1] := by decide +kernel
  have host : Host.parse "[::1]".toList = .ok (.ipv6 [0, 0, 0, 0, 0, 0, 0, 1]) := by
    change Host.parseBracketed "::1]".toList = _
    rw [Host.parseBracketed, if_pos (by decide),
      show "::1]".toList.dropLast = "::1".toList from rfl, pieces]
  have reachable : Url.Reachable "http://[::1]:8080/activate".toList :=
    ⟨by decide, ⟨_, host⟩, List.all_eq_true.1 (by decide), by decide⟩
  refine ⟨accepted, (made.1 "abc123").2 reachable, ?_⟩
  intro K input said r runs served
  exact (made.2 K (.signup input) (by simp [Workflow.plan]) said r runs).1 reachable served

/-- A base without a host passes the check.  No link can be made on it, every signup fails,
and nothing of it is committed. -/
theorem not_always_linked :
    (withActivationUrl "https://:8443/activate").validate = .ok ()
      ∧ linkWithToken (withActivationUrl "https://:8443/activate").auth.account.activationUrl
          "abc123"
        = .error (.internal "Failed to parse link base 'https://:8443/activate': empty host")
      ∧ ∀ (K : UnitKinds) (input : SignupInput) (said : List (Exchange K))
        (r : Except Failure User),
        ((Workflow.signup input).run
          ⟨(withActivationUrl "https://:8443/activate").auth.account, .default⟩).run.Runs said r →
        (∃ e, r = .error e) ∧ Uncommitted said := by
  refine ⟨rfl, rfl, ?_⟩
  intro K input said r runs
  have never : ∀ address token, ∃ e, AccountService.mailFor
      ⟨(withActivationUrl "https://:8443/activate").auth.account, .default⟩ .activation address
        token = .error e := fun address token => ⟨_, rfl⟩
  exact (Workflow.signup input).fails_of_unmailable _ (by simp [Workflow.plan]) never runs

end AppConfig

end Gatehouse
