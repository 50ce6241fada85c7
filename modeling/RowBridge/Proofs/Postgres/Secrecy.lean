/-
# `RowBridge.Proofs.Postgres.Secrecy` — two passwords, one report

What must not be told apart is compared: two runs with different passwords and
otherwise the same settings, whose attempts end alike.  Ending alike leaves the
driver free in its choice of words (`Attempt.Alike`), for these may quote the
password; of a complaint only the kind of failure is reported.

The password enters a run through the address alone, and the address is reported
only in the message of a failed attempt, where it is masked:

    reported                             of the settings          of an attempt
    a pool is there, at once             the numbers of           that it succeeded
                                         connections
    a pool is there, after some retries                           its number
    an attempt failed                    the masked address       its number and kind, the pause
    the last attempt failed              the masked address       its number and kind

Masking starts at the first colon behind the separator, so a password is hidden
from its own colon on, and ends at the last `@`, wherever that is: in front of
the remainder, or within it (`sanitizeUrl_credentialed`).
-/
import RowBridge.Postgres.Pool
import RowBridge.Proofs.Postgres.Masking

namespace RowBridge.Postgres

/-- An address with a user and a password in front of the remainder. -/
def credentialed (scheme user password remainder : String) : String :=
  scheme ++ "://" ++ user ++ ":" ++ password ++ "@" ++ remainder

/-- A password is hidden together with the part of the remainder in front of its
last `@`, if there is one. -/
theorem sanitizeUrl_credentialed {scheme user : String} (hscheme : ¬ separator <:+: scheme.toList)
    (huser : ':' ∉ user.toList) (remainder : String) :
    ∃ rest, ∀ password, sanitizeUrl (credentialed scheme user password remainder) =
      scheme ++ "://" ++ user ++ ":***@" ++ rest := by
  by_cases hat : '@' ∈ remainder.toList
  · obtain ⟨before, after, hremainder, hafter⟩ := exists_last_of_mem hat
    refine ⟨String.ofList after, fun password => ?_⟩
    have hsplit : remainder = String.ofList before ++ "@" ++ String.ofList after := by
      refine String.toList_inj.mp ?_
      simp [hremainder, String.toList_append]
    have haddress : credentialed scheme user password remainder =
        scheme ++ "://" ++ (user ++ ":" ++ (password ++ "@" ++ String.ofList before)) ++ "@" ++
          String.ofList after := by
      simp [credentialed, hsplit, String.append_assoc]
    rw [haddress]
    exact sanitizeUrl_hides hscheme huser _ (by simpa using hafter)
  · refine ⟨remainder, fun password => ?_⟩
    have haddress : credentialed scheme user password remainder =
        scheme ++ "://" ++ (user ++ ":" ++ password) ++ "@" ++ remainder := by
      simp [credentialed, String.append_assoc]
    rw [haddress]
    exact sanitizeUrl_hides hscheme huser password hat

/-- Two attempts end alike, whatever the words in which a driver complains. -/
inductive Attempt.Alike : Attempt → Attempt → Prop
  | connected : Alike .connected .connected
  | complained {complaint complaint' : DriverError} :
      complaint.toScanError.kind = complaint'.toScanError.kind →
      Alike (.complained complaint) (.complained complaint')
  | aborted (abort : Abort) : Alike (.aborted abort) (.aborted abort)

namespace Pool

variable {settings settings' : DatabaseSettings}

/-- Settings that differ in the address only, and not in how it is reported. -/
structure Discreet (settings settings' : DatabaseSettings) : Prop where
  settings_eq : settings' = { settings with url := settings'.url }
  sanitized : sanitizeUrl settings'.url = sanitizeUrl settings.url

theorem Discreet.attemptFailure_eq (h : Discreet settings settings')
    {complaint complaint' : DriverError}
    (hkind : complaint.toScanError.kind = complaint'.toScanError.kind) :
    attemptFailure settings' complaint' = attemptFailure settings complaint := by
  rw [attemptFailure, attemptFailure, h.sanitized, hkind]

theorem Discreet.pause_eq (h : Discreet settings settings') (number : Nat) :
    pause settings' number = pause settings number := by
  rw [h.settings_eq]
  rfl

theorem Discreet.reportConnected_eq (h : Discreet settings settings') (earlier : Nat) :
    reportConnected settings' earlier = reportConnected settings earlier := by
  rw [h.settings_eq]
  rfl

theorem Discreet.reportGivenUp_eq (h : Discreet settings settings') (failure : ScanError) :
    reportGivenUp settings' failure = reportGivenUp settings failure := by
  rw [h.settings_eq]
  rfl

/-- Attempts that end alike are followed by the same reports, the same pauses and
the same number of further attempts. -/
theorem Discreet.attempt_eq (h : Discreet settings settings') {outcome outcome' : Nat → Attempt} :
    ∀ retries earlier : Nat,
      (∀ n ≤ retries, (outcome (earlier + 1 + n)).Alike (outcome' (earlier + 1 + n))) →
      attempt settings' outcome' retries earlier = attempt settings outcome retries earlier := by
  intro retries
  induction retries with
  | zero =>
      intro earlier halike
      have hfirst : (outcome (earlier + 1)).Alike (outcome' (earlier + 1)) := halike 0 (Nat.le_refl 0)
      rw [attempt, attempt]
      generalize outcome (earlier + 1) = ended, outcome' (earlier + 1) = ended' at hfirst
      cases hfirst with
      | connected => rw [h.reportConnected_eq]
      | complained hkind => simp only [h.attemptFailure_eq hkind, h.reportGivenUp_eq]
      | aborted abort => rfl
  | succ retries ih =>
      intro earlier halike
      have hfirst : (outcome (earlier + 1)).Alike (outcome' (earlier + 1)) :=
        halike 0 (Nat.zero_le _)
      have hrest : attempt settings' outcome' retries (earlier + 1) =
          attempt settings outcome retries (earlier + 1) := by
        refine ih (earlier + 1) fun n hn => ?_
        rw [Nat.add_assoc (earlier + 1) 1 n, Nat.add_comm 1 n]
        exact halike (n + 1) (Nat.succ_le_succ hn)
      rw [attempt, attempt]
      generalize outcome (earlier + 1) = ended, outcome' (earlier + 1) = ended' at hfirst
      cases hfirst with
      | connected => rw [h.reportConnected_eq]
      | complained hkind => simp only [h.attemptFailure_eq hkind, h.pause_eq, hrest]
      | aborted abort => rfl

end Pool

/-- A password never shows.  An address is reported in the same way whatever the
password in it; and the creation of a pool comes to the same result, with the
same attempts, pauses and log events, for any two settings that differ in the
password only and whose attempts end alike. -/
theorem password_never_shows {scheme user : String} (hscheme : ¬ separator <:+: scheme.toList)
    (huser : ':' ∉ user.toList) (remainder password password' : String) :
    sanitizeUrl (credentialed scheme user password remainder) =
        sanitizeUrl (credentialed scheme user password' remainder) ∧
      ∀ settings settings' : DatabaseSettings,
        settings.url = credentialed scheme user password remainder →
        settings' = { settings with url := credentialed scheme user password' remainder } →
        ∀ outcome outcome' : Nat → Attempt,
          (∀ n ≤ settings.maxRetries, (outcome (n + 1)).Alike (outcome' (n + 1))) →
          Pool.create settings' outcome' = Pool.create settings outcome := by
  obtain ⟨rest, hsanitized⟩ := sanitizeUrl_credentialed hscheme huser remainder
  have hsame : sanitizeUrl (credentialed scheme user password' remainder) =
      sanitizeUrl (credentialed scheme user password remainder) :=
    (hsanitized password').trans (hsanitized password).symm
  refine ⟨hsame.symm, ?_⟩
  intro settings settings' hurl hsettings outcome outcome' halike
  have hdiscreet : Pool.Discreet settings settings' := by
    refine ⟨?_, ?_⟩
    · rw [hsettings]
    · rw [hsettings, hurl]
      exact hsame
  have hretries : settings'.maxRetries = settings.maxRetries := by rw [hsettings]
  rw [Pool.create, Pool.create, hretries]
  refine hdiscreet.attempt_eq settings.maxRetries 0 fun n hn => ?_
  rw [Nat.zero_add, Nat.add_comm 1 n]
  exact halike n hn

/-- A shop that tries twice, two seconds apart. -/
def shop (password : String) : DatabaseSettings where
  url := credentialed "postgres" "app" password "db.internal/orders?owner=a@b"
  maxConnections := 5
  minConnections := 0
  connectionTimeoutSecs := 10
  maxRetries := 1
  retryDelaySecs := 2

/-- The driver repeats the password that is refused. -/
def refusing (password : String) (_ : Nat) : Attempt :=
  .complained (.database ("password refused: " ++ password))

theorem password_never_shows_when_refused :
    ¬ separator <:+: "postgres".toList ∧ ':' ∉ "app".toList ∧
      refusing "hunter2" 1 ≠ refusing "p@s://s" 1 ∧
      Pool.create (shop "p@s://s") (refusing "p@s://s") =
        Pool.create (shop "hunter2") (refusing "hunter2") ∧
      (Pool.create (shop "hunter2") (refusing "hunter2")).result =
        .failed (.plain .queryFailed "Failed to connect to database at 'postgres://app:***@b'") := by
  have hscheme : ¬ separator <:+: "postgres".toList :=
    fun hin => absurd (hin.subset List.mem_cons_self) (by decide)
  have huser : ':' ∉ "app".toList := by decide
  refine ⟨hscheme, huser, by decide, ?_, by decide⟩
  exact (password_never_shows hscheme huser "db.internal/orders?owner=a@b" "hunter2" "p@s://s").2
    (shop "hunter2") (shop "p@s://s") rfl rfl (refusing "hunter2") (refusing "p@s://s")
    fun _ _ => .complained rfl

end RowBridge.Postgres
