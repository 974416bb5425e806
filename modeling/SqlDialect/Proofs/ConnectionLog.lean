import SqlDialect.Proofs.Masking
import SqlDialect.Proofs.Reconnection

/-!
# What opening a connection records

Opening a connection records the address as it may be shown, and nothing else of the configuration
but whether it commits by itself (`connect_log_eq`).  A configuration whose address was read is
recorded like the masked one; one that was made from an address alone shows it as it is.

`connect_log_eq_iff`: with two passwords, opening and opening again leave the same records exactly
if the address was read or the driver is missing; `not_connect_log_independent_of_password` is a
password that is recorded.
-/

namespace SqlDialect

/-! ### Ways to make a configuration -/

/-- How a configuration is made from an address: as a data source name with settings beside it, as
the value of a variable, or from the address alone. -/
inductive Making
  | dsn (given : Settings)
  | environment (name : String) (env : Environment) (given : Settings)
  | url

namespace Making

open ConnectionConfig

/-- The configuration that is made from an address. -/
def config (address : String) : Making → Except SettingsError ConnectionConfig
  | .dsn given => ofDsn address given
  | .environment name env given => ofEnvironment name ((name, address) :: env) given
  | .url => ofSettings address []

/-- The configuration of a variable that holds an address. -/
theorem ofEnvironment_eq {address : String} (h : address ≠ "") (name : String) (env : Environment)
    (given : Settings) :
    ofEnvironment name ((name, address) :: env) given =
      (do
        forbid "env_var" given
        forbid "source" given
        ofDsn address (given ++ [("source", .text name)])) := by
  have hvalue : Environment.value? ((name, address) :: env) name = some address := by
    simp [Environment.value?, h]
  simp only [ofEnvironment, hvalue]

/-- Configurations whose address is read are alike but for the password. -/
theorem config_masked {m : Making} (h : m ≠ .url) (a : Dsn.Surroundings) (p q : Dsn.Password) :
    (m.config (a.address p)).map masked = (m.config (a.address q)).map masked := by
  have hmap : ∀ x : Except SettingsError ConnectionConfig, masked <$> x = x.map masked :=
    fun _ => rfl
  cases m with
  | dsn given => exact ofDsn_masked a p q given
  | environment name env given =>
    -- what is refused before the address is read does not depend on it
    simp only [config, ofEnvironment_eq (a.address_ne_empty _), ← hmap, map_bind]
    simp only [hmap, ofDsn_masked a p q]
  | url => exact absurd rfl h

end Making

/-- The session with a connection in use. -/
def Session.withLink (s : Session) (link : Link) : Session :=
  { s with adapter := { s.adapter with link? := some link } }

namespace Postgres

/-! ### The records of an opening -/

/-- The records that opening a connection leaves. -/
def openingRecords (config : ConnectionConfig) : List LogRecord :=
  ((options config).bind fun _ => connectingRecord config).toOption.join.toList

theorem connect_log_eq (config : ConnectionConfig) (script : DriverScript) (s : Session) :
    (connect config script s).log = if script.available then openingRecords config else [] := by
  rw [connect_eq, openingRecords]
  split
  · split <;> simp [*, Except.bind, Except.toOption]
  · rfl

theorem openingRecords_masked (config : ConnectionConfig) :
    openingRecords config.masked = openingRecords config := by
  have hoptions : options config.masked = options config := by
    unfold ConnectionConfig.masked
    split <;> rfl
  have hautocommit : config.masked.autocommit = config.autocommit := by
    unfold ConnectionConfig.masked
    split <;> rfl
  rw [openingRecords, hoptions, connectingRecord, config.label_masked, hautocommit]
  rfl

/-- A configuration of an address alone is recorded with the address as it is. -/
theorem openingRecords_url {address : String} {config : ConnectionConfig}
    (h : Making.url.config address = .ok config) :
    openingRecords config =
      [record .info
        ("Connecting to PostgreSQL " ++ address ++ " (autocommit=" ++ "False" ++ ")")] := by
  obtain rfl := Except.ok.inj h
  rfl

/-! ### Two passwords -/

section TwoPasswords

variable {m : Making} {a : Dsn.Surroundings} {p q : Dsn.Password} {c d : ConnectionConfig}

/-- An opening is recorded alike if the address was read, and else only with one password. -/
theorem openingRecords_eq_iff (hc : m.config (a.address p) = .ok c)
    (hd : m.config (a.address q) = .ok d) :
    openingRecords c = openingRecords d ↔ m ≠ .url ∨ p.chars = q.chars := by
  by_cases hm : m = .url
  · subst hm
    rw [openingRecords_url hc, openingRecords_url hd]
    refine ⟨fun h => .inr (a.address_eq_iff.1 ?_), fun h => ?_⟩
    · simpa [record] using h
    · rw [a.address_eq_iff.2 (h.resolve_left (absurd rfl))]
  · have hmasked : c.masked = d.masked := by
      have h := Making.config_masked hm a p q
      rw [hc, hd] at h
      exact Except.ok.inj h
    refine iff_of_true ?_ (.inl hm)
    rw [← openingRecords_masked, hmasked, openingRecords_masked]

/-- Two configurations that were made in one way from addresses with two passwords leave the same
records as a connection is opened, and as it is opened again after it was lost, exactly if the
address was read, the passwords are one or the driver is missing. -/
theorem connect_log_eq_iff (hc : m.config (a.address p) = .ok c)
    (hd : m.config (a.address q) = .ok d) (script : DriverScript) (s : Session) :
    ((connect c script s).log = (connect d script s).log ↔
      (script.available = true → m ≠ .url ∨ p.chars = q.chars)) ∧
    ∀ id, s.hasLost id = true →
      ((connection script (s.withLink ⟨id, c⟩)).log =
          (connection script (s.withLink ⟨id, d⟩)).log ↔
        (script.available = true → m ≠ .url ∨ p.chars = q.chars)) := by
  have hopen : (if script.available then openingRecords c else []) =
      (if script.available then openingRecords d else []) ↔
        (script.available = true → m ≠ .url ∨ p.chars = q.chars) := by
    rw [← openingRecords_eq_iff hc hd]
    cases script.available <;> simp
  refine ⟨?_, fun id hlost => ?_⟩
  · rw [connect_log_eq, connect_log_eq, hopen]
  · rw [connection_of_lost rfl hlost, connection_of_lost rfl hlost]
    simp only [List.cons.injEq, true_and, connect_log_eq]
    exact hopen

end TwoPasswords

/-- A short address around a password. -/
def shortSite : Dsn.Surroundings where
  scheme := "postgresql".toList
  user := "u".toList
  rest := "h/db".toList
  isScheme := by decide
  user_plain := by decide
  user_whole := by decide
  rest_ascii := by decide

/-- The short address with a password, as it is read. -/
def shortDsn (password : String) : Dsn where
  scheme := "postgresql"
  username := some "u"
  password := some password
  host := some "h"
  port := none
  path := "/db"
  query := []

/-- The configuration of the short address in a variable. -/
def shortConfig (password : String) : ConnectionConfig where
  url := "postgresql://u:" ++ password ++ "@h/db"
  parts := .read (shortDsn password)
  source := .text "DATABASE_URL"

/-- What is recorded of an address in a variable does not depend on its password. -/
theorem connect_log_eq_of_variable :
    let making : Making := .environment "DATABASE_URL" [] []
    let s : Session := { adapter := { backend := .postgres }, opened := 1, lost := [0] }
    making.config (shortSite.address plainPassword) = .ok (shortConfig "secret") ∧
      making.config (shortSite.address oddPassword) = .ok (shortConfig "p@s:s%40 w") ∧
      (connect (shortConfig "secret") {} s).log = (connect (shortConfig "p@s:s%40 w") {} s).log ∧
      (connection {} (s.withLink ⟨0, shortConfig "secret"⟩)).log =
        (connection {} (s.withLink ⟨0, shortConfig "p@s:s%40 w"⟩)).log := by
  intro making s
  have hplain : making.config (shortSite.address plainPassword) = .ok (shortConfig "secret") := by
    have hdsn : Dsn.read (shortSite.address plainPassword) = .ok (shortDsn "secret") := rfl
    rw [Making.config, Making.ofEnvironment_eq (shortSite.address_ne_empty plainPassword),
      ConnectionConfig.ofDsn, hdsn]
    rfl
  have hodd : making.config (shortSite.address oddPassword) = .ok (shortConfig "p@s:s%40 w") := by
    have hdsn : Dsn.read (shortSite.address oddPassword) = .ok (shortDsn "p@s:s%40 w") := rfl
    rw [Making.config, Making.ofEnvironment_eq (shortSite.address_ne_empty oddPassword),
      ConnectionConfig.ofDsn, hdsn]
    rfl
  have hlogs := connect_log_eq_iff hplain hodd {} s
  have hread : making ≠ .url := by simp [making]
  exact ⟨hplain, hodd, hlogs.1.2 fun _ => .inl hread, (hlogs.2 0 rfl).2 fun _ => .inl hread⟩

/-- What is recorded of an address alone depends on its password. -/
theorem not_connect_log_independent_of_password :
    ¬ ∀ (m : Making) (a : Dsn.Surroundings) (p q : Dsn.Password) (c d : ConnectionConfig),
      m.config (a.address p) = .ok c → m.config (a.address q) = .ok d →
      ∀ (script : DriverScript) (s : Session),
        (connect c script s).log = (connect d script s).log ∧
        ∀ id, s.hasLost id = true →
          (connection script (s.withLink ⟨id, c⟩)).log =
            (connection script (s.withLink ⟨id, d⟩)).log := by
  intro hall
  have hlog := (hall .url shortSite plainPassword oddPassword
    { url := shortSite.address plainPassword } { url := shortSite.address oddPassword } rfl rfl {}
    { adapter := { backend := .postgres } }).1
  -- equal records of an address as it is are records of one password
  rw [connect_log_eq, connect_log_eq] at hlog
  have hsame : Making.url ≠ .url ∨ plainPassword.chars = oddPassword.chars :=
    (openingRecords_eq_iff (a := shortSite) rfl rfl).1 hlog
  exact hsame.elim (fun h => h rfl) (by decide)

end Postgres

end SqlDialect
