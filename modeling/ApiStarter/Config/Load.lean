import ApiStarter.Config.Auth
import ApiStarter.Config.Db
import ApiStarter.Database.Entries

/-
  `config`: the settings of the process, and `AppConfig::load`.

  The environment is the one `dotenvy` leaves. `load` reads 22 variables in a fixed order and ends
  at the first it cannot use; `load_error_iff` says which that is. What is loaded is trimmed, and a
  configuration written out, variable by variable, is loaded as it was (`load_round_trip`).
-/

namespace ApiStarter.Config

open ApiStarter.Database ApiStarter.Entries ApiStarter.Env ApiStarter.Pagination
open ApiStarter.Text (utf8 decodeUtf8_eq_some)

/-! ## Levels and environments -/

inductive LogLevel where
  | trace
  | debug
  | info
  | warn
  | error
  deriving DecidableEq, Repr

namespace LogLevel

def asStr : LogLevel → String
  | trace => "trace"
  | debug => "debug"
  | info => "info"
  | warn => "warn"
  | error => "error"

def fromStr (value : String) : Option LogLevel :=
  match toAsciiLowercase (trim value) with
  | "trace" => some trace
  | "debug" => some debug
  | "info" => some info
  | "warn" | "warning" => some warn
  | "error" => some error
  | _ => none

end LogLevel

inductive Environment where
  | local
  | development
  | production
  deriving DecidableEq, Repr

namespace Environment

def asStr : Environment → String
  | .local => "local"
  | development => "development"
  | production => "production"

def fromStr (value : String) : Option Environment :=
  match toAsciiLowercase (trim value) with
  | "local" => some .local
  | "development" => some development
  | "production" => some production
  | _ => none

end Environment

/-! ## Settings -/

structure Server where
  port : UInt16
  deriving DecidableEq

structure Logger where
  level : LogLevel
  directory : String
  deriving DecidableEq

structure Deployment where
  name : String
  environment : Environment
  timeZone : String
  deriving DecidableEq

/-- `Db` as a whole: with what `to_url` does not read. -/
structure DbSettings extends Db where
  maxConnections : UInt32
  runMigrations : Bool
  deriving DecidableEq

structure Mail where
  host : String
  port : UInt16
  username : String
  password : String
  fromAddress : String
  fromName : String
  deriving DecidableEq

structure Jwt where
  secret : List UInt8
  deriving DecidableEq

/-- `Jwt::new`, given a `String` -/
def Jwt.new (secret : String) : Jwt := { secret := utf8 secret.toList }

structure AppConfig where
  server : Server
  logger : Logger
  deployment : Deployment
  db : DbSettings
  mail : Mail
  jwt : Jwt
  auth : Auth
  deriving DecidableEq

namespace AppConfig

variable (environ : Environ)

def loadServer : Except Error Server := do
  return { port := ← u16Or environ "APP_PORT" 3000 }

def loadLogger : Except Error Logger := do
  return {
    level := ← variantOrDefault environ "LOGGER_LEVEL" LogLevel.fromStr .info
    directory := stringOr environ "LOGGER_DIRECTORY" "storage/logs" }

def loadDeployment : Except Error Deployment := do
  return {
    name := stringOr environ "APP_NAME" "App_sample"
    environment := ← variantOrDefault environ "APP_ENVIRONMENT" Environment.fromStr .development
    timeZone := stringOr environ "APP_TIMEZONE" "America/Belize" }

def loadDb : Except Error DbSettings := do
  return {
    host := stringOr environ "DB_HOST" "127.0.0.1"
    port := ← u16Or environ "DB_PORT" 5432
    database := stringOr environ "DB_DATABASE" "api_starter"
    username := stringOr environ "DB_USERNAME" "root"
    password := stringOr environ "DB_PASSWORD" "password"
    maxConnections := ← u32Or environ "DB_MAX_CONNECTIONS" 10
    runMigrations := ← booleanOr environ "DB_RUN_MIGRATIONS" true }

def loadMail : Except Error Mail := do
  return {
    host := stringOr environ "MAIL_HOST" "mail"
    port := ← u16Or environ "MAIL_PORT" 1025
    username := (string environ "MAIL_USERNAME").getD ""
    password := (string environ "MAIL_PASSWORD").getD ""
    fromAddress := stringOr environ "MAIL_FROM_ADDRESS" "noreply@example.com"
    fromName := stringOr environ "MAIL_FROM_NAME" "noreply" }

def loadJwt : Except Error Jwt := do
  return Jwt.new (← required environ "JWT_SECRET")

def load : Except Error AppConfig := do
  return {
    server := ← loadServer environ
    logger := ← loadLogger environ
    deployment := ← loadDeployment environ
    db := ← loadDb environ
    mail := ← loadMail environ
    jwt := ← loadJwt environ
    auth := ← loadAuth environ }

end AppConfig

/-! ## Texts as `string` returns them -/

/-- Neither blank nor with white space around it. -/
def Clean (text : String) : Prop := trim text = text ∧ text ≠ ""

/-- The texts the settings are written with, and those they fall back to. -/
def knownTexts : List String := [
  "trace", "debug", "info", "warn", "error", "local", "development", "production", "true", "false",
  "storage/logs", "App_sample", "America/Belize", "127.0.0.1", "api_starter", "root", "password",
  "mail", "noreply@example.com", "noreply"]

theorem clean_of_known {text : String} (h : text ∈ knownTexts) : Clean text := by
  have hknown : ∀ text ∈ knownTexts, trim text = text ∧ text ≠ "" := by decide +kernel
  exact hknown text h

theorem trim_trim (text : String) : trim (trim text) = trim text := by
  let inner := text.toList.dropWhile isWhitespace
  have hleft : (inner.rdropWhile isWhitespace).dropWhile isWhitespace =
      inner.rdropWhile isWhitespace := by
    rw [List.dropWhile_eq_self_iff]
    intro hl
    have hprefix : inner.rdropWhile isWhitespace <+: inner :=
      List.rdropWhile_prefix isWhitespace inner
    have hinner : 0 < inner.length := lt_of_lt_of_le hl hprefix.length_le
    have hhead : (inner.rdropWhile isWhitespace)[0] = inner[0] := hprefix.getElem hl
    rw [hhead]
    exact List.dropWhile_get_zero_not isWhitespace text.toList hinner
  unfold trim
  rw [String.toList_ofList, hleft, List.rdropWhile_idempotent]

section

variable {environ : Environ} {key : String} {text : String}

theorem clean_of_string (h : string environ key = some text) : Clean text := by
  unfold string at h
  split at h
  next value _ =>
    split at h
    next hne =>
      cases h
      exact ⟨trim_trim value, by simpa [String.isEmpty_iff] using hne⟩
    next => cases h
  next => cases h

theorem clean_stringOr {fallback : String} (h : Clean fallback) :
    Clean (stringOr environ key fallback) := by
  unfold stringOr
  cases hstring : string environ key with
  | none => exact h
  | some text => exact clean_of_string hstring

theorem string_of_written (hset : environ key = some (utf8 text.toList)) (h : Clean text) :
    string environ key = some text := by
  unfold string var
  rw [hset]
  dsimp only
  rw [decodeUtf8_eq_some.2 rfl]
  dsimp only
  rw [h.1, if_pos (by simpa [String.isEmpty_iff] using h.2)]

theorem stringOr_of_written (hset : environ key = some (utf8 text.toList)) (h : Clean text)
    (fallback : String) : stringOr environ key fallback = text := by
  unfold stringOr
  rw [string_of_written hset h]
  rfl

theorem parsedOr_of_written {T : Type} {parse : String → Option T} {t : T}
    (hset : environ key = some (utf8 text.toList)) (h : Clean text) (hparse : parse text = some t)
    (fallback : T) : parsedOr environ key parse fallback = .ok t := by
  unfold parsedOr parsed
  rw [string_of_written hset h]
  dsimp only
  rw [hparse]
  rfl

end

/-! ## What is written is read -/

/-- A number as it is printed. -/
def decimal (n : Nat) : String := toString (n : Int)

theorem toList_decimal (n : Nat) : (decimal n).toList = Nat.toDigits 10 n := by
  rw [decimal, toList_toString, if_pos (Int.natCast_nonneg n), Int.toNat_natCast]

theorem clean_toString (i : Int) : Clean (toString i) := by
  refine ⟨trim_toString i, fun hempty => ?_⟩
  have hlist := congrArg String.toList hempty
  rw [toList_toString] at hlist
  split at hlist
  · exact absurd hlist Nat.toDigits_ne_nil
  · cases hlist

theorem parseUnsigned_decimal {hi n : Nat} (h : n ≤ hi) :
    parseUnsigned hi (decimal n) = some n := by
  have hvalue := digitsValue_toDigits n
  have hdigits : ∀ c ∈ Nat.toDigits 10 n, c.isDigit := fun c hc =>
    Nat.isDigit_of_mem_toDigits (by decide) (by decide) hc
  unfold parseUnsigned
  rw [toList_decimal]
  generalize Nat.toDigits 10 n = ds at hvalue hdigits ⊢
  split
  next ds => exact absurd (hdigits '+' List.mem_cons_self) (by decide)
  next => simp [hvalue, h]

theorem parseU16_decimal (n : UInt16) : parseU16 (decimal n.toNat) = some n := by
  have hbound := n.toNat_lt
  unfold parseU16
  rw [parseUnsigned_decimal (by omega), Option.map_some, UInt16.ofNat_toNat]

theorem parseU32_decimal (n : UInt32) : parseU32 (decimal n.toNat) = some n := by
  have hbound := n.toNat_lt
  unfold parseU32
  rw [parseUnsigned_decimal (by omega), Option.map_some, UInt32.ofNat_toNat]

theorem LogLevel.fromStr_asStr (level : LogLevel) : fromStr level.asStr = some level := by
  cases level <;> decide +kernel

theorem Environment.fromStr_asStr (environment : Environment) :
    fromStr environment.asStr = some environment := by
  cases environment <;> decide +kernel

def boolText (b : Bool) : String := if b then "true" else "false"

theorem parseBoolean_boolText (b : Bool) : parseBoolean (boolText b) = some b := by
  cases b <;> decide +kernel

/-! ## Configurations written out -/

/-- The environment has these variables, and any others. -/
def WrittenIn (environ : Environ) (entries : List (String × List UInt8)) : Prop :=
  ∀ entry ∈ entries, environ entry.1 = some entry.2

def Server.entries (server : Server) : List (String × List UInt8) := [
  ("APP_PORT", utf8 (decimal server.port.toNat).toList)]

def Logger.entries (logger : Logger) : List (String × List UInt8) := [
  ("LOGGER_LEVEL", utf8 logger.level.asStr.toList),
  ("LOGGER_DIRECTORY", utf8 logger.directory.toList)]

def Deployment.entries (deployment : Deployment) : List (String × List UInt8) := [
  ("APP_NAME", utf8 deployment.name.toList),
  ("APP_ENVIRONMENT", utf8 deployment.environment.asStr.toList),
  ("APP_TIMEZONE", utf8 deployment.timeZone.toList)]

def DbSettings.entries (db : DbSettings) : List (String × List UInt8) := [
  ("DB_HOST", utf8 db.host.toList),
  ("DB_PORT", utf8 (decimal db.port.toNat).toList),
  ("DB_DATABASE", utf8 db.database.toList),
  ("DB_USERNAME", utf8 db.username.toList),
  ("DB_PASSWORD", utf8 db.password.toList),
  ("DB_MAX_CONNECTIONS", utf8 (decimal db.maxConnections.toNat).toList),
  ("DB_RUN_MIGRATIONS", utf8 (boolText db.runMigrations).toList)]

def Mail.entries (mail : Mail) : List (String × List UInt8) := [
  ("MAIL_HOST", utf8 mail.host.toList),
  ("MAIL_PORT", utf8 (decimal mail.port.toNat).toList),
  ("MAIL_USERNAME", utf8 mail.username.toList),
  ("MAIL_PASSWORD", utf8 mail.password.toList),
  ("MAIL_FROM_ADDRESS", utf8 mail.fromAddress.toList),
  ("MAIL_FROM_NAME", utf8 mail.fromName.toList)]

def Jwt.entries (jwt : Jwt) : List (String × List UInt8) := [("JWT_SECRET", jwt.secret)]

def Auth.entries (auth : Auth) : List (String × List UInt8) := [
  (accessTokenTtl, utf8 (toString auth.accessTokenTtlInSeconds.toInt).toList),
  (refreshTokenTtl, utf8 (toString auth.refreshTokenTtlInSeconds.toInt).toList)]

/-- The variables of a configuration, each with its text. -/
def AppConfig.entries (config : AppConfig) : List (String × List UInt8) :=
  config.server.entries ++ config.logger.entries ++ config.deployment.entries ++
    config.db.entries ++ config.mail.entries ++ config.jwt.entries ++ config.auth.entries

/-! ### Texts -/

def Logger.Trimmed (logger : Logger) : Prop := Clean logger.directory

structure Deployment.Trimmed (deployment : Deployment) : Prop where
  name : Clean deployment.name
  timeZone : Clean deployment.timeZone

structure DbSettings.Trimmed (db : DbSettings) : Prop where
  host : Clean db.host
  database : Clean db.database
  username : Clean db.username
  password : Clean db.password

/-- The credentials may be left out. -/
structure Mail.Trimmed (mail : Mail) : Prop where
  host : Clean mail.host
  username : mail.username = "" ∨ Clean mail.username
  password : mail.password = "" ∨ Clean mail.password
  fromAddress : Clean mail.fromAddress
  fromName : Clean mail.fromName

def Jwt.Trimmed (jwt : Jwt) : Prop := ∃ secret, Clean secret ∧ jwt = Jwt.new secret

/-- The texts are as `string` returns them. -/
structure AppConfig.Trimmed (config : AppConfig) : Prop where
  logger : config.logger.Trimmed
  deployment : config.deployment.Trimmed
  db : config.db.Trimmed
  mail : config.mail.Trimmed
  jwt : config.jwt.Trimmed

/-! ### Loading them -/

namespace AppConfig

section

variable {environ : Environ}

theorem loadServer_written {server : Server} (h : WrittenIn environ server.entries) :
    loadServer environ = .ok server := by
  simp only [WrittenIn, Server.entries, List.forall_mem_cons] at h
  obtain ⟨hport, -⟩ := h
  have hport : u16Or environ "APP_PORT" 3000 = .ok server.port :=
    parsedOr_of_written hport (clean_toString _) (parseU16_decimal _) _
  unfold loadServer
  rw [hport]
  rfl

theorem clean_asStr_logLevel (level : LogLevel) : Clean level.asStr := by
  apply clean_of_known
  cases level <;> simp [knownTexts, LogLevel.asStr]

theorem clean_asStr_environment (environment : Environment) : Clean environment.asStr := by
  apply clean_of_known
  cases environment <;> simp [knownTexts, Environment.asStr]

theorem clean_boolText (b : Bool) : Clean (boolText b) := by
  apply clean_of_known
  cases b <;> simp [knownTexts, boolText]

theorem loadLogger_written {logger : Logger} (h : WrittenIn environ logger.entries)
    (htrimmed : logger.Trimmed) : loadLogger environ = .ok logger := by
  simp only [WrittenIn, Logger.entries, List.forall_mem_cons] at h
  obtain ⟨hlevel, hdirectory, -⟩ := h
  have hlevel : variantOrDefault environ "LOGGER_LEVEL" LogLevel.fromStr .info =
      .ok logger.level :=
    parsedOr_of_written hlevel (clean_asStr_logLevel _) (LogLevel.fromStr_asStr _) _
  unfold loadLogger
  rw [hlevel, stringOr_of_written hdirectory htrimmed]
  rfl

theorem loadDeployment_written {deployment : Deployment}
    (h : WrittenIn environ deployment.entries) (htrimmed : deployment.Trimmed) :
    loadDeployment environ = .ok deployment := by
  simp only [WrittenIn, Deployment.entries, List.forall_mem_cons] at h
  obtain ⟨hname, henvironment, htimeZone, -⟩ := h
  have henvironment : variantOrDefault environ "APP_ENVIRONMENT" Environment.fromStr
      .development = .ok deployment.environment :=
    parsedOr_of_written henvironment (clean_asStr_environment _) (Environment.fromStr_asStr _) _
  unfold loadDeployment
  rw [henvironment, stringOr_of_written hname htrimmed.name,
    stringOr_of_written htimeZone htrimmed.timeZone]
  rfl

theorem loadDb_written {db : DbSettings} (h : WrittenIn environ db.entries)
    (htrimmed : db.Trimmed) : loadDb environ = .ok db := by
  simp only [WrittenIn, DbSettings.entries, List.forall_mem_cons] at h
  obtain ⟨hhost, hport, hdatabase, husername, hpassword, hconnections, hmigrations, -⟩ := h
  have hport : u16Or environ "DB_PORT" 5432 = .ok db.port :=
    parsedOr_of_written hport (clean_toString _) (parseU16_decimal _) _
  have hconnections : u32Or environ "DB_MAX_CONNECTIONS" 10 = .ok db.maxConnections :=
    parsedOr_of_written hconnections (clean_toString _) (parseU32_decimal _) _
  have hmigrations : booleanOr environ "DB_RUN_MIGRATIONS" true = .ok db.runMigrations := by
    rw [booleanOr_eq]
    exact parsedOr_of_written hmigrations (clean_boolText _) (parseBoolean_boolText _) _
  unfold loadDb
  rw [hport, hconnections, hmigrations, stringOr_of_written hhost htrimmed.host,
    stringOr_of_written hdatabase htrimmed.database,
    stringOr_of_written husername htrimmed.username,
    stringOr_of_written hpassword htrimmed.password]
  rfl

/-- A variable that is set to nothing is as good as unset. -/
theorem getD_string_written {key text : String}
    (hset : environ key = some (utf8 text.toList)) (h : text = "" ∨ Clean text) :
    (string environ key).getD "" = text := by
  rcases h with rfl | h
  · unfold string var
    rw [hset]
    dsimp only
    rw [decodeUtf8_eq_some.2 rfl]
    rfl
  · rw [string_of_written hset h]
    rfl

theorem loadMail_written {mail : Mail} (h : WrittenIn environ mail.entries)
    (htrimmed : mail.Trimmed) : loadMail environ = .ok mail := by
  simp only [WrittenIn, Mail.entries, List.forall_mem_cons] at h
  obtain ⟨hhost, hport, husername, hpassword, hfromAddress, hfromName, -⟩ := h
  have hport : u16Or environ "MAIL_PORT" 1025 = .ok mail.port :=
    parsedOr_of_written hport (clean_toString _) (parseU16_decimal _) _
  unfold loadMail
  rw [hport, getD_string_written husername htrimmed.username,
    getD_string_written hpassword htrimmed.password, stringOr_of_written hhost htrimmed.host,
    stringOr_of_written hfromAddress htrimmed.fromAddress,
    stringOr_of_written hfromName htrimmed.fromName]
  rfl

theorem loadJwt_written {jwt : Jwt} (h : WrittenIn environ jwt.entries)
    (htrimmed : jwt.Trimmed) : loadJwt environ = .ok jwt := by
  obtain ⟨secret, hclean, rfl⟩ := htrimmed
  have hset : environ "JWT_SECRET" = some (utf8 secret.toList) := h _ List.mem_cons_self
  unfold loadJwt required
  rw [string_of_written hset hclean]
  rfl

theorem loadAuth_entries {auth : Auth} (h : WrittenIn environ auth.entries) :
    loadAuth environ = .ok auth := by
  simp only [WrittenIn, Auth.entries, List.forall_mem_cons] at h
  obtain ⟨haccess, hrefresh, -⟩ := h
  unfold loadAuth
  rw [i64Or_of_written haccess, i64Or_of_written hrefresh]
  rfl

/-- A configuration that is written out is loaded as it is. -/
theorem load_written {config : AppConfig} (h : WrittenIn environ config.entries)
    (htrimmed : config.Trimmed) : load environ = .ok config := by
  simp only [WrittenIn, entries, List.forall_mem_append] at h
  obtain ⟨⟨⟨⟨⟨⟨hserver, hlogger⟩, hdeployment⟩, hdb⟩, hmail⟩, hjwt⟩, hauth⟩ := h
  unfold load
  rw [loadServer_written hserver, loadLogger_written hlogger htrimmed.logger,
    loadDeployment_written hdeployment htrimmed.deployment, loadDb_written hdb htrimmed.db,
    loadMail_written hmail htrimmed.mail, loadJwt_written hjwt htrimmed.jwt,
    loadAuth_entries hauth]
  rfl

end

/-! ### What is loaded is trimmed -/

section

variable {environ : Environ}

theorem trimmed_loadLogger {logger : Logger} (h : loadLogger environ = .ok logger) :
    logger.Trimmed := by
  unfold loadLogger at h
  obtain ⟨level, -, h⟩ := ok_of_bind_ok h
  cases h
  exact clean_stringOr (clean_of_known (by simp [knownTexts]))

theorem trimmed_loadDeployment {deployment : Deployment}
    (h : loadDeployment environ = .ok deployment) : deployment.Trimmed := by
  unfold loadDeployment at h
  obtain ⟨environment, -, h⟩ := ok_of_bind_ok h
  cases h
  exact {
    name := clean_stringOr (clean_of_known (by simp [knownTexts]))
    timeZone := clean_stringOr (clean_of_known (by simp [knownTexts])) }

theorem trimmed_loadDb {db : DbSettings} (h : loadDb environ = .ok db) : db.Trimmed := by
  unfold loadDb at h
  obtain ⟨port, -, h⟩ := ok_of_bind_ok h
  obtain ⟨maxConnections, -, h⟩ := ok_of_bind_ok h
  obtain ⟨runMigrations, -, h⟩ := ok_of_bind_ok h
  cases h
  exact {
    host := clean_stringOr (clean_of_known (by simp [knownTexts]))
    database := clean_stringOr (clean_of_known (by simp [knownTexts]))
    username := clean_stringOr (clean_of_known (by simp [knownTexts]))
    password := clean_stringOr (clean_of_known (by simp [knownTexts])) }

theorem empty_or_clean_string (key : String) :
    (string environ key).getD "" = "" ∨ Clean ((string environ key).getD "") := by
  cases hstring : string environ key with
  | none => exact .inl rfl
  | some text => exact .inr (clean_of_string hstring)

theorem trimmed_loadMail {mail : Mail} (h : loadMail environ = .ok mail) : mail.Trimmed := by
  unfold loadMail at h
  obtain ⟨port, -, h⟩ := ok_of_bind_ok h
  cases h
  exact {
    host := clean_stringOr (clean_of_known (by simp [knownTexts]))
    username := empty_or_clean_string _
    password := empty_or_clean_string _
    fromAddress := clean_stringOr (clean_of_known (by simp [knownTexts]))
    fromName := clean_stringOr (clean_of_known (by simp [knownTexts])) }

theorem trimmed_loadJwt {jwt : Jwt} (h : loadJwt environ = .ok jwt) : jwt.Trimmed := by
  unfold loadJwt at h
  obtain ⟨secret, hsecret, h⟩ := ok_of_bind_ok h
  cases h
  refine ⟨secret, ?_, rfl⟩
  unfold required at hsecret
  split at hsecret
  next value hvalue =>
    cases hsecret
    exact clean_of_string hvalue
  next => cases hsecret

theorem trimmed_load {config : AppConfig} (h : load environ = .ok config) : config.Trimmed := by
  unfold load at h
  obtain ⟨server, -, h⟩ := ok_of_bind_ok h
  obtain ⟨logger, hlogger, h⟩ := ok_of_bind_ok h
  obtain ⟨deployment, hdeployment, h⟩ := ok_of_bind_ok h
  obtain ⟨db, hdb, h⟩ := ok_of_bind_ok h
  obtain ⟨mail, hmail, h⟩ := ok_of_bind_ok h
  obtain ⟨jwt, hjwt, h⟩ := ok_of_bind_ok h
  obtain ⟨auth, -, h⟩ := ok_of_bind_ok h
  cases h
  exact {
    logger := trimmed_loadLogger hlogger
    deployment := trimmed_loadDeployment hdeployment
    db := trimmed_loadDb hdb
    mail := trimmed_loadMail hmail
    jwt := trimmed_loadJwt hjwt }

end

/-- The names of the variables. -/
def keys : List String := [
  "APP_PORT", "LOGGER_LEVEL", "LOGGER_DIRECTORY", "APP_NAME", "APP_ENVIRONMENT", "APP_TIMEZONE",
  "DB_HOST", "DB_PORT", "DB_DATABASE", "DB_USERNAME", "DB_PASSWORD", "DB_MAX_CONNECTIONS",
  "DB_RUN_MIGRATIONS", "MAIL_HOST", "MAIL_PORT", "MAIL_USERNAME", "MAIL_PASSWORD",
  "MAIL_FROM_ADDRESS", "MAIL_FROM_NAME", "JWT_SECRET", accessTokenTtl, refreshTokenTtl]

theorem keyed_entries (config : AppConfig) : Keyed config.entries := by
  have hkeys : config.entries.map Prod.fst = keys := rfl
  unfold Keyed
  rw [hkeys]
  decide +kernel

/-- The environment of the entries alone. -/
def written (config : AppConfig) : Environ := fun key => config.entries.lookup key

theorem writtenIn_written (config : AppConfig) : WrittenIn config.written config.entries :=
  fun _ hentry => (keyed_entries config).lookup_eq_some_iff.2 hentry

/-- The configurations that some environment loads are those with trimmed texts; each of them is
    loaded again from every environment it is written in, whatever else is set there. -/
theorem load_round_trip (config : AppConfig) :
    ((∃ environ, load environ = .ok config) ↔ config.Trimmed) ∧
      (config.Trimmed → ∀ environ, WrittenIn environ config.entries → load environ = .ok config) :=
  ⟨⟨fun ⟨_, h⟩ => trimmed_load h, fun h => ⟨_, load_written (writtenIn_written config) h⟩⟩,
    fun h _ hwritten => load_written hwritten h⟩

/-- A configuration without any of the fallbacks. -/
def sampleConfig : AppConfig where
  server := { port := 8080 }
  logger := { level := .warn, directory := "/var/log/api" }
  deployment := { name := "Billing", environment := .production, timeZone := "Europe/London" }
  db :=
    { host := "db.example.com", port := 6432, database := "billing", username := "app user"
      password := "p@ss:w/rd", maxConnections := 25, runMigrations := false }
  mail :=
    { host := "smtp.example.com", port := 587, username := "mailer", password := ""
      fromAddress := "billing@example.com", fromName := "Billing Office" }
  jwt := .new "s3cret"
  auth := { accessTokenTtlInSeconds := 900, refreshTokenTtlInSeconds := 86400 }

instance (text : String) : Decidable (Clean text) := inferInstanceAs (Decidable (_ ∧ _))

theorem trimmed_sampleConfig : sampleConfig.Trimmed where
  logger := by unfold Logger.Trimmed; decide +kernel
  deployment := ⟨by decide +kernel, by decide +kernel⟩
  db := ⟨by decide +kernel, by decide +kernel, by decide +kernel, by decide +kernel⟩
  mail := ⟨by decide +kernel, .inr (by decide +kernel), .inl rfl, by decide +kernel,
    by decide +kernel⟩
  jwt := ⟨"s3cret", by decide +kernel, rfl⟩

theorem load_round_trip_sample :
    load sampleConfig.written = .ok sampleConfig :=
  (load_round_trip sampleConfig).2 trimmed_sampleConfig _ (writtenIn_written sampleConfig)

/-! ### Where loading ends -/

section

variable {T : Type} (environ : Environ) (key : String) (parse : String → Option T)

/-- What is wrong with a variable that is to be parsed; one that counts as unset is left to its
    fallback. -/
def unparseable : Option Error :=
  (string environ key).bind fun value =>
    if (parse value).isSome then none else some (.invalid key value)

/-- What is wrong with a variable that has no fallback. -/
def absent : Option Error := if (string environ key).isSome then none else some (.missing key)

/-- What is wrong with an environment, in the order in which it is read. -/
def complaints : List (Option Error) := [
  unparseable environ "APP_PORT" parseU16,
  unparseable environ "LOGGER_LEVEL" LogLevel.fromStr,
  unparseable environ "APP_ENVIRONMENT" Environment.fromStr,
  unparseable environ "DB_PORT" parseU16,
  unparseable environ "DB_MAX_CONNECTIONS" parseU32,
  unparseable environ "DB_RUN_MIGRATIONS" parseBoolean,
  unparseable environ "MAIL_PORT" parseU16,
  absent environ "JWT_SECRET",
  unparseable environ accessTokenTtl parseI64,
  unparseable environ refreshTokenTtl parseI64]

end

section

variable {ε α β T : Type} {environ : Environ} {key : String}

def failure : Except ε α → Option ε
  | .error err => some err
  | .ok _ => none

theorem failure_eq_some_iff {r : Except ε α} {err : ε} : failure r = some err ↔ r = .error err := by
  cases r <;> simp [failure]

/-- The failures of a chain whose later steps fail alike, whatever the earlier ones return. -/
theorem failure_bind {r : Except ε α} {f : α → Except ε β} {later : Option ε}
    (h : ∀ a, failure (f a) = later) : failure (r >>= f) = (failure r).or later := by
  cases r with
  | error err => rfl
  | ok a => exact h a

theorem failure_map {r : Except ε α} (f : α → β) :
    failure (r >>= fun a => pure (f a)) = failure r := by
  cases r <;> rfl

theorem failure_parsedOr {parse : String → Option T} {fallback : T} :
    failure (parsedOr environ key parse fallback) = unparseable environ key parse := by
  unfold parsedOr parsed unparseable
  cases string environ key with
  | none => rfl
  | some value =>
    dsimp only [Option.bind_some]
    cases parse value <;> rfl

theorem failure_required : failure (required environ key) = absent environ key := by
  unfold required absent
  cases string environ key <;> rfl

theorem failure_loadDb : failure (loadDb environ) =
    (unparseable environ "DB_PORT" parseU16).or
      ((unparseable environ "DB_MAX_CONNECTIONS" parseU32).or
        (unparseable environ "DB_RUN_MIGRATIONS" parseBoolean)) := by
  have hport : failure (u16Or environ "DB_PORT" 5432) = _ := failure_parsedOr
  have hconnections : failure (u32Or environ "DB_MAX_CONNECTIONS" 10) = _ := failure_parsedOr
  have hmigrations : failure (booleanOr environ "DB_RUN_MIGRATIONS" true) = _ :=
    (congrArg failure (booleanOr_eq ..)).trans failure_parsedOr
  unfold loadDb
  rw [failure_bind fun _ => failure_bind fun _ => failure_map _, hport, hconnections, hmigrations]

theorem failure_loadAuth : failure (loadAuth environ) =
    (unparseable environ accessTokenTtl parseI64).or
      (unparseable environ refreshTokenTtl parseI64) := by
  have haccess : failure (i64Or environ accessTokenTtl 3600) = _ := failure_parsedOr
  have hrefresh : failure (i64Or environ refreshTokenTtl 604800) = _ := failure_parsedOr
  unfold loadAuth
  rw [failure_bind fun _ => failure_map _, haccess, hrefresh]

theorem findSome_cons (c : Option ε) (cs : List (Option ε)) :
    (c :: cs).findSome? id = c.or (cs.findSome? id) := by
  cases c <;> rfl

theorem failure_load : failure (load environ) = (complaints environ).findSome? id := by
  have hserver : failure (loadServer environ) = unparseable environ "APP_PORT" parseU16 :=
    (failure_map _).trans failure_parsedOr
  have hlogger : failure (loadLogger environ) =
      unparseable environ "LOGGER_LEVEL" LogLevel.fromStr := (failure_map _).trans failure_parsedOr
  have hdeployment : failure (loadDeployment environ) =
      unparseable environ "APP_ENVIRONMENT" Environment.fromStr :=
    (failure_map _).trans failure_parsedOr
  have hmail : failure (loadMail environ) = unparseable environ "MAIL_PORT" parseU16 :=
    (failure_map _).trans failure_parsedOr
  have hjwt : failure (loadJwt environ) = absent environ "JWT_SECRET" :=
    (failure_map _).trans failure_required
  unfold load
  rw [failure_bind fun _ => failure_bind fun _ => failure_bind fun _ => failure_bind fun _ =>
    failure_bind fun _ => failure_bind fun _ => failure_map _, hserver, hlogger, hdeployment,
    failure_loadDb, hmail, hjwt, failure_loadAuth]
  simp only [complaints, findSome_cons, List.findSome?_nil, Option.or_assoc, Option.or_none]

end

/-- The variables that are parsed. -/
def parsedKeys : List String := [
  "APP_PORT", "LOGGER_LEVEL", "APP_ENVIRONMENT", "DB_PORT", "DB_MAX_CONNECTIONS",
  "DB_RUN_MIGRATIONS", "MAIL_PORT", accessTokenTtl, refreshTokenTtl]

/-- As the loading can tell them apart, if they fail. -/
structure SameChecked (environ environ' : Environ) : Prop where
  parsed : ∀ key ∈ parsedKeys, string environ' key = string environ key
  secret : (string environ' "JWT_SECRET").isSome = (string environ "JWT_SECRET").isSome

theorem complaints_of_sameChecked {environ environ' : Environ} (h : SameChecked environ environ') :
    complaints environ' = complaints environ := by
  have hparsed := h.parsed
  simp only [parsedKeys, List.forall_mem_cons] at hparsed
  obtain ⟨h₁, h₂, h₃, h₄, h₅, h₆, h₇, h₈, h₉, -⟩ := hparsed
  simp only [complaints, unparseable, absent, h₁, h₂, h₃, h₄, h₅, h₆, h₇, h₈, h₉, h.secret]

/-- `load` ends with the first complaint, in the order in which the variables are read, and so for
    every environment that differs only in the texts that are not parsed: the credentials of the
    database and of the mail server have no part in it, and of the secret only that it is there. -/
theorem load_error_iff (environ : Environ) :
    (∀ err, load environ = .error err ↔ (complaints environ).findSome? id = some err) ∧
      ∀ environ', SameChecked environ environ' →
        ∀ err, load environ' = .error err ↔ load environ = .error err := by
  have hload : ∀ environ err,
      load environ = .error err ↔ (complaints environ).findSome? id = some err := by
    intro environ err
    rw [← failure_load, failure_eq_some_iff]
  refine ⟨hload environ, fun environ' hsame err => ?_⟩
  rw [hload, hload, complaints_of_sameChecked hsame]

/-- A port out of range, and a password that is not mentioned. -/
theorem load_error_iff_sample :
    load (fun key => if key = "DB_PASSWORD" then some (utf8 "hunter2".toList)
      else Environ.only "APP_PORT" (utf8 "70000".toList) key) =
      .error (.invalid "APP_PORT" "70000") :=
  ((load_error_iff (.only "APP_PORT" (utf8 "70000".toList))).2 _
    { parsed := by decide +kernel
      secret := rfl } _).2 rfl

end AppConfig

end ApiStarter.Config
