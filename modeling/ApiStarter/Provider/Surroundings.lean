import ApiStarter.Effect.Prog
import ApiStarter.Module.Iam.Statement
import ApiStarter.Package.Auth.Store
import ApiStarter.Package.Jwt
import ApiStarter.Package.Rbac.Store
import ApiStarter.Text.Utf8

/-
  What the services ask of their surroundings, and how the surroundings answer.

  `Op` lists the operations: the methods of the three stores (one operation each for the
  traits `auth::Store` and `rbac::Store`, one for each SQL statement of the repositories), the
  transaction, the clock, the random sources, the token generator and the mailer.

  `World` is the state behind them: the committed database, the copy an open transaction works
  on, the clock, how many values each random source has given, and what has been signed and
  mailed. `exec` answers one operation. `Faults` says which statements and mails fail; a
  failing operation has no effect, except that a failing commit ends its transaction.

  `Env` is the code the repository depends on and does not contain.
-/

namespace ApiStarter.Provider

open ApiStarter.Database ApiStarter.Effect ApiStarter.Iam ApiStarter.Auth ApiStarter.Jwt
open ApiStarter.Rbac (PostgresRbacStore.getRoles PostgresRbacStore.getPermissions
  PostgresRbacStore.hasPermission)

/-! ## Libraries -/

/-- `bcrypt` and `sha2`, the latter with its `hex` encoding. -/
structure CryptoLibrary where
  bcryptHash : (salt password : String) → Except String String
  bcryptVerify : (password hashed : String) → Except String Bool
  sha256Hex : String → String

/-- A hash made by `bcrypt` verifies the password it was made of. -/
def CryptoLibrary.Verifies (crypto : CryptoLibrary) : Prop :=
  ∀ salt password hashed, crypto.bcryptHash salt password = .ok hashed →
    crypto.bcryptVerify password hashed = .ok true

/-- What `bcrypt` reads of a password: 72 bytes of its zero-terminated UTF-8 form, which starts
    again where it ends before them. -/
def bcryptKey (password : String) : List UInt8 :=
  Text.repeated 72 (Text.utf8 password.toList ++ [0])

/-- A hash verifies exactly the passwords that `bcrypt` reads as the one it was made of. -/
def CryptoLibrary.ReadsKey (crypto : CryptoLibrary) : Prop :=
  ∀ salt password hashed, crypto.bcryptHash salt password = .ok hashed →
    ∀ password', crypto.bcryptVerify password' hashed =
      .ok (bcryptKey password' == bcryptKey password)

/-- A hash is short enough for the password column. -/
def CryptoLibrary.Fits (crypto : CryptoLibrary) : Prop :=
  ∀ salt password hashed, crypto.bcryptHash salt password = .ok hashed → hashed.length ≤ 255

structure UuidLibrary where
  toString : Uuid → String
  parseStr : String → Option Uuid

/-- Parsing gives back the printed id. -/
def UuidLibrary.RoundTrips (uuids : UuidLibrary) : Prop :=
  ∀ id, uuids.parseStr (uuids.toString id) = some id

/-- The character classes of `char`. -/
structure UnicodeLibrary where
  isUppercase : Char → Bool
  isLowercase : Char → Bool
  isAlphanumeric : Char → Bool
  isWhitespace : Char → Bool

structure Env where
  pg : Postgres
  unicode : UnicodeLibrary
  jwt : JwtLibrary
  crypto : CryptoLibrary
  uuids : UuidLibrary
  /-- The `n`-th value of `crypto::random_token`. -/
  randomToken : Nat → String
  /-- The `n`-th salt `bcrypt` draws. -/
  salt : Nat → String
  /-- The `n`-th value of `uuid_generate_v4`. -/
  newId : Nat → Uuid

/-- `random_token` is fresh, and the digests of the tokens it gives do not collide. -/
def Env.FreshTokens (env : Env) : Prop :=
  Function.Injective fun n => env.crypto.sha256Hex (env.randomToken n)

/-- The digest of a presented token is that of an issued one only if it is that token. -/
def Env.NoCollision (env : Env) (token : String) : Prop :=
  ∀ n, env.crypto.sha256Hex token = env.crypto.sha256Hex (env.randomToken n) →
    token = env.randomToken n

/-! ## Operations -/

structure Mail where
  recipient : String
  subject : String
  template : String
  data : List (String × String)
  deriving DecidableEq, Repr

inductive Op where
  | findUserById (userId : Uuid)
  | findUserByEmail (email : String)
  | createPasswordReset (email token : String)
  | resetPassword (email newPassword : String)
  | findPasswordByToken (token : String)
  | deletePasswordReset (email : String)
  | getRoles (userId : Uuid)
  | getPermissions (userId : Uuid)
  | hasPermission (userId : Uuid) (resource permission : String)
  | selectUserById (userId : Uuid)
  | selectUserByUserName (userName : String)
  | selectUserByEmail (email : String)
  | selectUserRoles (userId : Uuid)
  | countUsers (conditions : List Condition)
  | selectUsers (conditions : List Condition) (column : SortColumn) (order : SortOrder)
      (limit offset : Int64)
  | selectPermissions
  | begin
  | insertUser (user : CreateUser)
  | updateUser (sets : List SetClause) (userId : Uuid)
  | insertUserRoles (userId : Uuid) (names : List String)
  | deleteUserRoles (userId : Uuid) (names : List String)
  | commit
  | rollback
  | utcNow
  | randomToken
  | salt
  | jwtGenerate (claims : Claims) (expiresAt : Int)
  | jwtValidate (token : String)
  | sendHtml (mail : Mail)

@[reducible] def Res : Op → Type
  | .findUserById _ => Except SqlxError (Option Identity)
  | .findUserByEmail _ => Except SqlxError (Option Identity)
  | .createPasswordReset _ _ => Except SqlxError Unit
  | .resetPassword _ _ => Except SqlxError Unit
  | .findPasswordByToken _ => Except SqlxError (Option PasswordResetRow)
  | .deletePasswordReset _ => Except SqlxError Unit
  | .getRoles _ => Except SqlxError (List String)
  | .getPermissions _ => Except SqlxError (List Rbac.Permission)
  | .hasPermission _ _ _ => Except SqlxError Bool
  | .selectUserById _ => Except SqlxError (Option JoinedUser)
  | .selectUserByUserName _ => Except SqlxError (Option JoinedUser)
  | .selectUserByEmail _ => Except SqlxError (Option JoinedUser)
  | .selectUserRoles _ => Except SqlxError (List RoleRow)
  | .countUsers _ => Except SqlxError Int64
  | .selectUsers _ _ _ _ _ => Except SqlxError (List JoinedUser)
  | .selectPermissions => Except SqlxError (List JoinedPermission)
  | .begin => Except SqlxError Unit
  | .insertUser _ => Except SqlxError Uuid
  | .updateUser _ _ => Except SqlxError Unit
  | .insertUserRoles _ _ => Except SqlxError Unit
  | .deleteUserRoles _ _ => Except SqlxError Unit
  | .commit => Except SqlxError Unit
  | .rollback => Unit
  | .utcNow => Timestamp
  | .randomToken => String
  | .salt => String
  | .jwtGenerate _ _ => Except JwtError String
  | .jwtValidate _ => Except JwtError Claims
  | .sendHtml _ => Except String Unit

/-- A program of this system. -/
abbrev Service (ε : Type) := Fallible Op Res ε

/-! ## The state behind the operations -/

/-- A token the generator has signed. -/
structure Signed where
  claims : Claims
  expiresAt : Int
  token : String
  deriving DecidableEq, Repr

structure World where
  db : Db
  tx : Option Db
  clock : Timestamp
  statements : Nat
  mailsTried : Nat
  tokensDrawn : Nat
  saltsDrawn : Nat
  idsDrawn : Nat
  signed : List Signed
  mails : List Mail
  deriving DecidableEq, Repr

def World.init (db : Db) (clock : Timestamp) : World :=
  { db := db, tx := none, clock := clock, statements := 0, mailsTried := 0, tokensDrawn := 0,
    saltsDrawn := 0, idsDrawn := 0, signed := [], mails := [] }

/-! ## Time -/

/-- `DateTime::timestamp`: whole seconds since the epoch. -/
def unixSeconds (t : Timestamp) : Int := t / 1000000

/-- `i64::MAX / 1000`, the most seconds a `chrono::Duration` holds. -/
def maxDurationSeconds : Int := 9223372036854775

/-- `t + Duration::seconds(seconds)`, which panics outside the range of a `Duration` or of a
    `DateTime<Utc>`. -/
def addSeconds (t : Timestamp) (seconds : Int) : Option Timestamp :=
  if -maxDurationSeconds ≤ seconds ∧ seconds ≤ maxDurationSeconds then
    let sum := t + seconds * 1000000
    if -8334601228800000000 ≤ sum ∧ sum ≤ 8210266876799999999 then some sum else none
  else none

/-- `t + Duration::minutes(minutes)`. -/
def addMinutes (t : Timestamp) (minutes : Int) : Timestamp := t + minutes * 60000000

/-- Which statements and mails fail, and with what. A lookup by a text that PostgreSQL cannot take,
    as one with a NUL, is a statement that fails. -/
structure Faults where
  store : Nat → Option SqlxError
  mailer : Nat → Option String

/-- No statement and no mail fails. -/
def Faults.none : Faults := { store := fun _ => Option.none, mailer := fun _ => Option.none }

/-! ## Answering an operation -/

/-- One SQL statement: either it fails and has no effect, or it is carried out. -/
def statement {α : Type} (faults : Faults) (w : World)
    (f : World → Except SqlxError (α × World)) : Except SqlxError α × World :=
  let counted := { w with statements := w.statements + 1 }
  match faults.store w.statements with
  | some err => (.error err, counted)
  | none =>
    match f counted with
    | .error err => (.error err, counted)
    | .ok (a, w') => (.ok a, w')

/-- A query on the pool, which sees what is committed. -/
def query {α : Type} (faults : Faults) (w : World) (f : Db → Except SqlxError α) :
    Except SqlxError α × World :=
  statement faults w fun w => (f w.db).map fun a => (a, w)

/-- A statement on the pool, committed at once. -/
def executeOnPool (faults : Faults) (w : World) (f : Db → Db) : Except SqlxError Unit × World :=
  statement faults w fun w => .ok ((), { w with db := f w.db })

/-- A statement inside the open transaction. -/
def executeInTx {α : Type} (faults : Faults) (w : World) (f : Db → Except SqlxError (α × Db)) :
    Except SqlxError α × World :=
  statement faults w fun w =>
    match w.tx with
    | none => .error (.other "no transaction is open")
    | some db => (f db).map fun r => (r.1, { w with tx := some r.2 })

def commit (faults : Faults) (w : World) : Except SqlxError Unit × World :=
  let closed := { w with statements := w.statements + 1, tx := none }
  match faults.store w.statements with
  | some err => (.error err, closed)
  | none => (.ok (), { closed with db := w.tx.getD w.db })

def sendHtml (faults : Faults) (w : World) (mail : Mail) : Except String Unit × World :=
  let tried := { w with mailsTried := w.mailsTried + 1 }
  match faults.mailer w.mailsTried with
  | some err => (.error err, tried)
  | none => (.ok (), { tried with mails := w.mails ++ [mail] })

def jwtGenerate (env : Env) (w : World) (claims : Claims) (expiresAt : Int) :
    Except JwtError String × World :=
  match generateToken env.jwt claims expiresAt with
  | .error err => (.error err, w)
  | .ok token => (.ok token, { w with signed := w.signed ++ [⟨claims, expiresAt, token⟩] })

/-- How the surroundings answer one operation. -/
def exec (env : Env) (faults : Faults) : Handler Op Res World
  | .findUserById userId, w =>
    query faults w fun db => .ok (PostgresAuthStore.findUserById db userId)
  | .findUserByEmail email, w =>
    query faults w fun db => .ok (PostgresAuthStore.findUserByEmail db email)
  | .createPasswordReset email token, w =>
    executeOnPool faults w (PostgresAuthStore.createPasswordReset w.clock email token)
  | .resetPassword email newPassword, w =>
    executeOnPool faults w (PostgresAuthStore.resetPassword email newPassword)
  | .findPasswordByToken token, w =>
    query faults w fun db => .ok (PostgresAuthStore.findPasswordByToken db token)
  | .deletePasswordReset email, w =>
    executeOnPool faults w (PostgresAuthStore.deletePasswordReset email)
  | .getRoles userId, w => query faults w fun db => .ok (PostgresRbacStore.getRoles db userId)
  | .getPermissions userId, w =>
    query faults w fun db => PostgresRbacStore.getPermissions db userId
  | .hasPermission userId resource permission, w =>
    query faults w fun db =>
      .ok (PostgresRbacStore.hasPermission db userId resource permission)
  | .selectUserById userId, w => query faults w fun db => .ok (selectUserById db userId)
  | .selectUserByUserName userName, w =>
    query faults w fun db => .ok (selectUserByUserName db userName)
  | .selectUserByEmail email, w => query faults w fun db => .ok (selectUserByEmail db email)
  | .selectUserRoles userId, w => query faults w fun db => .ok (selectUserRoles db userId)
  | .countUsers conditions, w => query faults w fun db => countUsers env.pg db conditions
  | .selectUsers conditions column order limit offset, w =>
    query faults w fun db =>
      selectUsers env.pg w.statements db conditions column order limit offset
  | .selectPermissions, w => query faults w fun db => .ok (selectPermissions db)
  | .begin, w => statement faults w fun w => .ok ((), { w with tx := some w.db })
  | .insertUser user, w =>
    executeInTx faults { w with idsDrawn := w.idsDrawn + 1 }
      (insertUser env.pg (env.newId w.idsDrawn) user)
  | .updateUser sets userId, w =>
    executeInTx faults w fun db => (updateUser env.pg sets userId db).map fun db => ((), db)
  | .insertUserRoles userId names, w =>
    executeInTx faults w fun db => (insertUserRoles userId names db).map fun db => ((), db)
  | .deleteUserRoles userId names, w =>
    executeInTx faults w fun db => (deleteUserRoles userId names db).map fun db => ((), db)
  | .commit, w => commit faults w
  | .rollback, w => ((), { w with tx := none })
  | .utcNow, w => (w.clock, w)
  | .randomToken, w =>
    (env.randomToken w.tokensDrawn, { w with tokensDrawn := w.tokensDrawn + 1 })
  | .salt, w => (env.salt w.saltsDrawn, { w with saltsDrawn := w.saltsDrawn + 1 })
  | .jwtGenerate claims expiresAt, w => jwtGenerate env w claims expiresAt
  | .jwtValidate token, w => (validateToken env.jwt (unixSeconds w.clock) token, w)
  | .sendHtml mail, w => sendHtml faults w mail

section

variable (env : Env) (faults : Faults) (w : World)

@[simp] theorem exec_utcNow : exec env faults .utcNow w = (w.clock, w) := rfl

@[simp] theorem exec_jwtValidate (token : String) : exec env faults (.jwtValidate token) w =
    (validateToken env.jwt (unixSeconds w.clock) token, w) := rfl

@[simp] theorem exec_randomToken : exec env faults .randomToken w =
    (env.randomToken w.tokensDrawn, { w with tokensDrawn := w.tokensDrawn + 1 }) := rfl

@[simp] theorem exec_salt : exec env faults .salt w =
    (env.salt w.saltsDrawn, { w with saltsDrawn := w.saltsDrawn + 1 }) := rfl

end

end ApiStarter.Provider
