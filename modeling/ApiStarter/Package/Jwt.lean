import Mathlib.Data.List.Basic

/-
  `package/jwt/mod.rs`: claims, signing and validation.

  The signature scheme itself (`jsonwebtoken::encode` / `decode` under the configured secret)
  is the parameter `JwtLibrary`. `validateToken` adds what the validation options of the
  source ask for: the `exp` claim is required, and there is no grace period on expiry.
-/

namespace ApiStarter.Jwt

/-- The `serde_json::Value`s the claims hold; `other` is any value this program never writes. -/
inductive Value where
  | str (s : String)
  | strs (ss : List String)
  | num (n : Int)
  | other
  deriving DecidableEq, Repr

def Value.asStr : Value → Option String
  | .str s => some s
  | _ => none

/-- A `BTreeMap<String, Value>` as its list of entries. -/
abbrev Claims := List (String × Value)

namespace Claims

def get (key : String) : Claims → Option Value
  | [] => none
  | (k, v) :: rest => if k = key then some v else get key rest

def remove (key : String) (claims : Claims) : Claims := claims.filter fun kv => kv.1 ≠ key

def insert (key : String) (value : Value) (claims : Claims) : Claims :=
  (key, value) :: remove key claims

theorem get_remove_ne {key key' : String} (h : key' ≠ key) (claims : Claims) :
    get key' (remove key claims) = get key' claims := by
  induction claims with
  | nil => rfl
  | cons kv rest ih =>
    obtain ⟨k, v⟩ := kv
    have hcons : remove key ((k, v) :: rest) =
        if k ≠ key then (k, v) :: remove key rest else remove key rest := by
      simp only [remove, List.filter_cons, decide_eq_true_eq]
    rw [hcons]
    by_cases hk : k = key
    · subst hk
      rw [if_neg (by simp), ih, get, if_neg (Ne.symm h)]
    · rw [if_pos hk, get, get, ih]

@[simp] theorem get_insert_self (key : String) (value : Value) (claims : Claims) :
    get key (insert key value claims) = some value := by
  simp [get, insert]

theorem get_insert_ne {key key' : String} (h : key' ≠ key) (value : Value) (claims : Claims) :
    get key' (insert key value claims) = get key' claims := by
  rw [insert, get, if_neg (Ne.symm h), get_remove_ne h]

end Claims

inductive JwtError where
  | sign (reason : String)
  | parse (reason : String)
  deriving DecidableEq, Repr

def JwtError.text : JwtError → String
  | .sign reason => "error encountered when signing jwt token: " ++ reason
  | .parse reason => "error parsing jwt token: " ++ reason

/-- `jsonwebtoken` under one secret: `decode` checks the signature and the format. -/
structure JwtLibrary where
  encode : Claims → Except String String
  decode : String → Except String Claims

/-- The library signs every claim set and decodes exactly what it encoded. -/
def JwtLibrary.RoundTrips (jwt : JwtLibrary) : Prop :=
  ∀ claims, ∃ token, jwt.encode claims = .ok token ∧ jwt.decode token = .ok claims

/-- `HmacTokenGenerator::generate_token`; `expiresAt` is an absolute unix timestamp. -/
def generateToken (jwt : JwtLibrary) (claims : Claims) (expiresAt : Int) :
    Except JwtError String :=
  (jwt.encode (claims.insert "exp" (.num expiresAt))).mapError .sign

/-- `HmacTokenGenerator::validate_token` at unix time `now`. -/
def validateToken (jwt : JwtLibrary) (now : Int) (token : String) : Except JwtError Claims :=
  match jwt.decode token with
  | .error reason => .error (.parse reason)
  | .ok claims =>
    match claims.get "exp" with
    | some (.num exp) =>
      if exp < now then .error (.parse "ExpiredSignature") else .ok (claims.remove "exp")
    | _ => .error (.parse "Missing required claim: exp")

theorem generateToken_ok {jwt : JwtLibrary} (hjwt : jwt.RoundTrips) (claims : Claims)
    (expiresAt : Int) :
    ∃ token, generateToken jwt claims expiresAt = .ok token ∧
      jwt.decode token = .ok (claims.insert "exp" (.num expiresAt)) := by
  obtain ⟨token, henc, hdec⟩ := hjwt (claims.insert "exp" (.num expiresAt))
  exact ⟨token, by simp [generateToken, henc, Except.mapError], hdec⟩

/-- Validation of a token whose claims carry `exp = expiresAt`: rejected exactly when that
    second has passed, and otherwise the claims come back. -/
theorem validateToken_of_decode {jwt : JwtLibrary} {claims : Claims} {expiresAt : Int}
    {token : String} (hdec : jwt.decode token = .ok (claims.insert "exp" (.num expiresAt)))
    (now : Int) :
    validateToken jwt now token =
      if expiresAt < now then .error (.parse "ExpiredSignature")
      else .ok ((claims.insert "exp" (.num expiresAt)).remove "exp") := by
  simp only [validateToken, hdec, Claims.get_insert_self]

end ApiStarter.Jwt
