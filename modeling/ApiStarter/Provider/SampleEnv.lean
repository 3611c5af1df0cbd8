import ApiStarter.Provider.System

/-
  A small environment on which the services can be evaluated.

  Tokens, ids and hashes are short texts here, but the libraries keep the laws the theorems
  assume: the token library decodes what it encoded, ids parse back, a hash verifies its own
  password, tokens are fresh and their digests differ, and a value longer than its column is
  rejected.
-/

namespace ApiStarter.Provider

open ApiStarter.Auth ApiStarter.Database ApiStarter.Effect ApiStarter.Iam ApiStarter.Jwt

/-! ## Lists of words as one text -/

/-- Every character is quoted by an `x`, every word ends in a dot. -/
def joinWords (words : List (List Char)) : List Char :=
  words.flatMap fun word => (word.flatMap fun c => ['x', c]) ++ ['.']

def splitWords (word : List Char) : List Char → List (List Char)
  | 'x' :: c :: rest => splitWords (word ++ [c]) rest
  | '.' :: rest => word :: splitWords [] rest
  | _ => []

theorem splitWords_word (start word rest : List Char) :
    splitWords start ((word.flatMap fun c => ['x', c]) ++ '.' :: rest) =
      (start ++ word) :: splitWords [] rest := by
  induction word generalizing start with
  | nil => simp [splitWords]
  | cons c word ih =>
    simp only [List.flatMap_cons, List.cons_append, List.nil_append, splitWords]
    rw [ih]
    simp

theorem splitWords_joinWords (words : List (List Char)) :
    splitWords [] (joinWords words) = words := by
  induction words with
  | nil => rfl
  | cons word words ih =>
    have hcons : joinWords (word :: words) =
        (word.flatMap fun c => ['x', c]) ++ '.' :: joinWords words := by
      simp [joinWords]
    rw [hcons, splitWords_word, ih]
    rfl

/-! ## The token library -/

def encodeInt : Int → List Char
  | .ofNat n => '+' :: List.replicate n 'i'
  | .negSucc n => '-' :: List.replicate n 'i'

def decodeInt : List Char → Int
  | '-' :: rest => .negSucc rest.length
  | _ :: rest => .ofNat rest.length
  | [] => 0

theorem decodeInt_encodeInt (n : Int) : decodeInt (encodeInt n) = n := by
  cases n <;> simp [encodeInt, decodeInt]

def encodeValue : Value → List Char
  | .str s => 's' :: s.toList
  | .strs ss => 'a' :: joinWords (ss.map String.toList)
  | .num n => 'n' :: encodeInt n
  | .other => ['o']

def decodeValue : List Char → Value
  | 's' :: rest => .str (String.ofList rest)
  | 'a' :: rest => .strs ((splitWords [] rest).map String.ofList)
  | 'n' :: rest => .num (decodeInt rest)
  | _ => .other

theorem decodeValue_encodeValue (v : Value) : decodeValue (encodeValue v) = v := by
  cases v with
  | str s => simp [encodeValue, decodeValue]
  | strs ss => simp [encodeValue, decodeValue, splitWords_joinWords, Function.comp_def]
  | num n => simp [encodeValue, decodeValue, decodeInt_encodeInt]
  | other => rfl

def encodeClaims (claims : Claims) : List Char :=
  joinWords (claims.flatMap fun kv => [kv.1.toList, encodeValue kv.2])

def pairWords : List (List Char) → Claims
  | key :: value :: rest => (String.ofList key, decodeValue value) :: pairWords rest
  | _ => []

theorem pairWords_encode (claims : Claims) :
    pairWords (claims.flatMap fun kv => [kv.1.toList, encodeValue kv.2]) = claims := by
  induction claims with
  | nil => rfl
  | cons kv rest ih => simp [pairWords, decodeValue_encodeValue, ih]

/-- Signed texts start with `j`. -/
def sampleJwt : JwtLibrary where
  encode claims := .ok (String.ofList ('j' :: encodeClaims claims))
  decode token :=
    match token.toList with
    | 'j' :: rest => .ok (pairWords (splitWords [] rest))
    | _ => .error "InvalidToken"

theorem sampleJwt_roundTrips : sampleJwt.RoundTrips := by
  intro claims
  refine ⟨_, rfl, ?_⟩
  simp [sampleJwt, encodeClaims, splitWords_joinWords, pairWords_encode]

/-! ## The other libraries -/

/-- The bytes of a password that are hashed, as characters other than NUL. -/
def keyWord (password : String) : List Char :=
  ((Text.utf8 password.toList ++ [0]).take 72).map fun b : UInt8 => Char.ofNat (b.toNat + 32)

theorem repeated_keyWord_eq_iff {p q : String} :
    Text.repeated 72 (keyWord p) = Text.repeated 72 (keyWord q) ↔ bcryptKey p = bcryptKey q := by
  unfold keyWord bcryptKey
  rw [Text.repeated_map, Text.repeated_map, Text.repeated_take, Text.repeated_take]
  refine ⟨fun h => ?_, congrArg _⟩
  refine List.map_injective_iff.2 (fun b b' hb => ?_) h
  have hvalid : ∀ b : UInt8, (Char.ofNat (b.toNat + 32)).toNat = b.toNat + 32 := by
    intro b
    have hbyte : (b.toNat + 32).isValidChar := .inl (by have := b.toNat_lt; omega)
    rw [Char.ofNat, dif_pos hbyte]
    rfl
  have hshifted : b.toNat + 32 = b'.toNat + 32 := by rw [← hvalid b, ← hvalid b', hb]
  exact UInt8.toNat_inj.1 (Nat.add_right_cancel hshifted)

/-- A hash is the salt and the hashed bytes in plain text. -/
def sampleCrypto : CryptoLibrary where
  bcryptHash salt password :=
    .ok (String.ofList (joinWords [salt.toList.take 16, keyWord password]))
  bcryptVerify password hashed :=
    match splitWords [] hashed.toList with
    | [_, word] => .ok (word == keyWord password ||
        Text.repeated 72 word == Text.repeated 72 (keyWord password))
    | _ => .error "InvalidHash"
  sha256Hex token := "sha256:" ++ token

theorem sampleCrypto_readsKey : sampleCrypto.ReadsKey := by
  intro salt password hashed h password'
  cases h
  simp only [sampleCrypto, String.toList_ofList, splitWords_joinWords, Except.ok.injEq]
  rw [Bool.eq_iff_iff, Bool.or_eq_true, beq_iff_eq, beq_iff_eq, beq_iff_eq,
    or_iff_right_of_imp (congrArg (Text.repeated 72)), repeated_keyWord_eq_iff, eq_comm]

theorem sampleCrypto_verifies : sampleCrypto.Verifies := by
  intro salt password hashed h
  rw [sampleCrypto_readsKey salt password hashed h password, beq_self_eq_true]

theorem sampleCrypto_fits : sampleCrypto.Fits := by
  intro salt password hashed h
  cases h
  have hsalt : (salt.toList.take 16).length ≤ 16 := List.length_take_le 16 _
  have hkey : (keyWord password).length ≤ 72 := by
    rw [keyWord, List.length_map]
    exact List.length_take_le 72 _
  have hquoted : ∀ word : List Char, (word.flatMap fun c => ['x', c]).length = 2 * word.length := by
    intro word
    simp [List.length_flatMap, Nat.mul_comm]
  simp only [String.length_ofList, joinWords, List.flatMap_cons, List.flatMap_nil,
    List.length_append, hquoted, List.length_singleton, List.length_nil]
  omega

def sampleUuids : UuidLibrary where
  toString id := String.ofList (List.replicate id.toNat 'i')
  parseStr s :=
    if s.toList.all (· == 'i') then some (BitVec.ofNat 128 s.toList.length) else none

theorem sampleUuids_roundTrips : sampleUuids.RoundTrips := by
  intro id
  simp [sampleUuids]

def samplePostgres : Postgres where
  varchar n s :=
    if (s.toList.drop n).all (· == ' ') then .ok (cut n s)
    else .error (.database "22001" s!"value too long for type character varying({n})")
  collate x y := decide (@LE.le (List Char) List.instLE x.toList y.toList)
  lower s := String.ofList (s.toList.map Char.toLower)
  scan _ positions := positions

theorem samplePostgres_rejectsLonger : samplePostgres.RejectsLonger := fun _ _ => rfl

theorem samplePostgres_orders : samplePostgres.Orders where
  total x y := by
    simp only [samplePostgres, decide_eq_true_eq]
    exact List.le_total x.toList y.toList
  trans x y z hxy hyz := by
    simp only [samplePostgres, decide_eq_true_eq] at hxy hyz ⊢
    exact List.le_trans hxy hyz

def sampleEnv : Env where
  pg := samplePostgres
  unicode := {
    isUppercase := Char.isUpper
    isLowercase := Char.isLower
    isAlphanumeric := Char.isAlphanum
    isWhitespace := Char.isWhitespace }
  jwt := sampleJwt
  crypto := sampleCrypto
  uuids := sampleUuids
  randomToken n := String.ofList ('t' :: List.replicate n 'k')
  salt n := String.ofList (List.replicate n 's')
  newId n := BitVec.ofNat 128 (n + 2)

theorem sampleEnv_freshTokens : sampleEnv.FreshTokens := by
  intro n m h
  have hlist := congrArg String.toList h
  simpa [sampleEnv, sampleCrypto] using congrArg List.length hlist

theorem sampleEnv_noCollision (token : String) : sampleEnv.NoCollision token := by
  intro n h
  exact String.append_right_inj _ |>.1 h

/-- The id of the administrator the migrations insert. -/
def sampleAdmin : Uuid := 1

/-- The world right after the migrations, at time zero. -/
def sampleWorld : World := World.init (Db.seed sampleAdmin) 0

def sampleConfig : AuthConfig := { tokenTtl := 2, refreshTokenTtl := 5 }

def sampleUser (userName email : String) : CreateUser where
  userName := userName
  avatarId := ""
  email := email
  password := "Str0ng-Pass"
  firstName := "Ada"
  lastName := "Byron"
  status := 0
  departmentId := 1
  roles := []

/-- What a call leaves in the sample environment, with no statement and no mail failing. -/
def sampleAfter (c : Call) (w : World) : World :=
  (perform sampleEnv sampleConfig Faults.none c w).2

theorem step_sampleAfter {c : Call} {outcome : c.Outcome} {w : World}
    (h : (perform sampleEnv sampleConfig Faults.none c w).1 = outcome) :
    Step sampleEnv sampleConfig Faults.none w (.called c outcome) (sampleAfter c w) :=
  .called (Prod.ext h rfl)

/-- Ada signs up; her id is 2. -/
def signedUp : World :=
  sampleAfter (.createUser (sampleUser "ada" "ada@example.com")) sampleWorld

theorem signedUp_run : ∃ before,
    Run (Step sampleEnv sampleConfig Faults.none) sampleWorld before signedUp :=
  ⟨_, .cons (.called (c := .createUser (sampleUser "ada" "ada@example.com")) rfl) (.nil _)⟩

end ApiStarter.Provider
