import ApiStarter.Package.Pagination
import ApiStarter.Text.Utf8
import Mathlib.Data.List.DropRight

/-
  `package/env.rs`: the readers of the process environment.

  A variable holds bytes, as on Unix. `string` is the one function that looks at them: it makes
  unset, blank and not Unicode the same `None`, so the fallback of a reader stands in for a value
  that is there but is not Unicode. `configured_honoured_iff` says that this is the only case.
-/

namespace ApiStarter.Env

open ApiStarter.Pagination
open ApiStarter.Text (utf8 decodeUtf8 decodeUtf8_eq_some)

/-- The variables of the process. -/
abbrev Environ := String → Option (List UInt8)

inductive Error where
  | missing (key : String)
  | invalid (key value : String)
  deriving DecidableEq, Repr

def Error.text : Error → String
  | .missing key => "environment variable `" ++ key ++ "` is required"
  | .invalid key value => "environment variable `" ++ key ++ "` has an invalid value: " ++ value

/-! ## The standard library -/

inductive VarError where
  | notPresent
  | notUnicode (value : List UInt8)

/-- `std::env::var` -/
def var (environ : Environ) (key : String) : Except VarError String :=
  match environ key with
  | none => .error .notPresent
  | some value =>
    match decodeUtf8 value with
    | some text => .ok text
    | none => .error (.notUnicode value)

/-- `char::is_whitespace`: the property `White_Space` of Unicode. -/
def isWhitespace (c : Char) : Bool :=
  let n := c.toNat
  (9 ≤ n && n ≤ 13) || n == 0x20 || n == 0x85 || n == 0xA0 || n == 0x1680 ||
    (0x2000 ≤ n && n ≤ 0x200A) || n == 0x2028 || n == 0x2029 || n == 0x202F || n == 0x205F ||
    n == 0x3000

/-- `str::trim` -/
def trim (text : String) : String :=
  String.ofList ((text.toList.dropWhile isWhitespace).rdropWhile isWhitespace)

/-- `str::to_ascii_lowercase` -/
def toAsciiLowercase (text : String) : String := String.ofList (text.toList.map Char.toLower)

/-- `str::parse` at an unsigned integer type up to `hi`. -/
def parseUnsigned (hi : Nat) (s : String) : Option Nat :=
  let value : Option Nat :=
    match s.toList with
    | '+' :: ds => digitsValue ds
    | ds => digitsValue ds
  value.filter fun n => decide (n ≤ hi)

def parseU16 (s : String) : Option UInt16 := (parseUnsigned (2 ^ 16 - 1) s).map UInt16.ofNat

def parseU32 (s : String) : Option UInt32 := (parseUnsigned (2 ^ 32 - 1) s).map UInt32.ofNat

theorem trim_eq_empty_iff {text : String} :
    trim text = "" ↔ ∀ c ∈ text.toList, isWhitespace c := by
  unfold trim
  rw [String.ofList_eq_empty_iff, List.rdropWhile_eq_nil_iff]
  constructor
  · intro h c hc
    rw [← List.takeWhile_append_dropWhile (p := isWhitespace) (l := text.toList)] at hc
    rcases List.mem_append.1 hc with hleft | hright
    · exact List.mem_takeWhile_imp hleft
    · exact h c hright
  · exact fun h c hc => h c (List.dropWhile_suffix _ |>.subset hc)

theorem trim_of_no_whitespace {text : String} (h : ∀ c ∈ text.toList, isWhitespace c = false) :
    trim text = text := by
  have hleft : text.toList.dropWhile isWhitespace = text.toList := by
    rw [List.dropWhile_eq_self_iff]
    intro hl
    rw [h _ (List.getElem_mem _)]
    exact Bool.false_ne_true
  have hright : text.toList.rdropWhile isWhitespace = text.toList := by
    rw [List.rdropWhile_eq_self_iff]
    intro hl
    rw [h _ (List.getLast_mem hl)]
    exact Bool.false_ne_true
  unfold trim
  rw [hleft, hright, String.ofList_toList]

/-! ## Numbers as they are printed -/

theorem digitsValue_toDigits (n : Nat) : digitsValue (Nat.toDigits 10 n) = some n := by
  have hdigits : (Nat.toDigits 10 n).all Char.isDigit :=
    List.all_eq_true.2 fun c hc => Nat.isDigit_of_mem_toDigits (by decide) (by decide) hc
  unfold digitsValue
  rw [if_pos ⟨Nat.toDigits_ne_nil, hdigits⟩, ← Nat.ofDigitChars_eq_foldl,
    Nat.ofDigitChars_ten_toDigits]

/-- The sign, if any, and the digits of a number as they are printed. -/
theorem toList_toString (i : Int) :
    (toString i).toList = if 0 ≤ i then Nat.toDigits 10 i.toNat
      else '-' :: Nat.toDigits 10 (-i).toNat := by
  rw [Int.toString_eq_repr, Int.repr_eq_if]
  split
  · exact Nat.toList_repr
  · rw [String.toList_append, Nat.toList_repr]
    rfl

theorem parseInt_toString {lo hi i : Int} (hlo : lo ≤ i) (hhi : i ≤ hi) :
    parseInt lo hi (toString i) = some i := by
  have hrange : (decide (lo ≤ i) && decide (i ≤ hi)) = true := by simp [hlo, hhi]
  have hsome : (some i : Option Int).filter
      (fun i => decide (lo ≤ i) && decide (i ≤ hi)) = some i := by simp [hrange]
  unfold parseInt
  rw [toList_toString]
  by_cases hsign : 0 ≤ i
  · rw [if_pos hsign]
    have hvalue : (digitsValue (Nat.toDigits 10 i.toNat)).map Int.ofNat = some i := by
      rw [digitsValue_toDigits, Option.map_some]
      exact congrArg some (Int.toNat_of_nonneg hsign)
    have hdigits : ∀ c ∈ Nat.toDigits 10 i.toNat, c.isDigit := fun c hc =>
      Nat.isDigit_of_mem_toDigits (by decide) (by decide) hc
    generalize Nat.toDigits 10 i.toNat = ds at hvalue hdigits ⊢
    split
    next ds => exact absurd (hdigits '+' List.mem_cons_self) (by decide)
    next ds => exact absurd (hdigits '-' List.mem_cons_self) (by decide)
    next => rw [hvalue, hsome]
  · rw [if_neg hsign]
    have hvalue : (digitsValue (Nat.toDigits 10 (-i).toNat)).map (fun n => -Int.ofNat n) =
        some i := by
      have habs : ((-i).toNat : Int) = -i := Int.toNat_of_nonneg (by omega)
      rw [digitsValue_toDigits, Option.map_some, Int.ofNat_eq_natCast, habs, Int.neg_neg]
    exact (congrArg (Option.filter _) hvalue).trans hsome

theorem parseI64_toString (n : Int64) : parseI64 (toString n.toInt) = some n := by
  have hhigh := n.toInt_lt
  unfold parseI64
  rw [parseInt_toString n.le_toInt (by omega), Option.map_some, Int64.ofInt_toInt]

/-- So it is read as it stands. -/
theorem trim_toString (i : Int) : trim (toString i) = toString i := by
  have hdigit : ∀ c : Char, c.isDigit → isWhitespace c = false := by
    intro c hc
    obtain ⟨hlow, hhigh⟩ := Char.isDigit_iff_toNat.1 hc
    have hzero : '0'.toNat = 48 := rfl
    have hnine : '9'.toNat = 57 := rfl
    simp only [isWhitespace, Bool.or_eq_false_iff, Bool.and_eq_false_iff, decide_eq_false_iff_not,
      beq_eq_false_iff_ne]
    omega
  have hdigits : ∀ n, ∀ c ∈ Nat.toDigits 10 n, isWhitespace c = false := fun n c hc =>
    hdigit c (Nat.isDigit_of_mem_toDigits (by decide) (by decide) hc)
  refine trim_of_no_whitespace fun c hc => ?_
  rw [toList_toString] at hc
  split at hc
  · exact hdigits _ c hc
  · rcases List.mem_cons.1 hc with rfl | hc
    · decide
    · exact hdigits _ c hc

/-! ## The readers -/

section

variable {T : Type} (environ : Environ) (key : String)

def string : Option String :=
  match var environ key with
  | .ok value => if ¬ (trim value).isEmpty then some (trim value) else none
  | .error _ => none

def stringOr (fallback : String) : String := (string environ key).getD fallback

def required : Except Error String :=
  match string environ key with
  | some value => .ok value
  | none => .error (.missing key)

def parsed (parse : String → Option T) : Except Error (Option T) :=
  match string environ key with
  | none => .ok none
  | some value =>
    match parse value with
    | some t => .ok (some t)
    | none => .error (.invalid key value)

/-- `Ok(parsed(key)?.unwrap_or(fallback))` -/
def parsedOr (parse : String → Option T) (fallback : T) : Except Error T := do
  return (← parsed environ key parse).getD fallback

def u16 : Except Error (Option UInt16) := parsed environ key parseU16

def u16Or (fallback : UInt16) : Except Error UInt16 := parsedOr environ key parseU16 fallback

def u32 : Except Error (Option UInt32) := parsed environ key parseU32

def u32Or (fallback : UInt32) : Except Error UInt32 := parsedOr environ key parseU32 fallback

def i64 : Except Error (Option Int64) := parsed environ key parseI64

def i64Or (fallback : Int64) : Except Error Int64 := parsedOr environ key parseI64 fallback

/-- At a type with its `FromStr` and its `Default`. -/
def variantOrDefault (parse : String → Option T) (default : T) : Except Error T :=
  parsedOr environ key parse default

def boolean : Except Error (Option Bool) :=
  match string environ key with
  | none => .ok none
  | some value =>
    match toAsciiLowercase value with
    | "1" | "t" | "true" | "y" | "yes" | "on" => .ok (some true)
    | "0" | "f" | "false" | "n" | "no" | "off" => .ok (some false)
    | _ => .error (.invalid key value)

def booleanOr (fallback : Bool) : Except Error Bool := do
  return (← boolean environ key).getD fallback

end

/-- The spellings `boolean` knows. -/
def parseBoolean (value : String) : Option Bool :=
  match toAsciiLowercase value with
  | "1" | "t" | "true" | "y" | "yes" | "on" => some true
  | "0" | "f" | "false" | "n" | "no" | "off" => some false
  | _ => none

section

variable {T : Type} {environ : Environ} {key : String} {value : List UInt8}

/-- `boolean` is `parsed` with a parser of its own. -/
theorem booleanOr_eq (fallback : Bool) :
    booleanOr environ key fallback = parsedOr environ key parseBoolean fallback := by
  unfold booleanOr boolean parsedOr parsed parseBoolean
  cases string environ key with
  | none => rfl
  | some value =>
    dsimp only
    split <;> rfl

/-- Nothing but white space. -/
def Blank (value : List UInt8) : Prop :=
  ∃ text, decodeUtf8 value = some text ∧ ∀ c ∈ text.toList, isWhitespace c

/-- What `string` makes of a variable that is set to something. -/
theorem string_eq (hset : environ key = some value) (hblank : ¬ Blank value) :
    string environ key = (decodeUtf8 value).map trim := by
  unfold string var
  rw [hset]
  cases hdecode : decodeUtf8 value with
  | none => simp only [hdecode, Option.map_none]
  | some text =>
    have hne : trim text ≠ "" := fun hempty =>
      hblank ⟨text, hdecode, trim_eq_empty_iff.1 hempty⟩
    simp only [hdecode, Option.map_some, String.isEmpty_iff, hne, not_false_eq_true, if_true]

/-- A number that is written out is read back, whatever the fallback. -/
theorem i64Or_of_written {environ : Environ} {key : String} {n : Int64}
    (hset : environ key = some (utf8 (toString n.toInt).toList)) (fallback : Int64) :
    i64Or environ key fallback = .ok n := by
  have hstring : string environ key = some (toString n.toInt) := by
    have hblank : ¬ Blank (utf8 (toString n.toInt).toList) := by
      intro ⟨text, hdecode, hwhite⟩
      rw [decodeUtf8_eq_some.2 rfl] at hdecode
      cases hdecode
      have hempty := trim_eq_empty_iff.2 hwhite
      rw [trim_toString] at hempty
      have hread := parseI64_toString n
      rw [hempty] at hread
      cases hread
    rw [string_eq hset hblank, decodeUtf8_eq_some.2 rfl, Option.map_some, trim_toString]
  unfold i64Or parsedOr parsed
  rw [hstring]
  dsimp only
  rw [parseI64_toString]
  rfl

/-! ## Which configured values are honoured -/

/-- The readers with a fallback, and `required`. -/
inductive Reader : Type → Type 1 where
  | stringOr : Reader String
  | u16Or : Reader UInt16
  | u32Or : Reader UInt32
  | i64Or : Reader Int64
  | booleanOr : Reader Bool
  | variantOrDefault {T : Type} (parse : String → Option T) : Reader T
  | required : Reader String

/-- What the reader returns; `required` has no use for the fallback. -/
def Reader.read (environ : Environ) (key : String) : Reader T → T → Except Error T
  | .stringOr, fallback => .ok (Env.stringOr environ key fallback)
  | .u16Or, fallback => Env.u16Or environ key fallback
  | .u32Or, fallback => Env.u32Or environ key fallback
  | .i64Or, fallback => Env.i64Or environ key fallback
  | .booleanOr, fallback => Env.booleanOr environ key fallback
  | .variantOrDefault parse, default => Env.variantOrDefault environ key parse default
  | .required, _ => Env.required environ key

/-- How the reader understands a text. -/
def Reader.parse : Reader T → String → Option T
  | .stringOr => some
  | .u16Or => parseU16
  | .u32Or => parseU32
  | .i64Or => parseI64
  | .booleanOr => parseBoolean
  | .variantOrDefault parse => parse
  | .required => some

/-- The result is what the trimmed text parses to, or an error other than `Missing`. -/
def Honoured (parse : String → Option T) (value : List UInt8) (result : Except Error T) : Prop :=
  (∃ text t, decodeUtf8 value = some text ∧ parse (trim text) = some t ∧ result = .ok t) ∨
    ∃ err, result = .error err ∧ ∀ key, err ≠ .missing key

/-- A value that is not Unicode is neither parsed nor reported. -/
theorem not_honoured_ok {parse : String → Option T} {t : T} (h : decodeUtf8 value = none) :
    ¬ Honoured parse value (.ok t) := by
  intro hhonoured
  rcases hhonoured with ⟨text, -, htext, -⟩ | ⟨err, herr, -⟩
  · rw [h] at htext
    cases htext
  · cases herr

theorem parsedOr_honoured_iff (hset : environ key = some value) (hblank : ¬ Blank value)
    (parse : String → Option T) (fallback : T) :
    Honoured parse value (parsedOr environ key parse fallback) ↔
      ∃ text, decodeUtf8 value = some text := by
  unfold parsedOr parsed
  rw [string_eq hset hblank]
  cases hdecode : decodeUtf8 value with
  | none => exact iff_of_false (not_honoured_ok hdecode) (by simp)
  | some text =>
    refine iff_of_true ?_ ⟨text, rfl⟩
    dsimp only [Option.map_some]
    cases hparse : parse (trim text) with
    | none => exact .inr ⟨_, rfl, by simp⟩
    | some t => exact .inl ⟨text, t, hdecode, hparse, rfl⟩

end

/-- A value that is set and not blank is honoured, by each reader and whatever the fallback,
    exactly if it is Unicode. -/
theorem configured_honoured_iff {T : Type} (reader : Reader T) {environ : Environ} {key : String}
    {value : List UInt8} (hset : environ key = some value) (hblank : ¬ Blank value)
    (fallback : T) :
    Honoured reader.parse value (reader.read environ key fallback) ↔
      ∃ text, decodeUtf8 value = some text := by
  cases reader with
  | stringOr =>
    unfold Reader.read stringOr
    rw [string_eq hset hblank]
    cases hdecode : decodeUtf8 value with
    | none => exact iff_of_false (not_honoured_ok hdecode) (by simp)
    | some text => exact iff_of_true (.inl ⟨text, _, hdecode, rfl, rfl⟩) ⟨text, rfl⟩
  | required =>
    unfold Reader.read required
    rw [string_eq hset hblank]
    cases hdecode : decodeUtf8 value with
    | none =>
      refine iff_of_false ?_ (by simp)
      rintro (⟨_, _, -, -, herr⟩ | ⟨err, herr, hne⟩)
      · cases herr
      · cases herr
        exact hne key rfl
    | some text => exact iff_of_true (.inl ⟨text, _, hdecode, rfl, rfl⟩) ⟨text, rfl⟩
  | booleanOr =>
    rw [show Reader.read environ key .booleanOr fallback = _ from booleanOr_eq fallback]
    exact parsedOr_honoured_iff hset hblank _ fallback
  | u16Or => exact parsedOr_honoured_iff hset hblank _ fallback
  | u32Or => exact parsedOr_honoured_iff hset hblank _ fallback
  | i64Or => exact parsedOr_honoured_iff hset hblank _ fallback
  | variantOrDefault parse => exact parsedOr_honoured_iff hset hblank parse fallback

/-- One variable is set, the others are not. -/
def Environ.only (key : String) (value : List UInt8) : Environ := fun k =>
  if k = key then some value else none

/-- A port with white space around it. -/
theorem configured_honoured_iff_sample :
    Honoured parseU16 (utf8 " 8080\n".toList)
      (u16Or (.only "APP_PORT" (utf8 " 8080\n".toList)) "APP_PORT" 3000) ↔
      ∃ text, decodeUtf8 (utf8 " 8080\n".toList) = some text := by
  refine configured_honoured_iff .u16Or rfl ?_ 3000
  rintro ⟨text, hdecode, hwhite⟩
  have htext : " 8080\n" = text := Option.some.inj ((decodeUtf8_eq_some.2 rfl).symm.trans hdecode)
  subst htext
  exact absurd (hwhite '8' (by decide)) (by decide)

/-- The password of the database is set to a byte that is no Unicode: the service runs with the
    default password. -/
theorem password_replaced_by_default :
    ¬ Blank [0xFF] ∧ Environ.only "DB_PASSWORD" [0xFF] "DB_PASSWORD" = some [0xFF] ∧
    Reader.read (.only "DB_PASSWORD" [0xFF]) "DB_PASSWORD" .stringOr "password" =
      .ok "password" ∧
    ¬ Honoured (Reader.parse .stringOr) [0xFF]
      (Reader.read (.only "DB_PASSWORD" [0xFF]) "DB_PASSWORD" .stringOr "password") := by
  have hdecode : decodeUtf8 [0xFF] = none := by decide +kernel
  have hread : Reader.read (.only "DB_PASSWORD" [0xFF]) "DB_PASSWORD" .stringOr "password" =
      .ok "password" := by decide +kernel
  refine ⟨?_, rfl, hread, hread ▸ not_honoured_ok hdecode⟩
  rintro ⟨text, htext, -⟩
  rw [hdecode] at htext
  cases htext

end ApiStarter.Env
