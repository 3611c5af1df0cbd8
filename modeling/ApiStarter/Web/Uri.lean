import ApiStarter.Text.Utf8
import Mathlib.Data.List.Infix
import Mathlib.Data.List.TakeWhile

/-
  RFC 3986: percent-decoding, and the parts of a URI with an authority.

  Decoding is that of readers that keep a `%` without two hexadecimal digits after it. Bytes are
  those of UTF-8; `escapes` finds the texts that decoding changes.
-/

namespace ApiStarter.Web

open ApiStarter.Text (utf8 decodeUtf8 utf8_cons utf8_append decodeUtf8_eq_some utf8EncodeChar_cases)

/-! ## Percent-decoding -/

/-- The value of a hexadecimal digit. -/
def hexValue (b : UInt8) : Option Nat :=
  if 48 ≤ b.toNat ∧ b.toNat ≤ 57 then some (b.toNat - 48)
  else if 65 ≤ b.toNat ∧ b.toNat ≤ 70 then some (b.toNat - 55)
  else if 97 ≤ b.toNat ∧ b.toNat ≤ 102 then some (b.toNat - 87)
  else none

def hexByte (high low : UInt8) : Option UInt8 := do
  let high ← hexValue high
  let low ← hexValue low
  return UInt8.ofNat (16 * high + low)

/-- `%` and two hexadecimal digits are one byte, anything else is kept. -/
def percentDecode : List UInt8 → List UInt8
  | b :: high :: low :: rest =>
    match (if b = 37 then hexByte high low else none) with
    | some byte => byte :: percentDecode rest
    | none => b :: percentDecode (high :: low :: rest)
  | bytes => bytes

theorem percentDecode_cons_of_ne {b : UInt8} (h : b ≠ 37) (rest : List UInt8) :
    percentDecode (b :: rest) = b :: percentDecode rest := by
  match rest with
  | [] => rfl
  | [_] => rfl
  | _ :: _ :: _ => rw [percentDecode, if_neg h]

theorem percentDecode_append {bytes : List UInt8} (h : ∀ b ∈ bytes, b ≠ 37)
    (rest : List UInt8) : percentDecode (bytes ++ rest) = bytes ++ percentDecode rest := by
  induction bytes with
  | nil => rfl
  | cons b bytes ih =>
    rw [List.forall_mem_cons] at h
    rw [List.cons_append, percentDecode_cons_of_ne h.1, ih h.2, List.cons_append]

theorem percentDecode_escape {high low byte : UInt8} (h : hexByte high low = some byte)
    (rest : List UInt8) :
    percentDecode (37 :: high :: low :: rest) = byte :: percentDecode rest := by
  rw [percentDecode, if_pos rfl, h]

theorem percentDecode_percent {rest : List UInt8}
    (h : ∀ high low tail, rest = high :: low :: tail → hexByte high low = none) :
    percentDecode (37 :: rest) = 37 :: percentDecode rest := by
  match rest with
  | [] => rfl
  | [_] => rfl
  | high :: low :: tail => rw [percentDecode, if_pos rfl, h high low tail rfl]

/-! ## Texts that decoding changes -/

def HexDigit (c : Char) : Prop :=
  48 ≤ c.toNat ∧ c.toNat ≤ 57 ∨ 65 ≤ c.toNat ∧ c.toNat ≤ 70 ∨ 97 ≤ c.toNat ∧ c.toNat ≤ 102

instance (c : Char) : Decidable (HexDigit c) := inferInstanceAs (Decidable (_ ∨ _))

/-- A percent sign with two hexadecimal digits after it is read as one byte. -/
def HasEscape (s : List Char) : Prop :=
  ∃ high low, HexDigit high ∧ HexDigit low ∧ ['%', high, low] <:+: s

theorem hasEscape_cons {c : Char} {s : List Char} :
    HasEscape (c :: s) ↔ (c = '%' ∧ ∃ high low rest, s = high :: low :: rest ∧
      HexDigit high ∧ HexDigit low) ∨ HasEscape s := by
  constructor
  · rintro ⟨high, low, hhigh, hlow, hcontained⟩
    rcases List.infix_cons_iff.1 hcontained with hstarts | hcontained
    · obtain ⟨rest, hrest⟩ := hstarts
      cases hrest
      exact .inl ⟨rfl, high, low, rest, rfl, hhigh, hlow⟩
    · exact .inr ⟨high, low, hhigh, hlow, hcontained⟩
  · rintro (⟨rfl, high, low, rest, rfl, hhigh, hlow⟩ | ⟨high, low, hhigh, hlow, hcontained⟩)
    · exact ⟨high, low, hhigh, hlow, [], rest, rfl⟩
    · exact ⟨high, low, hhigh, hlow, List.infix_cons hcontained⟩

theorem not_hasEscape_nil : ¬ HasEscape [] := by
  rintro ⟨high, low, -, -, hcontained⟩
  cases List.infix_nil.1 hcontained

instance (s : List Char) :
    Decidable (∃ high low rest, s = high :: low :: rest ∧ HexDigit high ∧ HexDigit low) :=
  match s with
  | high :: low :: _ => decidable_of_iff (HexDigit high ∧ HexDigit low) (by simp)
  | [] => .isFalse (by simp)
  | [_] => .isFalse (by simp)

instance decidableHasEscape : DecidablePred HasEscape
  | [] => .isFalse not_hasEscape_nil
  | _ :: s =>
    have : Decidable (HasEscape s) := decidableHasEscape s
    decidable_of_iff _ hasEscape_cons.symm

theorem hexValue_isSome {b : UInt8} : (hexValue b).isSome ↔
    48 ≤ b.toNat ∧ b.toNat ≤ 57 ∨ 65 ≤ b.toNat ∧ b.toNat ≤ 70 ∨ 97 ≤ b.toNat ∧ b.toNat ≤ 102 := by
  unfold hexValue
  split
  · simp
    omega
  · split
    · simp
      omega
    · split
      · simp
        omega
      · simp
        omega

theorem hexByte_isSome {high low : UInt8} :
    (hexByte high low).isSome ↔ (hexValue high).isSome ∧ (hexValue low).isSome := by
  unfold hexByte
  cases hexValue high with
  | none => simp
  | some v =>
    cases hexValue low with
    | none => simp
    | some w => simp

/-- The first byte of a character is a hexadecimal digit exactly if the character is. -/
theorem hexDigit_of_byte {c : Char} {b : UInt8} {tail : List UInt8}
    (hc : String.utf8EncodeChar c = b :: tail) :
    ((hexValue b).isSome ↔ HexDigit c) ∧ (HexDigit c → tail = []) := by
  rw [hexValue_isSome, HexDigit]
  rcases utf8EncodeChar_cases c with ⟨hlt, heq⟩ | ⟨hge, hall⟩
  · rw [hc] at heq
    obtain ⟨rfl, rfl⟩ := List.cons.inj heq
    rw [UInt8.toNat_ofNat', Nat.mod_eq_of_lt (by omega)]
    exact ⟨Iff.rfl, fun _ => rfl⟩
  · have hb := hall b (hc ▸ List.mem_cons_self)
    exact ⟨⟨fun _ => by omega, fun _ => by omega⟩, fun _ => by omega⟩

/-! ## Encoders -/

/-- An encoder that writes some ASCII characters as their escapes and keeps all others, among
    them the percent sign and the hexadecimal digits. -/
structure KeepsPercent (encode : Char → List Char) : Prop where
  percent : encode '%' = ['%']
  digit : ∀ c, HexDigit c → encode c = [c]
  char : ∀ c, encode c = [c] ∨ ∃ high low byte, utf8 (encode c) = [37, high, low] ∧
    hexByte high low = some byte ∧ String.utf8EncodeChar c = [byte]

section

variable {encode : Char → List Char} (h : KeepsPercent encode)
include h

theorem percentDecode_encoded_cons {c : Char} (hc : c ≠ '%') (rest : List UInt8) :
    percentDecode (utf8 (encode c) ++ rest) = String.utf8EncodeChar c ++ percentDecode rest := by
  rcases h.char c with heq | ⟨high, low, byte, heq, hbyte, hchar⟩
  · rw [heq, utf8, List.flatMap_singleton]
    refine percentDecode_append (fun b hb => ?_) rest
    rintro rfl
    rcases utf8EncodeChar_cases c with ⟨hlt, hchar⟩ | ⟨-, hall⟩
    · rw [hchar, List.mem_singleton] at hb
      have hvalue := congrArg UInt8.toNat hb
      rw [UInt8.toNat_ofNat', Nat.mod_eq_of_lt (by omega)] at hvalue
      exact hc (Char.toNat_inj.1 hvalue.symm)
    · exact absurd (hall 37 hb) (by decide)
  · rw [heq, hchar]
    exact percentDecode_escape hbyte rest

/-- An encoded text starts with a hexadecimal digit only if the text does. -/
theorem hexDigit_of_encoded {s : List Char} {b : UInt8} {tail : List UInt8}
    (hs : utf8 (s.flatMap encode) = b :: tail) (hb : (hexValue b).isSome) :
    ∃ c rest, s = c :: rest ∧ HexDigit c ∧ tail = utf8 (rest.flatMap encode) := by
  cases s with
  | nil => cases hs
  | cons c rest =>
    rw [List.flatMap_cons, utf8_append] at hs
    rcases h.char c with heq | ⟨high, low, byte, heq, -, -⟩
    · rw [heq, utf8, List.flatMap_singleton] at hs
      obtain ⟨first, more, hchar⟩ :=
        List.exists_cons_of_ne_nil (String.utf8EncodeChar_ne_nil (c := c))
      rw [hchar] at hs
      obtain ⟨rfl, htail⟩ := List.cons.inj hs
      obtain ⟨hdigit, hmore⟩ := hexDigit_of_byte hchar
      rw [hmore (hdigit.1 hb)] at htail
      exact ⟨c, rest, rfl, hdigit.1 hb, htail.symm⟩
    · rw [heq] at hs
      obtain ⟨rfl, -⟩ := List.cons.inj hs
      exact absurd hb (by decide)

theorem encoded_of_hexDigit {c : Char} (hc : HexDigit c) (rest : List Char) :
    ∃ b, utf8 ((c :: rest).flatMap encode) = b :: utf8 (rest.flatMap encode) ∧
      (hexValue b).isSome := by
  obtain ⟨b, tail, hchar⟩ := List.exists_cons_of_ne_nil (String.utf8EncodeChar_ne_nil (c := c))
  obtain ⟨hdigit, htail⟩ := hexDigit_of_byte hchar
  refine ⟨b, ?_, hdigit.2 hc⟩
  rw [List.flatMap_cons, h.digit c hc, utf8_append, utf8_cons, hchar, htail hc]
  rfl

/-- What becomes of a percent sign: an escape swallows the two digits after it, any other stays. -/
theorem percentDecode_encoded_percent (s : List Char) :
    (∃ high low rest byte, s = high :: low :: rest ∧ HexDigit high ∧ HexDigit low ∧
      percentDecode (37 :: utf8 (s.flatMap encode)) =
        byte :: percentDecode (utf8 (rest.flatMap encode))) ∨
    (¬ ∃ high low rest, s = high :: low :: rest ∧ HexDigit high ∧ HexDigit low) ∧
      percentDecode (37 :: utf8 (s.flatMap encode)) =
        37 :: percentDecode (utf8 (s.flatMap encode)) := by
  by_cases hescape : ∃ high low tail, utf8 (s.flatMap encode) = high :: low :: tail ∧
      (hexByte high low).isSome
  · obtain ⟨high, low, tail, hbytes, hsome⟩ := hescape
    obtain ⟨hhigh, hlow⟩ := hexByte_isSome.1 hsome
    obtain ⟨c, rest, rfl, hc, hrest⟩ := hexDigit_of_encoded h hbytes hhigh
    obtain ⟨d, rest, rfl, hd, htail⟩ := hexDigit_of_encoded h hrest.symm hlow
    obtain ⟨byte, hbyte⟩ := Option.isSome_iff_exists.1 hsome
    refine .inl ⟨c, d, rest, byte, rfl, hc, hd, ?_⟩
    rw [hbytes, percentDecode_escape hbyte, htail]
  · refine .inr ⟨?_, percentDecode_percent fun high low tail hbytes => ?_⟩
    · rintro ⟨c, d, rest, rfl, hc, hd⟩
      obtain ⟨high, hhigh, hhighSome⟩ := encoded_of_hexDigit h hc (d :: rest)
      obtain ⟨low, hlow, hlowSome⟩ := encoded_of_hexDigit h hd rest
      exact hescape ⟨high, low, _, by rw [hhigh, hlow], hexByte_isSome.2 ⟨hhighSome, hlowSome⟩⟩
    · by_contra hsome
      exact hescape ⟨high, low, tail, hbytes, Option.ne_none_iff_isSome.1 hsome⟩

/-- Decoding never lengthens an encoded text, and shortens one with an escape of its own. -/
theorem length_percentDecode_encoded (s : List Char) :
    (percentDecode (utf8 (s.flatMap encode))).length ≤ (utf8 s).length ∧
      (HasEscape s → (percentDecode (utf8 (s.flatMap encode))).length < (utf8 s).length) := by
  induction hn : s.length using Nat.strong_induction_on generalizing s with
  | _ n ih =>
    cases s with
    | nil => exact ⟨Nat.le_refl _, fun hescape => absurd hescape not_hasEscape_nil⟩
    | cons c s =>
      rw [List.length_cons] at hn
      obtain ⟨hle, hlt⟩ := ih s.length (by omega) s rfl
      rw [utf8_cons, List.length_append, hasEscape_cons, List.flatMap_cons, utf8_append]
      by_cases hc : c = '%'
      · subst hc
        rw [h.percent, show utf8 ['%'] = [37] from rfl, List.singleton_append]
        have hone : (String.utf8EncodeChar '%').length = 1 := rfl
        rcases percentDecode_encoded_percent h s with
          ⟨high, low, rest, byte, rfl, -, -, hdecode⟩ | ⟨hnone, hdecode⟩
        · have hrest := (ih rest.length (by simp only [List.length_cons] at hn; omega) rest rfl).1
          have hhigh := List.length_pos_iff.2 (String.utf8EncodeChar_ne_nil (c := high))
          rw [hdecode, utf8_cons, utf8_cons, hone]
          simp only [List.length_cons, List.length_append]
          omega
        · rw [hdecode, List.length_cons, hone]
          refine ⟨by omega, ?_⟩
          rintro (⟨-, high, low, rest, hs⟩ | hescape)
          · exact absurd ⟨high, low, rest, hs⟩ hnone
          · have := hlt hescape
            omega
      · rw [percentDecode_encoded_cons h hc, List.length_append]
        refine ⟨by omega, ?_⟩
        rintro (⟨hpercent, -⟩ | hescape)
        · exact absurd hpercent hc
        · have := hlt hescape
          omega

theorem percentDecode_encoded {s : List Char} (hs : ¬ HasEscape s) :
    percentDecode (utf8 (s.flatMap encode)) = utf8 s := by
  induction s with
  | nil => rfl
  | cons c s ih =>
    rw [hasEscape_cons, not_or] at hs
    rw [List.flatMap_cons, utf8_append, utf8_cons, ← ih hs.2]
    by_cases hc : c = '%'
    · subst hc
      rw [h.percent, show utf8 ['%'] = [37] from rfl, List.singleton_append]
      rcases percentDecode_encoded_percent h s with
        ⟨high, low, rest, byte, rfl, hhigh, hlow, -⟩ | ⟨-, hdecode⟩
      · exact absurd ⟨rfl, high, low, rest, rfl, hhigh, hlow⟩ hs.1
      · exact hdecode
    · exact percentDecode_encoded_cons h hc _

/-- Decoding gives an encoded text back exactly if it has no escape of its own. -/
theorem decode_encoded_iff (s : String) :
    decodeUtf8 (percentDecode (utf8 (s.toList.flatMap encode))) = some s ↔
      ¬ HasEscape s.toList := by
  rw [decodeUtf8_eq_some]
  constructor
  · intro hdecode hescape
    exact absurd (congrArg List.length hdecode)
      (Nat.ne_of_lt ((length_percentDecode_encoded h s.toList).2 hescape))
  · exact percentDecode_encoded h

end

/-! ## The parts of a URI -/

/-- What is before and after the first `sep`. -/
def splitOnce (sep : Char) (s : List Char) : Option (List Char × List Char) :=
  if sep ∈ s then some (s.takeWhile (· ≠ sep), (s.dropWhile (· ≠ sep)).drop 1) else none

theorem splitOnce_append {sep : Char} {s : List Char} (hs : sep ∉ s) (t : List Char) :
    splitOnce sep (s ++ sep :: t) = some (s, t) := by
  have hall : ∀ c ∈ s, decide (c ≠ sep) = true := fun c hc =>
    decide_eq_true fun heq => hs (heq ▸ hc)
  rw [splitOnce, if_pos (by simp), List.takeWhile_append_of_pos hall,
    List.dropWhile_append_of_pos hall]
  simp

/-- `scheme "://" authority path ["?" query] ["#" fragment]`, without the last two. -/
structure Uri where
  scheme : List Char
  userInfo : List Char
  host : List Char
  port : List Char
  path : List Char
  deriving DecidableEq

/-- The authority of what follows `//`, and the rest of it. -/
def splitHierarchy (s : List Char) : List Char × List Char :=
  (s.takeWhile fun c => c ∉ ['/', '?', '#'], s.dropWhile fun c => c ∉ ['/', '?', '#'])

/-- A URI with an authority that has user information, a host without brackets and a port. -/
def splitUri (s : List Char) : Option Uri := do
  let (scheme, rest) ← splitOnce ':' s
  match rest with
  | '/' :: '/' :: hierarchy =>
    let (authority, rest) := splitHierarchy hierarchy
    let (userInfo, hostPort) ← splitOnce '@' authority
    let (host, port) ← splitOnce ':' hostPort
    some { scheme := scheme, userInfo := userInfo, host := host, port := port,
           path := rest.takeWhile fun c => c ∉ ['?', '#'] }
  | _ => none

/-- The characters that end a part of a URI. -/
def delimiters : List Char := ['/', '?', '#', '[', ']', '@', ':']

def Undelimited (s : List Char) : Prop := ∀ c ∈ s, c ∉ delimiters

instance : DecidablePred Undelimited := fun s => List.decidableBAll (fun c => c ∉ delimiters) s

theorem splitHierarchy_append {authority : List Char}
    (h : ∀ c ∈ authority, c ∉ ['/', '?', '#']) (path : List Char) :
    splitHierarchy (authority ++ '/' :: path) = (authority, '/' :: path) := by
  have hall : ∀ c ∈ authority, decide (c ∉ ['/', '?', '#']) = true := fun c hc =>
    decide_eq_true (h c hc)
  rw [splitHierarchy, List.takeWhile_append_of_pos hall, List.dropWhile_append_of_pos hall]
  simp

/-- The parts of a URI composed of undelimited parts are these. The user information may have
    colons. -/
theorem splitUri_compose {scheme userInfo host port name : List Char} (hscheme : ':' ∉ scheme)
    (huser : ∀ c ∈ userInfo, c ∉ ['/', '?', '#', '@']) (hhost : Undelimited host)
    (hport : Undelimited port) (hname : Undelimited name) :
    splitUri (scheme ++ ':' :: '/' :: '/' :: (userInfo ++ '@' :: (host ++ ':' :: port) ++
        '/' :: name)) =
      some ⟨scheme, userInfo, host, port, '/' :: name⟩ := by
  have hat : '@' ∉ userInfo := fun hc => huser '@' hc (by decide)
  have hcolon : ':' ∉ host := fun hc => hhost ':' hc (by decide)
  have hauthority : ∀ c ∈ userInfo ++ '@' :: (host ++ ':' :: port), c ∉ ['/', '?', '#'] := by
    intro c hc hmem
    have hdelimiter : c ∈ delimiters := List.mem_append_left ['[', ']', '@', ':'] hmem
    simp only [List.mem_append, List.mem_cons] at hc
    rcases hc with hc | rfl | hc | rfl | hc
    · exact huser c hc (List.mem_append_left ['@'] hmem)
    · exact absurd hmem (by decide)
    · exact hhost c hc hdelimiter
    · exact absurd hmem (by decide)
    · exact hport c hc hdelimiter
  have hpath : ('/' :: name).takeWhile (fun c => decide (c ∉ ['?', '#'])) = '/' :: name := by
    refine List.takeWhile_eq_self_iff.2 fun c hc => decide_eq_true fun hmem => ?_
    rcases List.mem_cons.1 hc with rfl | hc
    · exact absurd hmem (by decide)
    · exact hname c hc ((show ['?', '#'] ⊆ delimiters by simp [delimiters]) hmem)
  rw [splitUri, splitOnce_append hscheme]
  simp only [Option.bind_eq_bind, Option.bind_some, splitHierarchy_append hauthority,
    splitOnce_append hat, splitOnce_append hcolon, hpath]

end ApiStarter.Web
