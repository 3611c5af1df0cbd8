import Mathlib.Data.List.TakeWhile

/-
  Texts as their UTF-8 bytes, and bytes read over and over.

  Only NUL has a zero byte, so a zero ends the bytes of a text without NUL, also where what is
  read starts again after it (`takeWhile_repeated`).
-/

namespace ApiStarter.Text

/-! ## UTF-8 -/

def utf8 (s : List Char) : List UInt8 := s.flatMap String.utf8EncodeChar

/-- The text of bytes that are valid UTF-8. -/
def decodeUtf8 (bytes : List UInt8) : Option String := String.fromUTF8? bytes.toByteArray

theorem utf8_cons (c : Char) (s : List Char) : utf8 (c :: s) = String.utf8EncodeChar c ++ utf8 s :=
  List.flatMap_cons

theorem utf8_append (s t : List Char) : utf8 (s ++ t) = utf8 s ++ utf8 t := List.flatMap_append

theorem decodeUtf8_eq_some {bytes : List UInt8} {s : String} :
    decodeUtf8 bytes = some s ↔ bytes = utf8 s.toList := by
  have hutf8 : (utf8 s.toList).toByteArray = s.toByteArray := String.utf8Encode_toList
  have hinj : ∀ {a b : List UInt8}, a.toByteArray = b.toByteArray → a = b := by
    intro a b h
    have hdata := congrArg (·.data.toList) h
    simpa using hdata
  unfold decodeUtf8 String.fromUTF8?
  constructor
  · split
    next hvalid =>
      intro h
      have hbytes : bytes.toByteArray = s.toByteArray :=
        congrArg String.toByteArray (Option.some.inj h)
      exact hinj (hbytes.trans hutf8.symm)
    · intro h
      cases h
  · rintro rfl
    rw [hutf8, dif_pos s.isValidUTF8]
    rfl

/-- An ASCII character is one byte; the bytes of any other are outside ASCII. -/
theorem utf8EncodeChar_cases (c : Char) :
    c.toNat < 128 ∧ String.utf8EncodeChar c = [UInt8.ofNat c.toNat] ∨
      128 ≤ c.toNat ∧ ∀ b ∈ String.utf8EncodeChar c, 128 ≤ b.toNat := by
  have htoNat : c.val.toNat = c.toNat := rfl
  fun_cases String.utf8EncodeChar c with
  | case1 v h => exact .inl ⟨by omega, rfl⟩
  | case2 v h h2 =>
    refine .inr ⟨by omega, ?_⟩
    simp only [List.forall_mem_cons, UInt8.toNat_ofNat']
    refine ⟨by omega, by omega, by simp⟩
  | case3 v h h2 h3 =>
    refine .inr ⟨by omega, ?_⟩
    simp only [List.forall_mem_cons, UInt8.toNat_ofNat']
    refine ⟨by omega, by omega, by omega, by simp⟩
  | case4 v h h2 h3 =>
    refine .inr ⟨by omega, ?_⟩
    simp only [List.forall_mem_cons, UInt8.toNat_ofNat']
    refine ⟨by omega, by omega, by omega, by omega, by simp⟩

theorem utf8_length (text : String) : (utf8 text.toList).length = text.utf8ByteSize := by
  rw [← String.size_toByteArray, ← String.utf8Encode_toList, List.utf8Encode,
    List.size_toByteArray]
  rfl

theorem utf8_injective {text text' : String} (h : utf8 text.toList = utf8 text'.toList) :
    text = text' := by
  unfold utf8 at h
  rw [← String.toByteArray_inj, ← String.utf8Encode_toList, ← String.utf8Encode_toList,
    List.utf8Encode, List.utf8Encode, h]

theorem zero_notMem_utf8 {s : List Char} (h : Char.ofNat 0 ∉ s) : 0 ∉ utf8 s := by
  intro hzero
  obtain ⟨c, hc, hbyte⟩ := List.mem_flatMap.1 hzero
  rcases utf8EncodeChar_cases c with ⟨hlt, hone⟩ | ⟨-, hall⟩
  · rw [hone, List.mem_singleton] at hbyte
    have hnat := congrArg UInt8.toNat hbyte
    rw [UInt8.toNat_ofNat', Nat.mod_eq_of_lt (by omega)] at hnat
    have hnul : c = Char.ofNat 0 := Char.toNat_inj.1 hnat.symm
    exact h (hnul ▸ hc)
  · exact absurd (hall 0 hbyte) (by decide)

/-! ## Repeated bytes -/

section

variable {α β : Type}

/-- The first `n` elements of the list repeated without end. -/
def repeated (n : Nat) (l : List α) : List α := (List.replicate n l).flatten.take n

theorem repeated_succ (n : Nat) (l : List α) :
    repeated (n + 1) l = (l ++ (List.replicate n l).flatten).take (n + 1) := by
  rw [repeated, List.replicate_succ, List.flatten_cons]

theorem repeated_map (f : α → β) (n : Nat) (l : List α) :
    repeated n (l.map f) = (repeated n l).map f := by
  rw [repeated, repeated, List.map_take, List.map_flatten, List.map_replicate]

/-- No more than `n` elements of the list count. -/
theorem repeated_take (n : Nat) (l : List α) : repeated n (l.take n) = repeated n l := by
  cases n with
  | zero => rfl
  | succ n =>
    rcases Nat.le_total l.length (n + 1) with hshort | hlong
    · rw [List.take_of_length_le hshort]
    · rw [repeated_succ, repeated_succ, List.take_append_of_le_length (by simp [hlong]),
        List.take_append_of_le_length hlong, List.take_take, Nat.min_self]

/-- What comes before the first zero is the list, as far as it is read. -/
theorem takeWhile_repeated {n : Nat} {l : List UInt8} (h : 0 ∉ l) :
    (repeated n (l ++ [0])).takeWhile (· ≠ 0) = l.take n := by
  cases n with
  | zero => rfl
  | succ n =>
    have hall : ∀ b ∈ l, decide (b ≠ 0) = true := fun b hb =>
      decide_eq_true fun hzero => h (hzero ▸ hb)
    rw [repeated_succ, List.append_assoc]
    rcases Nat.lt_or_ge n l.length with hlong | hshort
    · rw [List.take_append_of_le_length hlong, List.takeWhile_eq_self_iff]
      exact fun b hb => hall b (List.mem_of_mem_take hb)
    · obtain ⟨k, hk⟩ : ∃ k, n + 1 - l.length = k + 1 := ⟨n - l.length, by omega⟩
      rw [List.take_append, List.take_of_length_le (by omega), List.takeWhile_append_of_pos hall,
        hk]
      exact List.append_nil l

end

end ApiStarter.Text
