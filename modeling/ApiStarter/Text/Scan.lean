import Mathlib.Data.List.Infix

/-
  Rewriting a text in one pass from the left.

  A rule looks at the rest of the text. Where it applies it says what to put in place of the
  items it takes, and the pass goes on behind them; what it puts is not looked at again.
  `replace` is the rule of one pattern: every leftmost occurrence that does not overlap the one
  before it.
-/

namespace ApiStarter.Text

variable {α : Type*}

/-- One pass of a rule. Where it applies, the rule gives how many items it takes after the first,
    and their replacement. `skip` counts the items still taken by the last application. -/
def scan (rule : List α → Option (ℕ × List α)) : ℕ → List α → List α
  | _, [] => []
  | skip + 1, _ :: rest => scan rule skip rest
  | 0, c :: rest =>
    match rule (c :: rest) with
    | none => c :: scan rule 0 rest
    | some (more, value) => value ++ scan rule more rest

/-- The rule applies nowhere in `w` when `rest` follows it. -/
def Passes (rule : List α → Option (ℕ × List α)) (w rest : List α) : Prop :=
  ∀ s, s <:+ w → s ≠ [] → rule (s ++ rest) = none

section Rules

variable {rule : List α → Option (ℕ × List α)} {w rest : List α}

theorem scan_eq_drop (skip : ℕ) (text : List α) :
    scan rule skip text = scan rule 0 (text.drop skip) := by
  induction text generalizing skip with
  | nil => simp [scan]
  | cons c text ih =>
    cases skip with
    | zero => rfl
    | succ skip => simpa [scan] using ih skip

theorem scan_pass (h : Passes rule w rest) : scan rule 0 (w ++ rest) = w ++ scan rule 0 rest := by
  induction w with
  | nil => rfl
  | cons c w ih =>
    have hhead : rule (c :: (w ++ rest)) = none := h (c :: w) (List.suffix_refl _) (by simp)
    have htail : Passes rule w rest := fun s hs => h s (hs.trans (List.suffix_cons c w))
    simp only [List.cons_append, scan, hhead, ih htail]

theorem scan_hit {value : List α} (hw : w ≠ [])
    (h : rule (w ++ rest) = some (w.length - 1, value)) :
    scan rule 0 (w ++ rest) = value ++ scan rule 0 rest := by
  cases w with
  | nil => exact absurd rfl hw
  | cons c w =>
    rw [List.cons_append] at h ⊢
    simp only [scan, h]
    rw [scan_eq_drop ((c :: w).length - 1)]
    simp

end Rules

/-! ## Replacing a pattern -/

section Replace

variable [DecidableEq α] {pattern value w rest text : List α}

def patternRule (pattern value text : List α) : Option (ℕ × List α) :=
  if pattern <+: text then some (pattern.length - 1, value) else none

/-- `str::replace`, of a pattern that is not empty. -/
def replace (pattern value text : List α) : List α :=
  scan (patternRule pattern value) 0 text

theorem patternRule_eq_none : patternRule pattern value text = none ↔ ¬ pattern <+: text := by
  simp [patternRule]

@[simp]
theorem replace_nil : replace pattern value [] = [] := rfl

theorem replace_pattern_append (hp : pattern ≠ []) :
    replace pattern value (pattern ++ rest) = value ++ replace pattern value rest :=
  scan_hit hp (by simp [patternRule])

/-- Occurrences that overlap the one before are passed over. -/
example : replace [1, 1] [2] [1, 1, 1, 1, 1] = [2, 2, 1] := by decide

theorem replace_pass (h : ∀ s, s <:+ w → s ≠ [] → ¬ pattern <+: s ++ rest) :
    replace pattern value (w ++ rest) = w ++ replace pattern value rest :=
  scan_pass fun s hs hne => patternRule_eq_none.mpr (h s hs hne)

/-- Where the pattern does not occur, nothing changes. -/
theorem replace_eq_self (h : ¬ pattern <:+: text) : replace pattern value text = text := by
  have hpass : replace pattern value (text ++ []) = text ++ replace pattern value [] := by
    apply replace_pass
    intro s hs _ hbegins
    rw [List.append_nil] at hbegins
    exact h (hbegins.isInfix.trans hs.isInfix)
  simpa using hpass

/-- The pattern as its own value: nothing changes. -/
theorem replace_self (hp : pattern ≠ []) : replace pattern pattern text = text := by
  suffices h : ∀ skip, scan (patternRule pattern pattern) skip text = text.drop skip from h 0
  induction text with
  | nil => simp [scan]
  | cons c text ih =>
    intro skip
    cases skip with
    | succ skip => simpa [scan] using ih skip
    | zero =>
      by_cases hbegins : pattern <+: c :: text
      · simp only [scan, patternRule, if_pos hbegins]
        show pattern ++ scan (patternRule pattern pattern) _ text = _
        obtain ⟨behind, hbehind⟩ := hbegins
        obtain ⟨d, pattern, rfl⟩ := List.exists_cons_of_ne_nil hp
        rw [ih]
        simp only [List.cons_append, List.cons.injEq] at hbehind ⊢
        simp [hbehind.1, ← hbehind.2]
      · simp only [scan, patternRule_eq_none.mpr hbegins, ih 0]
        rfl

omit [DecidableEq α] in
/-- An occurrence cannot reach into a text whose first item the pattern does not have. -/
theorem prefix_of_prefix_append (hfirst : ∀ c ∈ rest.head?, c ∉ pattern)
    (h : pattern <+: w ++ rest) : pattern <+: w := by
  by_cases hlen : pattern.length ≤ w.length
  · exact List.prefix_of_prefix_length_le h (List.prefix_append w rest) hlen
  · obtain ⟨beyond, rfl⟩ := List.prefix_of_prefix_length_le (List.prefix_append w rest) h (by omega)
    rw [List.prefix_append_right_inj] at h
    cases beyond with
    | nil => simp
    | cons c beyond =>
      obtain ⟨behind, rfl⟩ := h
      exact absurd (by simp) (hfirst c (by simp))

/-- Replacing goes through a place that no occurrence reaches over. -/
theorem replace_append (hfirst : ∀ c ∈ rest.head?, c ∉ pattern) :
    replace pattern value (w ++ rest) = replace pattern value w ++ replace pattern value rest := by
  suffices h : ∀ skip ≤ w.length, scan (patternRule pattern value) skip (w ++ rest) =
      scan (patternRule pattern value) skip w ++ replace pattern value rest from h 0 (Nat.zero_le _)
  induction w with
  | nil =>
    intro skip hskip
    obtain rfl : skip = 0 := by simpa using hskip
    rfl
  | cons c w ih =>
    intro skip hskip
    cases skip with
    | succ skip => simpa [scan] using ih skip (by simpa using hskip)
    | zero =>
      by_cases hbegins : pattern <+: c :: w
      · have hlen := hbegins.length_le
        have hboth : pattern <+: c :: (w ++ rest) :=
          hbegins.trans (List.prefix_append (c :: w) rest)
        simp only [List.cons_append, scan, patternRule, if_pos hbegins, if_pos hboth]
        rw [List.append_assoc]
        exact congrArg (value ++ ·) (ih _ (by simp at hlen; omega))
      · have hboth : ¬ pattern <+: c :: (w ++ rest) := fun h =>
          hbegins (prefix_of_prefix_append hfirst (w := c :: w) h)
        simp only [List.cons_append, scan, patternRule_eq_none.mpr hbegins,
          patternRule_eq_none.mpr hboth, ih 0 (Nat.zero_le _)]

/-- Each occurrence replaced changes the length by as much. -/
theorem length_replace (hp : pattern ≠ []) : ∃ hits,
    (replace pattern value text).length + hits * pattern.length =
      text.length + hits * value.length := by
  suffices h : ∀ skip, ∃ hits,
      (scan (patternRule pattern value) skip text).length + hits * pattern.length =
        (text.drop skip).length + hits * value.length from h 0
  induction text with
  | nil => exact fun skip => ⟨0, by simp [scan]⟩
  | cons c text ih =>
    intro skip
    cases skip with
    | succ skip => simpa [scan] using ih skip
    | zero =>
      by_cases hbegins : pattern <+: c :: text
      · obtain ⟨hits, hhits⟩ := ih (pattern.length - 1)
        have hlen := hbegins.length_le
        have hpos := List.length_pos_iff.mpr hp
        refine ⟨hits + 1, ?_⟩
        simp only [scan, patternRule, if_pos hbegins, List.length_append, List.length_drop,
          List.length_cons, Nat.add_mul] at hhits hlen ⊢
        omega
      · obtain ⟨hits, hhits⟩ := ih 0
        refine ⟨hits, ?_⟩
        simp only [scan, patternRule_eq_none.mpr hbegins, List.drop_zero, List.length_cons]
          at hhits ⊢
        omega

/-- A text with an occurrence in it stays as it is only if the value is the pattern. -/
theorem eq_of_replace_fixed (hp : pattern ≠ []) (hfixed : replace pattern value text = text)
    (hoccurs : pattern <:+: text) : value = pattern := by
  induction text with
  | nil => exact absurd (List.infix_nil.mp hoccurs) hp
  | cons c text ih =>
    by_cases hbegins : pattern <+: c :: text
    · obtain ⟨behind, hbehind⟩ := hbegins
      rw [← hbehind, replace_pattern_append hp] at hfixed
      obtain ⟨hits, hhits⟩ := @length_replace _ _ pattern value behind hp
      have hlen := congrArg List.length hfixed
      simp only [List.length_append] at hlen
      have hsame : (hits + 1) * value.length = (hits + 1) * pattern.length := by
        simp only [Nat.add_mul]
        omega
      exact (List.append_inj hfixed (Nat.eq_of_mul_eq_mul_left (by omega) hsame)).1
    · obtain hbad | hinside := List.infix_cons_iff.mp hoccurs
      · exact absurd hbad hbegins
      · apply ih _ hinside
        simpa [replace, scan, patternRule_eq_none.mpr hbegins] using hfixed

end Replace

end ApiStarter.Text
