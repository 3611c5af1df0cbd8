import ApiStarter.Text.Scan
import Mathlib.Data.List.Flatten

/-
  Templates: literal text with named placeholders.

  `substitute` reads a text once and replaces each placeholder that has a value.
  A `Template` keeps the literal pieces and the names apart; `Template.fill` puts values in.
  Where the literals contain no placeholder of their own, substituting in the text of a template
  is filling it (`Template.substitute_source`), and replacing one placeholder by a value fills
  its places and goes through every value already put in (`Template.replace_fill`).
-/

namespace ApiStarter.Text

/-- The placeholder of a name: the name between two pairs of braces. -/
def placeholder (name : List Char) : List Char := '{' :: '{' :: (name ++ ['}', '}'])

/-- A name that a placeholder can carry. -/
def Nameable (name : List Char) : Prop := '{' ∉ name ∧ '}' ∉ name

instance (name : List Char) : Decidable (Nameable name) := inferInstanceAs (Decidable (_ ∧ _))

/-- Literal text: no placeholder begins in it. -/
def Plain (text : List Char) : Prop := ¬ ['{', '{'] <:+: text ∧ text.getLast? ≠ some '{'

instance (text : List Char) : Decidable (Plain text) := inferInstanceAs (Decidable (_ ∧ _))

/-- The name of the placeholder that a text begins with. -/
def nameAt : List Char → Option (List Char)
  | '{' :: '{' :: rest =>
    let name := rest.takeWhile fun c => c != '{' && c != '}'
    if ['}', '}'] <+: rest.dropWhile fun c => c != '{' && c != '}' then some name else none
  | _ => none

def placeholderRule (value : List Char → Option (List Char)) (text : List Char) :
    Option (ℕ × List Char) :=
  (nameAt text).bind fun name => (value name).map fun v => (name.length + 3, v)

/-- Every placeholder whose name has a value gives way to it, at once. -/
def substitute (value : List Char → Option (List Char)) (text : List Char) : List Char :=
  scan (placeholderRule value) 0 text

/-! ## Where a placeholder can begin -/

section Placeholders

variable {name name' text rest s : List Char}

theorem placeholder_ne_nil : placeholder name ≠ [] := by simp [placeholder]

theorem placeholder_of_nameAt (h : nameAt text = some name) : placeholder name <+: text := by
  unfold nameAt at h
  split at h
  · rename_i rest
    split at h
    · rename_i hclosed
      obtain rfl := Option.some.inj h
      obtain ⟨behind, hbehind⟩ := hclosed
      refine ⟨behind, ?_⟩
      have hrest := List.takeWhile_append_dropWhile (p := fun c => c != '{' && c != '}') (l := rest)
      rw [← hbehind] at hrest
      simp only [placeholder, List.cons_append, List.append_assoc] at hrest ⊢
      rw [hrest]
    · cases h
  · cases h

theorem nameAt_placeholder (h : Nameable name) : nameAt (placeholder name ++ rest) = some name := by
  have hname : ∀ c ∈ name, (c != '{' && c != '}') = true := by
    intro c hc
    simp only [Bool.and_eq_true, bne_iff_ne]
    exact ⟨fun heq => h.1 (heq ▸ hc), fun heq => h.2 (heq ▸ hc)⟩
  simp [placeholder, nameAt, List.takeWhile_append_of_pos hname, List.dropWhile_append_of_pos hname]

/-- Only the name itself stands in a placeholder. -/
theorem placeholder_prefix_iff (h : Nameable name) (h' : Nameable name') :
    placeholder name <+: placeholder name' ++ rest ↔ name = name' := by
  constructor
  · rintro ⟨behind, hbehind⟩
    have hnames : nameAt (placeholder name ++ behind) = some name := nameAt_placeholder h
    rw [hbehind, nameAt_placeholder h'] at hnames
    exact (Option.some.inj hnames).symm
  · rintro rfl
    exact List.prefix_append _ _

theorem Plain.not_braces_at (h : Plain text) (hs : s <:+ text) (hne : s ≠ []) :
    ¬ ['{', '{'] <+: s ++ rest := by
  intro hbegins
  cases s with
  | nil => exact hne rfl
  | cons c s =>
    obtain ⟨rfl, hsecond⟩ := List.cons_prefix_cons.mp hbegins
    cases s with
    | nil =>
      obtain ⟨front, rfl⟩ := hs
      exact h.2 (by simp)
    | cons d s =>
      obtain ⟨rfl, -⟩ := List.cons_prefix_cons.mp hsecond
      exact h.1 ((List.prefix_append ['{', '{'] s).isInfix.trans hs.isInfix)

/-- No placeholder begins in literal text. -/
theorem Plain.not_placeholder_at (h : Plain text) (hs : s <:+ text) (hne : s ≠ []) :
    ¬ placeholder name <+: s ++ rest := fun hbegins =>
  h.not_braces_at hs hne ((List.prefix_append ['{', '{'] (name ++ ['}', '}'])).trans hbegins)

theorem not_prefix_of_not_mem (hs : '{' ∉ s) (hne : s ≠ []) (tail : List Char) :
    ¬ '{' :: tail <+: s ++ rest := by
  cases s with
  | nil => exact absurd rfl hne
  | cons c s =>
    intro hbegins
    obtain rfl := (List.cons_prefix_cons.mp hbegins).1
    exact hs List.mem_cons_self

theorem Nameable.not_mem_closed (h : Nameable name) : '{' ∉ name ++ ['}', '}'] := by
  simp [h.1]

/-- No placeholder begins inside another. -/
theorem not_placeholder_inside (h : Nameable name') (hs : s <:+ placeholder name')
    (hne : s ≠ []) (hinside : s ≠ placeholder name') : ¬ placeholder name <+: s ++ rest := by
  obtain heq | hs := List.suffix_cons_iff.mp hs
  · exact absurd heq hinside
  obtain rfl | hs := List.suffix_cons_iff.mp hs
  · intro hbegins
    have hsecond := (List.cons_prefix_cons.mp hbegins).2
    exact not_prefix_of_not_mem h.not_mem_closed (by simp) _ hsecond
  · exact not_prefix_of_not_mem (fun hmem => h.not_mem_closed (hs.subset hmem)) hne _

/-- An occurrence lies in what follows, or begins before it. -/
theorem infix_append_cases {p : List Char} (h : p <:+: text ++ rest) :
    p <:+: rest ∨ ∃ s, s <:+ text ∧ s ≠ [] ∧ p <+: s ++ rest := by
  induction text with
  | nil => exact .inl h
  | cons c text ih =>
    obtain hbegins | hinside := List.infix_cons_iff.mp h
    · exact .inr ⟨c :: text, List.suffix_refl _, by simp, hbegins⟩
    · obtain hrest | ⟨s, hs, hne, hbegins⟩ := ih hinside
      · exact .inl hrest
      · exact .inr ⟨s, hs.trans (List.suffix_cons c text), hne, hbegins⟩

/-- An occurrence of a placeholder does not touch another placeholder. -/
theorem placeholder_infix_cases (h : Nameable name) (h' : Nameable name') (hne : name ≠ name')
    (hoccurs : placeholder name <:+: text ++ (placeholder name' ++ rest)) :
    placeholder name <:+: text ∨ placeholder name <:+: rest := by
  obtain hlater | ⟨s, hs, hsne, hbegins⟩ := infix_append_cases hoccurs
  · obtain hrest | ⟨s, hs, hsne, hbegins⟩ := infix_append_cases hlater
    · exact .inr hrest
    · by_cases hwhole : s = placeholder name'
      · subst hwhole
        exact absurd ((placeholder_prefix_iff h h').mp hbegins) hne
      · exact absurd hbegins (not_placeholder_inside h' hs hsne hwhole)
  · left
    by_cases hlen : (placeholder name).length ≤ s.length
    · exact (List.prefix_of_prefix_length_le hbegins (List.prefix_append _ _) hlen).isInfix.trans
        hs.isInfix
    · -- the braces of `name'` would stand in the occurrence, behind its own first brace
      obtain ⟨beyond, hover⟩ := List.prefix_of_prefix_length_le (List.prefix_append s _) hbegins
        (by omega)
      rw [← hover, List.prefix_append_right_inj] at hbegins
      have hclosed := h.not_mem_closed
      obtain ⟨o, beyond, rfl⟩ : ∃ o beyond', beyond = o :: beyond' :=
        List.exists_cons_of_ne_nil fun hnil => hlen (by simp [← hover, hnil])
      obtain ⟨rfl, hsecond⟩ := List.cons_prefix_cons.mp hbegins
      cases s with
      | nil => exact absurd rfl hsne
      | cons c s =>
        have htail := (List.cons.inj hover).2
        cases s with
        | nil =>
          have hover' : beyond = name ++ ['}', '}'] := (List.cons.inj htail).2
          subst hover'
          obtain ⟨d, w, hw⟩ := List.exists_cons_of_ne_nil
            (show name ++ ['}', '}'] ≠ [] by simp)
          rw [hw] at hsecond hclosed
          exact absurd (by simp [(List.cons_prefix_cons.mp hsecond).1]) hclosed
        | cons d s =>
          have hinside := (List.cons.inj htail).2
          exact absurd (hinside ▸ by simp) hclosed

theorem Plain.append (h : Plain text) (h' : Plain rest) : Plain (text ++ rest) := by
  constructor
  · intro hoccurs
    obtain hrest | ⟨s, hs, hne, hbegins⟩ := infix_append_cases hoccurs
    · exact h'.1 hrest
    · exact h.not_braces_at hs hne hbegins
  · rw [List.getLast?_append]
    cases hlast : rest.getLast? with
    | none => simpa using h.2
    | some c => simpa [hlast] using h'.2

end Placeholders

/-! ## One pass over literal text and placeholders -/

section Passing

variable {name name' text v rest : List Char} {value : List Char → Option (List Char)}

theorem substitute_plain (h : Plain text) :
    substitute value (text ++ rest) = text ++ substitute value rest := by
  apply scan_pass
  intro s hs hne
  cases hname : nameAt (s ++ rest) with
  | none => simp [placeholderRule, hname]
  | some name => exact absurd (placeholder_of_nameAt hname) (h.not_placeholder_at hs hne)

theorem substitute_placeholder (h : Nameable name) :
    substitute value (placeholder name ++ rest) =
      (value name).getD (placeholder name) ++ substitute value rest := by
  cases hvalue : value name with
  | some v =>
    apply scan_hit placeholder_ne_nil
    rw [placeholderRule, nameAt_placeholder h]
    simp [hvalue, placeholder]
  | none =>
    apply scan_pass
    intro s hs hne
    by_cases hwhole : s = placeholder name
    · subst hwhole
      simp [placeholderRule, nameAt_placeholder h, hvalue]
    · cases hname : nameAt (s ++ rest) with
      | none => simp [placeholderRule, hname]
      | some name' =>
        exact absurd (placeholder_of_nameAt hname) (not_placeholder_inside h hs hne hwhole)

theorem replace_plain (h : Plain text) :
    replace (placeholder name) v (text ++ rest) = text ++ replace (placeholder name) v rest :=
  replace_pass fun _ hs hne => h.not_placeholder_at hs hne

theorem replace_placeholder (h : Nameable name) (h' : Nameable name') :
    replace (placeholder name) v (placeholder name' ++ rest) =
      (if name' = name then v else placeholder name') ++ replace (placeholder name) v rest := by
  by_cases hname : name' = name
  · subst hname
    rw [if_pos rfl, replace_pattern_append placeholder_ne_nil]
  · rw [if_neg hname]
    apply replace_pass
    intro s hs hne
    by_cases hwhole : s = placeholder name'
    · subst hwhole
      exact fun hbegins => hname ((placeholder_prefix_iff h h').mp hbegins).symm
    · exact not_placeholder_inside h' hs hne hwhole

end Passing

/-! ## Templates -/

/-- What stands at the places of a template, each with the literal text behind it. -/
def pieces (value : List Char → Option (List Char)) (holes : List (List Char × List Char)) :
    List Char :=
  holes.flatMap fun hole => (value hole.1).getD (placeholder hole.1) ++ hole.2

@[simp]
theorem pieces_nil {value : List Char → Option (List Char)} : pieces value [] = [] := rfl

@[simp]
theorem pieces_cons {value : List Char → Option (List Char)} {hole : List Char × List Char}
    {holes : List (List Char × List Char)} : pieces value (hole :: holes) =
      (value hole.1).getD (placeholder hole.1) ++ (hole.2 ++ pieces value holes) := by
  simp [pieces]

/-- Literal text, and the names of the placeholders, each with the literal text behind it. The
    literal text behind a placeholder begins with a character of no name. -/
structure Template where
  opening : List Char
  holes : List (List Char × List Char)
  plain_opening : Plain opening
  nameable : ∀ hole ∈ holes, Nameable hole.1
  plain : ∀ hole ∈ holes, Plain hole.2
  separated : ∀ hole ∈ holes, ∃ c, hole.2.head? = some c ∧ ∀ hole' ∈ holes,
    c ∉ placeholder hole'.1

namespace Template

variable (t : Template) {name : List Char} {value value' : List Char → Option (List Char)}

def names : List (List Char) := t.holes.map Prod.fst

/-- The template with the names that have a value filled in, the others as they stand. -/
def fill (value : List Char → Option (List Char)) : List Char := t.opening ++ pieces value t.holes

/-- The text of the template. -/
def source : List Char := t.fill fun _ => none

/-- A pass that keeps literal text and puts values in the places fills the template. -/
theorem pass_source {f : List Char → List Char} (hnil : f [] = [])
    (hplain : ∀ text rest, Plain text → f (text ++ rest) = text ++ f rest)
    (hplace : ∀ name ∈ t.names, ∀ rest,
      f (placeholder name ++ rest) = (value name).getD (placeholder name) ++ f rest) :
    f t.source = t.fill value := by
  have hpieces : ∀ holes ⊆ t.holes, f (pieces (fun _ => none) holes) = pieces value holes := by
    intro holes
    induction holes with
    | nil => exact fun _ => hnil
    | cons hole holes ih =>
      intro hsub
      have hmem := hsub List.mem_cons_self
      simp only [pieces_cons, Option.getD_none]
      rw [hplace _ (List.mem_map_of_mem hmem), hplain _ _ (t.plain hole hmem),
        ih (List.subset_of_cons_subset hsub)]
  rw [source, fill, hplain _ _ t.plain_opening, hpieces t.holes (List.Subset.refl _), fill]

theorem nameable_of_mem (hname : name ∈ t.names) : Nameable name := by
  obtain ⟨hole, hmem, rfl⟩ := List.mem_map.mp hname
  exact t.nameable hole hmem

/-- Substituting in the text of a template fills its places. -/
theorem substitute_source : substitute value t.source = t.fill value :=
  t.pass_source rfl (fun _ _ => substitute_plain)
    fun _ hname _ => substitute_placeholder (t.nameable_of_mem hname)

/-- Only the template's own placeholders stand in its text. -/
theorem replace_source {v : List Char} (hname : Nameable name) (hother : name ∉ t.names) :
    replace (placeholder name) v t.source = t.source := by
  apply t.pass_source replace_nil (fun _ _ => replace_plain)
  intro own hown rest
  have hne : own ≠ name := fun heq => hother (heq ▸ hown)
  rw [replace_placeholder hname (t.nameable_of_mem hown), if_neg hne]
  rfl

/-- What replacing the placeholder of `name` makes of the values: it fills its own places, and
    goes through the values already there. -/
def rescan (name v : List Char) (value : List Char → Option (List Char)) (other : List Char) :
    Option (List Char) :=
  match value other with
  | some w => some (replace (placeholder name) v w)
  | none => if other = name then some v else none

/-- Replacing one placeholder of a template. -/
theorem replace_fill {v : List Char} (hname : name ∈ t.names) :
    replace (placeholder name) v (t.fill value) = t.fill (rescan name v value) := by
  obtain ⟨own, hown, rfl⟩ := List.mem_map.mp hname
  have hpieces : ∀ holes ⊆ t.holes, replace (placeholder own.1) v (pieces value holes) =
      pieces (rescan own.1 v value) holes := by
    intro holes
    induction holes with
    | nil => exact fun _ => rfl
    | cons hole holes ih =>
      intro hsub
      have hmem := hsub List.mem_cons_self
      have hbehind : replace (placeholder own.1) v (hole.2 ++ pieces value holes) =
          hole.2 ++ pieces (rescan own.1 v value) holes := by
        rw [replace_plain (t.plain hole hmem), ih (List.subset_of_cons_subset hsub)]
      obtain ⟨c, hc, hfirst⟩ := t.separated hole hmem
      simp only [pieces_cons]
      cases hvalue : value hole.1 with
      | none =>
        rw [Option.getD_none, replace_placeholder (t.nameable own hown) (t.nameable hole hmem),
          hbehind]
        simp only [rescan, hvalue]
        split <;> rfl
      | some w =>
        have hhead : ∀ d ∈ (hole.2 ++ pieces value holes).head?, d ∉ placeholder own.1 := by
          simpa [List.head?_append, hc] using hfirst own hown
        rw [Option.getD_some, replace_append hhead, hbehind]
        simp only [rescan, hvalue, Option.getD_some]
  rw [fill, replace_plain t.plain_opening, hpieces t.holes (List.Subset.refl _), fill]

theorem fill_congr (h : ∀ name ∈ t.names, value name = value' name) :
    t.fill value = t.fill value' := by
  unfold fill pieces
  rw [List.flatMap_congr]
  intro hole hmem
  rw [h hole.1 (List.mem_map_of_mem hmem)]

/-- A placeholder that is not of the template occurs in the filled template wherever it occurs
    in the template filled with fewer values. -/
theorem occurs_fill_of_le (hname : Nameable name) (hother : name ∉ t.names)
    (hle : ∀ other, value' other = value other ∨ value' other = none)
    (h : placeholder name <:+: t.fill value') : placeholder name <:+: t.fill value := by
  have hpieces : ∀ holes ⊆ t.holes, ∀ w, placeholder name <:+: w ++ pieces value' holes →
      placeholder name <:+: w ++ pieces value holes := by
    intro holes
    induction holes with
    | nil => exact fun _ _ hw => hw
    | cons hole holes ih =>
      intro hsub w hw
      have hmem := hsub List.mem_cons_self
      have ih := ih (List.subset_of_cons_subset hsub)
      rw [pieces_cons] at hw ⊢
      obtain hsame | hnone := hle hole.1
      · rw [hsame] at hw
        have htail := ih (w ++ ((value hole.1).getD (placeholder hole.1) ++ hole.2))
        simpa using htail (by simpa using hw)
      · rw [hnone, Option.getD_none] at hw
        have hne : name ≠ hole.1 := fun heq => hother (heq ▸ List.mem_map_of_mem hmem)
        obtain hbefore | hbehind := placeholder_infix_cases hname (t.nameable hole hmem) hne hw
        · exact hbefore.trans (List.prefix_append _ _).isInfix
        · have hrest := ih hole.2 hbehind
          have hend : hole.2 ++ pieces value holes <:+ w ++ ((value hole.1).getD
              (placeholder hole.1) ++ (hole.2 ++ pieces value holes)) := by
            simp [List.suffix_append_of_suffix]
          exact hrest.trans hend.isInfix
  exact hpieces t.holes (List.Subset.refl _) t.opening h

/-- Two fillings that differ at one name at most, and agree as texts, agree at that name too. -/
theorem fill_inj_at (hname : name ∈ t.names)
    (hothers : ∀ other ∈ t.names, other ≠ name → value other = value' other)
    (h : t.fill value = t.fill value') :
    (value name).getD (placeholder name) = (value' name).getD (placeholder name) := by
  have hlen : ∀ holes ⊆ t.holes,
      (pieces value holes).length +
          (holes.map Prod.fst).count name * ((value' name).getD (placeholder name)).length =
        (pieces value' holes).length +
          (holes.map Prod.fst).count name * ((value name).getD (placeholder name)).length := by
    intro holes
    induction holes with
    | nil => simp
    | cons hole holes ih =>
      intro hsub
      have hmem := List.mem_map_of_mem (f := Prod.fst) (hsub List.mem_cons_self)
      have ih := ih (List.subset_of_cons_subset hsub)
      simp only [pieces_cons, List.length_append, List.map_cons, List.count_cons, beq_iff_eq]
      by_cases hown : hole.1 = name
      · simp only [hown, if_true, Nat.add_mul]
        omega
      · simp only [hothers hole.1 hmem hown, if_neg hown, Nat.add_zero]
        omega
  have hpieces := List.append_cancel_left h
  have hsame : ((value name).getD (placeholder name)).length =
      ((value' name).getD (placeholder name)).length := by
    have hcount : 0 < (t.holes.map Prod.fst).count name := List.count_pos_iff.mpr hname
    have hholes := hlen t.holes (List.Subset.refl _)
    rw [hpieces] at hholes
    exact (Nat.eq_of_mul_eq_mul_left hcount (Nat.add_left_cancel hholes)).symm
  have hfirst : ∀ holes ⊆ t.holes, name ∈ holes.map Prod.fst →
      pieces value holes = pieces value' holes →
        (value name).getD (placeholder name) = (value' name).getD (placeholder name) := by
    intro holes
    induction holes with
    | nil => exact fun _ hmem _ => absurd hmem List.not_mem_nil
    | cons hole holes ih =>
      intro hsub hmem heq
      rw [pieces_cons, pieces_cons] at heq
      by_cases hown : hole.1 = name
      · rw [hown] at heq
        exact (List.append_inj heq hsame).1
      · rw [hothers hole.1 (List.mem_map_of_mem (hsub List.mem_cons_self)) hown] at heq
        have htail := List.append_cancel_left (List.append_cancel_left heq)
        refine ih (List.subset_of_cons_subset hsub) (List.mem_of_ne_of_mem (Ne.symm hown) ?_) htail
        simpa using hmem
  exact hfirst t.holes (List.Subset.refl _) hname hpieces

/-! ## Replacing the placeholders one after the other -/

/-- The values of the names in `keep`. -/
def only (keep : List (List Char)) (value : List Char → Option (List Char)) (name : List Char) :
    Option (List Char) :=
  if name ∈ keep then value name else none

theorem only_nil : only [] value = fun _ => none := rfl

/-- No placeholder is found in the values put in, or it is its own value. -/
structure Unscanned (value : List Char → Option (List Char)) : Prop where
  /-- The placeholders of the template are not found in each other's values. -/
  own : ∀ name ∈ t.names, ∀ other ∈ t.names, name ≠ other → ∀ v w, value name = some v →
    value other = some w → w = placeholder other ∨ ¬ placeholder other <:+: v
  /-- The other placeholders are not found in the template, however much of it is filled in. -/
  foreign : ∀ name ∉ t.names, ∀ v, value name = some v →
    v = placeholder name ∨ ∀ keep, ¬ placeholder name <:+: t.fill (only keep value)

/-- Replaces the placeholders of the entries, in their order. -/
def replaceAll (order : List (List Char × List Char)) (text : List Char) : List Char :=
  order.foldl (fun body entry => replace (placeholder entry.1) entry.2 body) text

variable {t}

/-- One more entry fills its places, and changes nothing else. -/
theorem Unscanned.replace_only (h : t.Unscanned value) {keep : List (List Char)} {v : List Char}
    (hvalue : value name = some v) (hnew : name ∉ keep) :
    replace (placeholder name) v (t.fill (only keep value)) =
      t.fill (only (name :: keep) value) := by
  by_cases hname : name ∈ t.names
  · rw [t.replace_fill hname]
    apply t.fill_congr
    intro other hother
    by_cases hown : other = name
    · subst hown
      simp [rescan, only, hnew, hvalue]
    by_cases hkept : other ∈ keep
    · cases hw : value other with
      | none => simp [rescan, only, hkept, hw, hown]
      | some w =>
        have hunchanged : replace (placeholder name) v w = w := by
          obtain rfl | hnone := h.own other hother name hname hown w v hw hvalue
          · exact replace_self placeholder_ne_nil
          · exact replace_eq_self hnone
        simp [rescan, only, hkept, hw, hunchanged]
    · simp [rescan, only, hkept, hown]
  · have hunchanged : replace (placeholder name) v (t.fill (only keep value)) =
        t.fill (only keep value) := by
      obtain rfl | hnone := h.foreign name hname v hvalue
      · exact replace_self placeholder_ne_nil
      · exact replace_eq_self (hnone keep)
    rw [hunchanged]
    apply t.fill_congr
    intro other hother
    have hne : other ≠ name := fun heq => hname (heq ▸ hother)
    simp [only, hne]

/-- In whatever order they are replaced, the placeholders are filled at once. -/
theorem Unscanned.replaceAll_eq (h : t.Unscanned value) {order : List (List Char × List Char)}
    (hnodup : (order.map Prod.fst).Nodup)
    (hvalue : ∀ name v, value name = some v ↔ (name, v) ∈ order) :
    replaceAll order t.source = t.fill value := by
  have hrun : ∀ rest keep, (rest.map Prod.fst).Nodup → (∀ entry ∈ rest, entry ∈ order) →
      (∀ entry ∈ rest, entry.1 ∉ keep) → replaceAll rest (t.fill (only keep value)) =
        t.fill (only ((rest.map Prod.fst).reverse ++ keep) value) := by
    intro rest
    induction rest with
    | nil => exact fun _ _ _ _ => rfl
    | cons entry rest ih =>
      intro keep hnodup hsub hnew
      obtain ⟨hfresh, hnodup⟩ := List.nodup_cons.mp hnodup
      have hentry := (hvalue entry.1 entry.2).mpr (hsub entry List.mem_cons_self)
      show replaceAll rest (replace (placeholder entry.1) entry.2 _) = _
      rw [h.replace_only hentry (hnew entry List.mem_cons_self), ih (entry.1 :: keep) hnodup
        (fun e he => hsub e (List.mem_cons_of_mem _ he))]
      · simp
      · intro e he hmem
        obtain heq | hkept := List.mem_cons.mp hmem
        · exact hfresh (heq ▸ List.mem_map_of_mem he)
        · exact hnew e (List.mem_cons_of_mem _ he) hkept
  have hall := hrun order [] hnodup (fun _ he => he) (fun _ _ => List.not_mem_nil)
  rw [only_nil] at hall
  rw [source, hall]
  apply t.fill_congr
  intro name _
  cases hname : value name with
  | none => simp [only, hname]
  | some v =>
    have hmem : name ∈ order.map Prod.fst := List.mem_map_of_mem ((hvalue name v).mp hname)
    simp only [only, List.append_nil, List.mem_reverse, if_pos hmem, hname]

section Converse

variable {order : List (List Char × List Char)}

theorem replaceAll_concat {text v : List Char} : replaceAll (order ++ [(name, v)]) text =
    replace (placeholder name) v (replaceAll order text) := by
  simp [replaceAll]

theorem replaceAll_foreign (h : ∀ entry ∈ order, Nameable entry.1 ∧ entry.1 ∉ t.names) :
    replaceAll order t.source = t.source := by
  induction order with
  | nil => rfl
  | cons entry order ih =>
    obtain ⟨hentry, horder⟩ := List.forall_mem_cons.mp h
    show replaceAll order (replace (placeholder entry.1) entry.2 t.source) = t.source
    rw [t.replace_source hentry.1 hentry.2, ih horder]

/-- Where every order fills the template at once, no placeholder of a name that is not of the
    template is found in it. -/
theorem foreign_of_replaceAll {v : List Char} (hname : Nameable name) (hother : name ∉ t.names)
    (hmem : (name, v) ∈ order)
    (hall : ∀ order', order'.Perm order → replaceAll order' t.source = t.fill value) :
    v = placeholder name ∨ ∀ keep, ¬ placeholder name <:+: t.fill (only keep value) := by
  have hfirst := hall _ (List.perm_cons_erase hmem).symm
  have hlast := hall (order.erase (name, v) ++ [(name, v)])
    ((List.perm_append_singleton _ _).trans (List.perm_cons_erase hmem).symm)
  have hrest : replaceAll (order.erase (name, v)) t.source = t.fill value := by
    rw [← hfirst]
    show _ = replaceAll _ (replace (placeholder name) v t.source)
    rw [t.replace_source hname hother]
  have hfixed : replace (placeholder name) v (t.fill value) = t.fill value := by
    rw [← hrest, ← replaceAll_concat, hlast, hrest]
  by_cases hoccurs : placeholder name <:+: t.fill value
  · exact .inl (eq_of_replace_fixed placeholder_ne_nil hfixed hoccurs)
  · right
    intro keep hkeep
    refine hoccurs (t.occurs_fill_of_le hname hother (fun other => ?_) hkeep)
    unfold only
    split
    · exact .inl rfl
    · exact .inr rfl

/-- Where every order fills a template of two names at once, the placeholder of one is not found
    in the value of the other. -/
theorem own_of_replaceAll {other v w : List Char}
    (hname : name ∈ t.names) (hother : other ∈ t.names) (hne : name ≠ other)
    (htwo : ∀ third ∈ t.names, third = name ∨ third = other)
    (hnameable : ∀ entry ∈ order, Nameable entry.1)
    (hnodup : (order.map Prod.fst).Nodup)
    (hvalue : ∀ name v, value name = some v ↔ (name, v) ∈ order)
    (hv : value name = some v) (hw : value other = some w)
    (hall : ∀ order', order'.Perm order → replaceAll order' t.source = t.fill value) :
    w = placeholder other ∨ ¬ placeholder other <:+: v := by
  have hmem : (other, w) ∈ order.erase (name, v) :=
    (List.mem_erase_of_ne (by simp [Ne.symm hne])).mpr ((hvalue other w).mp hw)
  have hperm : order.Perm ((name, v) :: (other, w) :: (order.erase (name, v)).erase (other, w)) :=
    (List.perm_cons_erase ((hvalue name v).mp hv)).trans ((List.perm_cons_erase hmem).cons _)
  generalize (order.erase (name, v)).erase (other, w) = rest at hperm
  -- the entries of other names leave the text as it is
  have hrest : replaceAll rest t.source = t.source := by
    have hkeys := (hperm.map Prod.fst).nodup_iff.mp hnodup
    simp only [List.map_cons, List.nodup_cons, List.mem_cons, not_or] at hkeys
    apply replaceAll_foreign
    intro entry hentry
    refine ⟨hnameable entry (hperm.mem_iff.mpr (by simp [hentry])), fun hown => ?_⟩
    have hkey := List.mem_map_of_mem (f := Prod.fst) hentry
    obtain heq | heq := htwo _ hown
    · exact hkeys.1.2 (heq ▸ hkey)
    · exact hkeys.2.1 (heq ▸ hkey)
  have hordered : (rest ++ [(name, v)] ++ [(other, w)]).Perm order := by
    refine List.Perm.trans ?_ hperm.symm
    simpa using @List.perm_append_comm _ rest [(name, v), (other, w)]
  have hfilled := hall _ hordered
  rw [replaceAll_concat, replaceAll_concat, hrest, source, t.replace_fill hname,
    t.replace_fill hother] at hfilled
  have hothers : ∀ third ∈ t.names, third ≠ name →
      rescan other w (rescan name v fun _ => none) third = value third := by
    intro third hthird hnot
    obtain rfl : third = other := (htwo third hthird).resolve_left hnot
    simp [rescan, hnot, hw]
  have hagree := t.fill_inj_at hname hothers hfilled
  have hfixed : replace (placeholder other) w v = v := by simpa [rescan, hv] using hagree
  by_cases hoccurs : placeholder other <:+: v
  · exact .inl (eq_of_replace_fixed placeholder_ne_nil hfixed hoccurs)
  · exact .inr hoccurs

end Converse

end Template

end ApiStarter.Text
