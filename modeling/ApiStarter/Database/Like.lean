import ApiStarter.Database.Widths
import Mathlib.Data.List.Infix

/-
  What the pattern `%t%` matches.

  Where `t` is plain, the texts that contain it (`like_contains`). In general, `shortest` is a
  text of least length among those `%t%` matches, so `%t%` means "contains `t`" only if `t`
  is plain.
-/

namespace ApiStarter.Database

/-- No character of a plain text is special in a pattern. -/
def Plain (t : List Char) : Prop := '%' ∉ t ∧ '_' ∉ t ∧ '\\' ∉ t

instance : DecidablePred Plain := fun _ => inferInstanceAs (Decidable (_ ∧ _ ∧ _))

theorem plain_cons {c : Char} {t : List Char} :
    Plain (c :: t) ↔ (c ≠ '%' ∧ c ≠ '_' ∧ c ≠ '\\') ∧ Plain t := by
  simp only [Plain, List.mem_cons, not_or, ne_eq, eq_comm (b := c)]
  tauto

/-! ## One step of a match -/

theorem like_percent {p text : List Char} :
    like ('%' :: p) text = true ↔ ∃ rest, rest <:+ text ∧ like p rest = true := by
  change text.tails.any (like p) = true ↔ _
  simp only [List.any_eq_true, List.mem_tails]

theorem like_underscore {p text : List Char} :
    like ('_' :: p) text = true ↔ ∃ d rest, text = d :: rest ∧ like p rest = true := by
  cases text with
  | nil =>
    change false = true ↔ _
    simp
  | cons d rest =>
    change like p rest = true ↔ _
    simp

theorem same_head {c d : Char} {p rest : List Char} :
    (c == d && like p rest) = true ↔ ∃ rest', d :: rest = c :: rest' ∧ like p rest' = true := by
  rw [Bool.and_eq_true, beq_iff_eq]
  constructor
  · rintro ⟨rfl, h⟩
    exact ⟨rest, rfl, h⟩
  · rintro ⟨rest', heq, h⟩
    obtain ⟨rfl, rfl⟩ := List.cons.inj heq
    exact ⟨rfl, h⟩

theorem like_quoted {c : Char} {p text : List Char} :
    like ('\\' :: c :: p) text = true ↔ ∃ rest, text = c :: rest ∧ like p rest = true := by
  cases text with
  | nil =>
    change false = true ↔ _
    simp
  | cons d rest =>
    change (c == d && like p rest) = true ↔ _
    exact same_head

theorem like_char {c : Char} {p text : List Char} (h : c ≠ '%' ∧ c ≠ '_' ∧ c ≠ '\\') :
    like (c :: p) text = true ↔ ∃ rest, text = c :: rest ∧ like p rest = true := by
  cases text with
  | nil =>
    rw [like]
    · simp
    · exact h.1
    · exact h.2.1
    · exact h.2.2
  | cons d rest =>
    rw [like]
    · exact same_head
    · exact h.1
    · exact h.2.1
    · exact fun _ _ hc _ => h.2.2 hc
    · exact h.2.2

theorem like_percent_nil (text : List Char) : like ['%'] text = true :=
  like_percent.2 ⟨[], List.nil_suffix, rfl⟩

/-! ## Plain texts -/

theorem like_starts {t text : List Char} (h : Plain t) :
    like (t ++ ['%']) text = true ↔ t <+: text := by
  induction t generalizing text with
  | nil => exact ⟨fun _ => List.nil_prefix, fun _ => like_percent_nil text⟩
  | cons c t ih =>
    obtain ⟨hc, ht⟩ := plain_cons.1 h
    rw [List.cons_append, like_char hc]
    constructor
    · rintro ⟨rest, rfl, hrest⟩
      exact List.cons_prefix_cons.2 ⟨rfl, (ih ht).1 hrest⟩
    · rintro ⟨rest, rfl⟩
      exact ⟨t ++ rest, rfl, (ih ht).2 (List.prefix_append t rest)⟩

/-- A plain text between two `%` means itself. -/
theorem like_contains {t text : List Char} (h : Plain t) :
    like ('%' :: (t ++ ['%'])) text = true ↔ t <:+: text := by
  rw [like_percent]
  constructor
  · rintro ⟨rest, hrest, hlike⟩
    exact ((like_starts h).1 hlike).isInfix.trans hrest.isInfix
  · rintro ⟨before, after, rfl⟩
    refine ⟨t ++ after, ⟨before, (List.append_assoc ..).symm⟩, ?_⟩
    exact (like_starts h).2 (List.prefix_append t after)

/-! ## The shortest match -/

/-- The shortest text the pattern `%t%` matches, with `fill` for any character. A backslash at
    the end of `t` quotes the `%` after it. -/
def shortest (fill : Char) : List Char → List Char
  | [] => []
  | '%' :: t => shortest fill t
  | '_' :: t => fill :: shortest fill t
  | ['\\'] => ['%']
  | '\\' :: c :: t => c :: shortest fill t
  | c :: t => c :: shortest fill t

/-- The last case of `shortest`. -/
theorem shortest_char (fill : Char) {c : Char} {t : List Char}
    (h : c ≠ '%' ∧ c ≠ '_' ∧ c ≠ '\\') : shortest fill (c :: t) = c :: shortest fill t := by
  rw [shortest]
  · exact h.1
  · exact h.2.1
  · exact fun hc _ => h.2.2 hc
  · exact fun _ _ hc _ => h.2.2 hc

/-- Induction along a text whose pattern is followed by `%`. -/
theorem pattern_induction {P : List Char → Prop} (nil : P [])
    (percent : ∀ t, P t → P ('%' :: t)) (underscore : ∀ t, P t → P ('_' :: t))
    (dangling : P ['\\']) (quoted : ∀ c t, P t → P ('\\' :: c :: t))
    (char : ∀ c t, c ≠ '%' ∧ c ≠ '_' ∧ c ≠ '\\' → P t → P (c :: t)) (t : List Char) : P t := by
  induction t using (shortest.induct) with
  | case1 => exact nil
  | case2 t ih => exact percent t ih
  | case3 t ih => exact underscore t ih
  | case4 => exact dangling
  | case5 c t ih => exact quoted c t ih
  | case6 c t hpercent hunderscore hlast hquoted ih =>
    refine char c t ⟨hpercent, hunderscore, ?_⟩ ih
    rintro rfl
    cases t with
    | nil => exact hlast rfl rfl
    | cons d t => exact hquoted d t rfl rfl

/-- `%t%` matches its shortest text. -/
theorem like_shortest (fill : Char) (t : List Char) :
    like (t ++ ['%']) (shortest fill t) = true := by
  induction t using pattern_induction with
  | nil => exact like_percent_nil []
  | percent t ih => exact like_percent.2 ⟨_, List.suffix_refl _, ih⟩
  | underscore t ih => exact like_underscore.2 ⟨_, _, rfl, ih⟩
  | dangling => exact like_quoted.2 ⟨[], rfl, rfl⟩
  | quoted c t ih => exact like_quoted.2 ⟨_, rfl, ih⟩
  | char c t hc ih =>
    rw [shortest_char fill hc]
    exact (like_char hc).2 ⟨_, rfl, ih⟩

/-- Whatever `%t%` matches is at least as long as the shortest match. -/
theorem shortest_le (fill : Char) {t text : List Char} (h : like (t ++ ['%']) text = true) :
    (shortest fill t).length ≤ text.length := by
  induction t using pattern_induction generalizing text with
  | nil => exact Nat.zero_le _
  | percent t ih =>
    obtain ⟨rest, hrest, h⟩ := like_percent.1 h
    exact (ih h).trans hrest.length_le
  | underscore t ih =>
    obtain ⟨d, rest, rfl, h⟩ := like_underscore.1 h
    exact Nat.succ_le_succ (ih h)
  | dangling =>
    obtain ⟨rest, rfl, -⟩ := like_quoted.1 h
    exact Nat.succ_le_succ (Nat.zero_le _)
  | quoted c t ih =>
    obtain ⟨rest, rfl, hrest⟩ := like_quoted.1 h
    exact Nat.succ_le_succ (ih hrest)
  | char c t hc ih =>
    obtain ⟨rest, rfl, hrest⟩ := (like_char hc).1 h
    rw [shortest_char fill hc]
    exact Nat.succ_le_succ (ih hrest)

/-- A character other than the fill that the shortest match has, every match has. -/
theorem mem_of_mem_shortest {fill c : Char} (hfill : c ≠ fill) {t text : List Char}
    (hc : c ∈ shortest fill t) (h : like (t ++ ['%']) text = true) : c ∈ text := by
  induction t using pattern_induction generalizing text with
  | nil => cases hc
  | percent t ih =>
    obtain ⟨rest, hrest, h⟩ := like_percent.1 h
    exact hrest.subset (ih hc h)
  | underscore t ih =>
    obtain ⟨d, rest, rfl, h⟩ := like_underscore.1 h
    rcases List.mem_cons.1 hc with rfl | hc
    · exact absurd rfl hfill
    · exact List.mem_cons_of_mem _ (ih hc h)
  | dangling =>
    obtain ⟨rest, rfl, -⟩ := like_quoted.1 h
    rw [List.mem_singleton.1 hc]
    exact List.mem_cons_self
  | quoted d t ih =>
    obtain ⟨rest, rfl, hrest⟩ := like_quoted.1 h
    rcases List.mem_cons.1 hc with rfl | hc
    · exact List.mem_cons_self
    · exact List.mem_cons_of_mem _ (ih hc hrest)
  | char d t hd ih =>
    obtain ⟨rest, rfl, hrest⟩ := (like_char hd).1 h
    rw [shortest_char fill hd] at hc
    rcases List.mem_cons.1 hc with rfl | hc
    · exact List.mem_cons_self
    · exact List.mem_cons_of_mem _ (ih hc hrest)

/-- The shortest match is no longer than `t`, and is `t` itself only if `t` is plain. -/
theorem shortest_length (fill : Char) (hfill : fill ≠ '_') (t : List Char) :
    (shortest fill t).length ≤ t.length ∧ (shortest fill t = t → Plain t) := by
  induction t using pattern_induction with
  | nil => exact ⟨Nat.le_refl _, fun _ => by decide⟩
  | percent t ih =>
    refine ⟨Nat.le_succ_of_le ih.1, fun h => ?_⟩
    have hlength : (shortest fill t).length = t.length + 1 := congrArg List.length h
    exact absurd hlength (Nat.ne_of_lt (Nat.lt_succ_of_le ih.1))
  | underscore t ih =>
    exact ⟨Nat.succ_le_succ ih.1, fun h => absurd (List.cons.inj h).1 hfill⟩
  | dangling => exact ⟨Nat.le_refl _, fun h => absurd (List.cons.inj h).1 (by decide)⟩
  | quoted c t ih =>
    refine ⟨Nat.le_succ_of_le (Nat.succ_le_succ ih.1), fun h => ?_⟩
    have hlength : (shortest fill t).length + 1 = t.length + 1 + 1 := congrArg List.length h
    have := ih.1
    omega
  | char c t hc ih =>
    rw [shortest_char fill hc]
    exact ⟨Nat.succ_le_succ ih.1, fun h => plain_cons.2 ⟨hc, ih.2 (List.cons.inj h).2⟩⟩

/-- The shortest match does not contain a text that is not plain. -/
theorem not_infix_shortest {fill : Char} (hfill : fill ≠ '_') {t : List Char} (h : ¬ Plain t) :
    ¬ t <:+: shortest fill t := by
  intro hcontained
  obtain ⟨hlength, hplain⟩ := shortest_length fill hfill t
  exact h (hplain (hcontained.eq_of_length (Nat.le_antisymm hcontained.length_le hlength)).symm)

/-- The shortest match has no characters but those of `t`, the fill and `%`. -/
theorem mem_shortest {fill c : Char} {t : List Char} (h : c ∈ shortest fill t) :
    c ∈ t ∨ c = fill ∨ c = '%' := by
  induction t using pattern_induction with
  | nil => cases h
  | percent t ih => exact (ih h).imp_left (List.mem_cons_of_mem _)
  | underscore t ih =>
    rcases List.mem_cons.1 h with rfl | h
    · exact .inr (.inl rfl)
    · exact (ih h).imp_left (List.mem_cons_of_mem _)
  | dangling => exact .inr (.inr (List.mem_singleton.1 h))
  | quoted d t ih =>
    rcases List.mem_cons.1 h with rfl | h
    · exact .inl (List.mem_cons_of_mem _ List.mem_cons_self)
    · exact (ih h).imp_left fun h => List.mem_cons_of_mem _ (List.mem_cons_of_mem _ h)
  | char d t hd ih =>
    rw [shortest_char fill hd] at h
    rcases List.mem_cons.1 h with rfl | h
    · exact .inl List.mem_cons_self
    · exact (ih h).imp_left (List.mem_cons_of_mem _)

/-! ## `ILIKE` -/

/-- The characters a pattern or a text gives a meaning. -/
def reserved : List Char := ['%', '_', '\\', Char.ofNat 0]

/-- `lower` maps a text character by character, and maps no other character to a reserved one,
    nor a reserved one to another. -/
def Postgres.FoldsCharacters (pg : Postgres) : Prop :=
  ∃ f : Char → Char, (∀ s, (pg.lower s).toList = s.toList.map f) ∧
    ∀ c ∈ reserved, ∀ d, f d = c ↔ d = c

/-- The shortest name that `%t%` matches. -/
def shortestMatch (t : String) : String := String.ofList (shortest 'a' t.toList)

section

variable {f : Char → Char} (hf : ∀ c ∈ reserved, ∀ d, f d = c ↔ d = c)
include hf

theorem mem_map_reserved {c : Char} (hc : c ∈ reserved) {t : List Char} :
    c ∈ t.map f ↔ c ∈ t := by
  rw [List.mem_map]
  constructor
  · rintro ⟨d, hd, h⟩
    exact (hf c hc d).1 h ▸ hd
  · intro h
    exact ⟨c, h, (hf c hc c).2 rfl⟩

theorem plain_map {t : List Char} : Plain (t.map f) ↔ Plain t := by
  unfold Plain
  rw [mem_map_reserved hf (by decide), mem_map_reserved hf (by decide),
    mem_map_reserved hf (by decide)]

theorem shortest_map (fill : Char) (t : List Char) :
    (shortest fill t).map f = shortest (f fill) (t.map f) := by
  have hpercent : f '%' = '%' := (hf '%' (by decide) '%').2 rfl
  have hunderscore : f '_' = '_' := (hf '_' (by decide) '_').2 rfl
  have hbackslash : f '\\' = '\\' := (hf '\\' (by decide) '\\').2 rfl
  induction t using pattern_induction with
  | nil => rfl
  | percent t ih =>
    rw [List.map_cons, hpercent]
    exact ih
  | underscore t ih =>
    rw [List.map_cons, hunderscore]
    exact congrArg (f fill :: ·) ih
  | dangling =>
    rw [List.map_cons, hbackslash, List.map_nil]
    exact congrArg (fun c => [c]) hpercent
  | quoted c t ih =>
    rw [List.map_cons, List.map_cons, hbackslash]
    exact congrArg (f c :: ·) ih
  | char c t hc ih =>
    have hc' : f c ≠ '%' ∧ f c ≠ '_' ∧ f c ≠ '\\' :=
      ⟨mt (hf _ (by decide) c).1 hc.1, mt (hf _ (by decide) c).1 hc.2.1,
        mt (hf _ (by decide) c).1 hc.2.2⟩
    rw [shortest_char fill hc, List.map_cons, List.map_cons, shortest_char _ hc', ih]

end

section

variable {pg : Postgres} (hpg : pg.FoldsCharacters)
include hpg

/-- The pattern, lowered, is a pattern of the same shape. -/
theorem exists_fold (name t : String) :
    ∃ f : Char → Char, (∀ s, (pg.lower s).toList = s.toList.map f) ∧
      (∀ c ∈ reserved, ∀ d, f d = c ↔ d = c) ∧
      pg.ilike name ("%" ++ t ++ "%") =
        like ('%' :: (t.toList.map f ++ ['%'])) (name.toList.map f) := by
  obtain ⟨f, hlower, hf⟩ := hpg
  have hpercent : f '%' = '%' := (hf '%' (by decide) '%').2 rfl
  refine ⟨f, hlower, hf, ?_⟩
  rw [Postgres.ilike, hlower, hlower]
  have hpattern : "%".toList.map f = ['%'] := congrArg (fun c => [c]) hpercent
  rw [String.toList_append, String.toList_append, List.map_append, List.map_append, hpattern]
  rfl

/-- For a plain text, `ILIKE '%t%'` is "contains `t`, in whatever case". -/
theorem ilike_contains {name t : String} (h : Plain t.toList) :
    pg.ilike name ("%" ++ t ++ "%") = true ↔
      (pg.lower t).toList <:+: (pg.lower name).toList := by
  obtain ⟨f, hlower, hf, hilike⟩ := exists_fold hpg name t
  rw [hilike, like_contains ((plain_map hf).2 h), hlower, hlower]

theorem ilike_shortestMatch (t : String) :
    pg.ilike (shortestMatch t) ("%" ++ t ++ "%") = true := by
  obtain ⟨f, -, hf, hilike⟩ := exists_fold hpg (shortestMatch t) t
  rw [hilike, shortestMatch, String.toList_ofList, shortest_map hf]
  exact like_percent.2 ⟨_, List.suffix_refl _, like_shortest _ _⟩

theorem shortestMatch_not_contains {t : String} (h : ¬ Plain t.toList) :
    ¬ (pg.lower t).toList <:+: (pg.lower (shortestMatch t)).toList := by
  obtain ⟨f, hlower, hf, -⟩ := exists_fold hpg t t
  have hfill : f 'a' ≠ '_' := mt (hf '_' (by decide) 'a').1 (by decide)
  rw [hlower, hlower, shortestMatch, String.toList_ofList, shortest_map hf]
  exact not_infix_shortest hfill (mt (plain_map hf).1 h)

/-- Where the shortest match cannot be stored, no stored name matches. -/
theorem storable_of_ilike {n : Nat} {name t : String} (hname : Storable n name)
    (h : pg.ilike name ("%" ++ t ++ "%") = true) : Storable n (shortestMatch t) := by
  obtain ⟨f, hlower, hf, hilike⟩ := exists_fold hpg name t
  rw [hilike] at h
  obtain ⟨rest, hrest, hlike⟩ := like_percent.1 h
  have hnul : f 'a' ≠ Char.ofNat 0 := mt (hf _ (by decide) 'a').1 (by decide)
  constructor
  · have hshort := shortest_le (f 'a') hlike
    have hlong := hrest.length_le
    rw [← shortest_map hf, List.length_map] at hshort
    rw [List.length_map, String.length_toList] at hlong
    rw [shortestMatch, String.length_ofList]
    exact (hshort.trans hlong).trans hname.length
  · intro hmem
    rw [shortestMatch, String.toList_ofList, ← mem_map_reserved hf (by decide),
      shortest_map hf] at hmem
    have hin := hrest.subset (mem_of_mem_shortest hnul.symm hmem hlike)
    exact hname.nulFree ((mem_map_reserved hf (by decide)).1 hin)

theorem storable_of_contains {n : Nat} {name t : String} (hname : Storable n name)
    (h : (pg.lower t).toList <:+: (pg.lower name).toList) : Storable n (shortestMatch t) := by
  obtain ⟨f, hlower, hf, -⟩ := exists_fold hpg t t
  rw [hlower, hlower] at h
  constructor
  · have hlength := h.length_le
    rw [List.length_map, List.length_map, String.length_toList] at hlength
    rw [shortestMatch, String.length_ofList]
    exact ((shortest_length 'a' (by decide) _).1.trans hlength).trans hname.length
  · intro hmem
    rw [shortestMatch, String.toList_ofList] at hmem
    rcases mem_shortest hmem with hmem | hmem | hmem
    · exact hname.nulFree ((mem_map_reserved hf (by decide)).1
        (h.subset ((mem_map_reserved hf (by decide)).2 hmem)))
    · exact absurd hmem (by decide)
    · exact absurd hmem (by decide)

end

end ApiStarter.Database
