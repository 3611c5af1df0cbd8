import ApiStarter.Database.Widths

/-
  Which values PostgreSQL takes, and how it refuses the others.

  `Takes P r a` says that a statement gives `a` where `P` holds, and is refused everywhere else.
  It composes along a sequence of statements.
-/

namespace ApiStarter.Database

/-- The error of a text that is too long, or that is no text for PostgreSQL. -/
def Refused (err : SqlxError) : Prop :=
  PgError.codeOf err = some "22001" ∨ PgError.codeOf err = some "22021"

/-- A text that goes into a `VARCHAR(n)` column, as it is or cut where only blanks are lost. -/
structure Stores (n : Nat) (s : String) : Prop where
  nulFree : NulFree s
  blank : ∀ c ∈ s.toList.drop n, c = ' '

instance (n : Nat) (s : String) : Decidable (Stores n s) :=
  decidable_of_iff (NulFree s ∧ (s.toList.drop n).all (· == ' '))
    ⟨fun h => ⟨h.1, by simpa using h.2⟩, fun h => ⟨h.1, by simpa using h.2⟩⟩

theorem Storable.stores {n : Nat} {s : String} (h : Storable n s) : Stores n s where
  nulFree := h.nulFree
  blank := by
    rw [List.drop_eq_nil_of_le (by rw [String.length_toList]; exact h.length)]
    exact fun c hc => absurd hc List.not_mem_nil

/-- The statement gives `a` where `P` holds, and is refused elsewhere. -/
structure Takes {α : Type} (P : Prop) (r : Except SqlxError α) (a : α) : Prop where
  taken : P → r = .ok a
  refused : ¬ P → ∃ err, r = .error err ∧ Refused err

namespace Takes

variable {α β : Type} {P Q : Prop} {r : Except SqlxError α} {a : α} {b : β}

theorem pure (a : α) : Takes True (.ok a) a where
  taken _ := rfl
  refused h := absurd trivial h

theorem bind {f : α → Except SqlxError β} (h : Takes P r a) (hf : Takes Q (f a) b) :
    Takes (P ∧ Q) (r >>= f) b where
  taken hboth := by
    rw [h.taken hboth.1]
    exact hf.taken hboth.2
  refused hnot := by
    by_cases hP : P
    · rw [h.taken hP]
      exact hf.refused fun hQ => hnot ⟨hP, hQ⟩
    · obtain ⟨err, herr, hrefused⟩ := h.refused hP
      exact ⟨err, by rw [herr]; rfl, hrefused⟩

theorem congr (h : Takes P r a) (hPQ : P ↔ Q) : Takes Q r a where
  taken hQ := h.taken (hPQ.mpr hQ)
  refused hQ := h.refused (mt hPQ.mp hQ)

end Takes

theorem takes_bindText (s : String) : Takes (NulFree s) (bindText s) () where
  taken h := if_neg (by simpa [NulFree] using h)
  refused h := ⟨_, if_pos (by simpa [NulFree] using h), .inr rfl⟩

theorem Postgres.takes_store {pg : Postgres} (hpg : pg.RejectsLonger) (n : Nat) (s : String) :
    Takes (Stores n s) (pg.store n s) (cut n s) := by
  have hvarchar : Takes (∀ c ∈ s.toList.drop n, c = ' ') (pg.varchar n s) (cut n s) := by
    rw [hpg n s]
    constructor
    · exact fun h => if_pos (by simpa using h)
    · exact fun h => ⟨_, if_neg (by simpa using h), .inl rfl⟩
  exact ((takes_bindText s).bind hvarchar).congr ⟨fun h => ⟨h.1, h.2⟩, fun h => ⟨h.1, h.2⟩⟩

theorem takes_forM_bindText (names : List String) :
    Takes (∀ name ∈ names, NulFree name) (names.forM bindText) () := by
  induction names with
  | nil => exact (Takes.pure ()).congr (by simp)
  | cons name names ih =>
    show Takes _ (bindText name >>= fun _ => names.forM bindText) ()
    exact ((takes_bindText name).bind ih).congr List.forall_mem_cons.symm

end ApiStarter.Database
