import Mathlib
import RelAlgebra.Store

/-!
Batches run one after the other.

A batch that ends without a failure leaves off where a next one starts, and one that fails is not
continued. If a statement that fails changes nothing, what has taken effect are exactly the
statements before the first one that fails.
-/

namespace RelAlgebra.Engine

variable {σ : Type} [Engine σ]

/-! ### Two batches -/

lemma executeAll_of_error {s : Source σ} {db db' : σ} {e : DbError}
    (h : execute s db = (.error e, db')) (rest : List (Source σ)) :
    executeAll (s :: rest) db = ([.error e], db') := by
  rw [executeAll, h]

lemma executeAll_of_ok {s : Source σ} {db db' : σ} {r : CommandResult}
    (h : execute s db = (.ok r, db')) (rest : List (Source σ)) :
    executeAll (s :: rest) db = (.ok r :: (executeAll rest db').1, (executeAll rest db').2) := by
  rw [executeAll, h]

lemma executeAll_append_of_error {xs : List (Source σ)} {db : σ} {e : DbError}
    (h : .error e ∈ (executeAll xs db).1) (ys : List (Source σ)) :
    executeAll (xs ++ ys) db = executeAll xs db := by
  induction xs generalizing db with
  | nil => cases h
  | cons s xs ih =>
    rcases hs : execute s db with ⟨f | r, db₁⟩
    · rw [List.cons_append, executeAll_of_error hs, executeAll_of_error hs]
    · rw [executeAll_of_ok hs] at h
      have htail : .error e ∈ (executeAll xs db₁).1 := by simpa using h
      rw [List.cons_append, executeAll_of_ok hs, executeAll_of_ok hs, ih htail]

lemma executeAll_append_of_ok {xs : List (Source σ)} {db : σ}
    (h : ∀ e, .error e ∉ (executeAll xs db).1) (ys : List (Source σ)) :
    executeAll (xs ++ ys) db =
      ((executeAll xs db).1 ++ (executeAll ys (executeAll xs db).2).1,
        (executeAll ys (executeAll xs db).2).2) := by
  induction xs generalizing db with
  | nil => rfl
  | cons s xs ih =>
    rcases hs : execute s db with ⟨f | r, db₁⟩
    · rw [executeAll_of_error hs] at h
      exact absurd List.mem_cons_self (h f)
    · rw [executeAll_of_ok hs] at h
      have htail : ∀ e, .error e ∉ (executeAll xs db₁).1 := fun e he =>
        h e (List.mem_cons_of_mem _ he)
      rw [List.cons_append, executeAll_of_ok hs, executeAll_of_ok hs, ih htail]
      rfl

/-! ### What has taken effect -/

/-- A statement that fails changes nothing. -/
structure Sparing (σ : Type) [Engine σ] : Prop where
  rows : ∀ {p : Prepared σ} {db db' : σ} {e : DbError}, rows p db = (.error e, db') → db' = db
  changes : ∀ {p : Prepared σ} {db db' : σ} {e : DbError}, changes p db = (.error e, db') → db' = db

def after (xs : List (Source σ)) (db : σ) : σ := xs.foldl (fun db s => (execute s db).2) db

/-- What each of the statements gives when it is run after those before it. -/
def outcomes : List (Source σ) → σ → List (Except DbError CommandResult)
  | [], _ => []
  | s :: xs, db => (execute s db).1 :: outcomes xs (execute s db).2

lemma Sparing.execute_error (h : Sparing σ) {s : Source σ} {db db' : σ} {e : DbError}
    (hs : execute s db = (.error e, db')) : db' = db := by
  unfold execute at hs
  split at hs
  · next p _ =>
    unfold run collect at hs
    split at hs
    · rcases hrows : Engine.rows p db with ⟨f | rows, db₁⟩
      · rw [hrows] at hs
        cases hs
        exact h.rows hrows
      · rw [hrows] at hs
        cases hs
    · rcases hchanges : Engine.changes p db with ⟨f | n, db₁⟩
      · rw [hchanges] at hs
        cases hs
        exact h.changes hchanges
      · rw [hchanges] at hs
        cases hs
  · cases hs
    rfl

/-- Running a batch, the statements of `done` have passed, each on the state that those before it
left, and `rest` are those that have had no effect: the first of them, if there is one, has failed,
and its failure is the last result. -/
structure Reaches (xs : List (Source σ)) (db : σ) (done rest : List (Source σ)) : Prop where
  split : xs = done ++ rest
  passed : ∀ r ∈ outcomes done db, ∃ result, r = .ok result
  state : (executeAll xs db).2 = after done db
  results : rest = [] ∧ (executeAll xs db).1 = outcomes done db ∨
    ∃ s more e, rest = s :: more ∧ (execute s (after done db)).1 = .error e ∧
      (executeAll xs db).1 = outcomes done db ++ [.error e]

/-- What has taken effect are the statements before the first one that fails. -/
lemma Sparing.exists_reaches (h : Sparing σ) (xs : List (Source σ)) (db : σ) :
    ∃ done rest, Reaches xs db done rest := by
  induction xs generalizing db with
  | nil => exact ⟨[], [], rfl, by simp [outcomes], rfl, .inl ⟨rfl, rfl⟩⟩
  | cons s xs ih =>
    rcases hs : execute s db with ⟨e | r, db₁⟩
    · obtain rfl := h.execute_error hs
      have hall := executeAll_of_error hs xs
      refine ⟨[], s :: xs, rfl, by simp [outcomes], ?_, .inr ⟨s, xs, e, rfl, ?_, ?_⟩⟩
      · rw [hall]
        rfl
      · exact congrArg Prod.fst hs
      · rw [hall]
        rfl
    · obtain ⟨done, rest, rfl, hpassed, hstate, hresults⟩ := ih db₁
      have hall := executeAll_of_ok hs (done ++ rest)
      have houtcomes : outcomes (s :: done) db = .ok r :: outcomes done db₁ := by
        rw [outcomes, hs]
      have hafter : after (s :: done) db = after done db₁ := by
        rw [after, List.foldl_cons, hs]
        rfl
      refine ⟨s :: done, rest, rfl, ?_, ?_, ?_⟩
      · rw [houtcomes]
        exact List.forall_mem_cons.mpr ⟨⟨r, rfl⟩, hpassed⟩
      · rw [hall, hafter, hstate]
      · rw [hall, houtcomes, hafter]
        rcases hresults with ⟨hrest, hresults⟩ | ⟨t, more, e, hrest, ht, hresults⟩
        · exact .inl ⟨hrest, by rw [hresults]⟩
        · exact .inr ⟨t, more, e, hrest, ht, by rw [hresults, List.cons_append]⟩

/-- **Running statements and then others is running the first ones, and then the others on the state
they left unless one of the first has failed.** So the results are in the order of the statements, a
failure is the last of them, and exactly the statements before it have taken effect. -/
theorem executeAll_composes (h : Sparing σ) (xs ys : List (Source σ)) (db : σ) :
    ((∃ e, .error e ∈ (executeAll xs db).1) → executeAll (xs ++ ys) db = executeAll xs db) ∧
    ((∀ e, .error e ∉ (executeAll xs db).1) →
      executeAll (xs ++ ys) db =
        ((executeAll xs db).1 ++ (executeAll ys (executeAll xs db).2).1,
          (executeAll ys (executeAll xs db).2).2)) ∧
    ∃ done rest, Reaches xs db done rest := by
  refine ⟨?_, fun hok => executeAll_append_of_ok hok ys, h.exists_reaches xs db⟩
  rintro ⟨e, he⟩
  exact executeAll_append_of_error he ys

end RelAlgebra.Engine

namespace RelAlgebra.Store

lemma changed_error {α : Type} {db db' : Store} {s : Statement} {answer : Store → α} {e : DbError}
    (h : db.changed s answer = (.error e, db')) : db' = db := by
  unfold changed at h
  split at h
  · cases h
  · cases h
    rfl

lemma sparing : Engine.Sparing Store where
  rows {p db db' e} h := by
    change rowsOf p db = _ at h
    unfold rowsOf at h
    split at h
    · exact (congrArg Prod.snd h).symm
    · exact changed_error h
  changes h := changed_error h

/-- A table that is filled, read and then not emptied, since another one is missing. -/
theorem missing_table_composes :
    Engine.Sparing Store ∧
      (SqlEngine.executeBatch "CREATE TABLE t (a INTEGER); INSERT INTO t VALUES (1)"
          ({} : Store)).1 =
        [.ok (.count 0), .ok (.count 1)] ∧
      (Engine.executeAll (statements "CREATE TABLE t (a INTEGER); INSERT INTO t VALUES (1)" ++
          statements "SELECT * FROM t; DELETE FROM u; DELETE FROM t") ({} : Store)).1 =
        [.ok (.count 0), .ok (.count 1), .ok (.rows ⟨[⟨"a", "INTEGER"⟩], [[some "1"]]⟩),
          .error (failure "no such table: u")] := by
  have hfirst : (SqlEngine.executeBatch "CREATE TABLE t (a INTEGER); INSERT INTO t VALUES (1)"
      ({} : Store)).1 = [.ok (.count 0), .ok (.count 1)] := by decide +kernel
  refine ⟨sparing, hfirst, ?_⟩
  rw [(Engine.executeAll_composes sparing _ _ _).2.1 ?_]
  · decide +kernel
  · intro e he
    change .error e ∈ (SqlEngine.executeBatch _ ({} : Store)).1 at he
    rw [hfirst] at he
    simp at he

end RelAlgebra.Store
