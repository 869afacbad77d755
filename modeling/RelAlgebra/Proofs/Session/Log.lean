import RelAlgebra.Proofs.Session.History

/-!
The log is written and never read.

What is made, queried and dropped, and all that is told of it, depends on the database alone: two
connections to the same database may differ in their logs, and an expression is evaluated alike
over both.
-/

namespace RelAlgebra

variable {σ : Type} [Database σ]

namespace Connection

variable {c c' : Connection σ}

omit [Database σ] in
lemma ask_unlogged {α : Type} (h : c.db = c'.db) (request : σ → α × σ) :
    (c.ask request).1 = (c'.ask request).1 ∧
      (c.ask request).2.db = (c'.ask request).2.db := by
  simp only [ask, h, and_self]

lemma releaseAll_unlogged (h : c.db = c'.db) (vs : List View) :
    (c.releaseAll vs).1 = (c'.releaseAll vs).1 ∧
      (c.releaseAll vs).2.db = (c'.releaseAll vs).2.db := by
  induction vs generalizing c c' with
  | nil => exact ⟨rfl, h⟩
  | cons v vs ih =>
    have hdb : (c.release v).2.db = (c'.release v).2.db := by rw [release_db, release_db, h]
    simp only [releaseAll, release_failure, h, ih hdb, and_self]

end Connection

namespace ViewTree

variable {c c' : Connection σ}

def Made.unlogged (m : Made σ) : ViewTree × Except Error Unit × σ := (m.tree, m.result, m.conn.db)

lemma makeRoot_unlogged (h : c.db = c'.db) (t : ViewTree) :
    (t.makeRoot c).unlogged = (t.makeRoot c').unlogged := by
  have hstale : (c.dropStale t.view.name).db = (c'.dropStale t.view.name).db := by
    rw [Connection.dropStale_db, Connection.dropStale_db, h]
  simp only [makeRoot]
  generalize c.dropStale t.view.name = d at hstale ⊢
  generalize c'.dropStale t.view.name = d' at hstale ⊢
  obtain ⟨db, log⟩ := d
  obtain ⟨db', log'⟩ := d'
  obtain rfl : db = db' := hstale
  cases t.createStatement (Database.dialect db) with
  | error e => rfl
  | ok sql =>
    simp only [Connection.ask, Connection.debug, Connection.record]
    rcases Database.createView sql db with ⟨e | u, db₁⟩
    · rfl
    · dsimp only
      rcases Database.tableSchema t.view.name db₁ with ⟨e | schema, db₂⟩
      · simp only [Made.unlogged, Connection.dropBroken_db]
      · rfl

omit [Database σ] in
lemma Made.eq_of_unlogged {m m' : Made σ} (h : m.unlogged = m'.unlogged) :
    m' = ⟨m.tree, m.result, m'.conn⟩ ∧ m.conn.db = m'.conn.db := by
  obtain ⟨t, result, c⟩ := m
  obtain ⟨t', result', c'⟩ := m'
  simp only [unlogged, Prod.mk.injEq] at h
  obtain ⟨rfl, rfl, hdb⟩ := h
  exact ⟨rfl, hdb⟩

lemma validate_unlogged (h : c.db = c'.db) (t : ViewTree) :
    (t.validate c).unlogged = (t.validate c').unlogged := by
  induction t generalizing c c' with
  | relation name v => exact makeRoot_unlogged h _
  | unary op t v ih =>
    obtain ⟨hm, hdb⟩ := Made.eq_of_unlogged (ih h)
    rw [validate, validate, hm]
    rcases hv : t.validate c with ⟨t₁, e | u, c₁⟩
    · simp only [Made.unlogged, ← hdb, hv]
    · rw [hv] at hdb
      exact makeRoot_unlogged hdb _
  | binary op l r v ihl ihr =>
    obtain ⟨hm, hdb⟩ := Made.eq_of_unlogged (ihl h)
    rw [validate, validate, hm]
    rcases hv : l.validate c with ⟨l₁, e | u, c₁⟩
    · simp only [Made.unlogged, ← hdb, hv]
    · rw [hv] at hdb
      obtain ⟨hm', hdb'⟩ := Made.eq_of_unlogged (ihr hdb)
      dsimp only
      rw [hm']
      rcases hv' : r.validate c₁ with ⟨r₁, e | u, c₂⟩
      · simp only [Made.unlogged, ← hdb', hv']
      · rw [hv'] at hdb'
        exact makeRoot_unlogged hdb' _

lemma execute_unlogged (h : c.db = c'.db) (t : ViewTree) :
    (t.execute c).1 = (t.execute c').1 ∧ (t.execute c).2.db = (t.execute c').2.db := by
  unfold execute
  split
  · simp only [Connection.ask, Connection.debug, Connection.record, h]
    rcases Database.query _ c'.db with ⟨_ | _, db⟩ <;> exact ⟨rfl, rfl⟩
  · exact ⟨rfl, h⟩

end ViewTree

namespace Session

open ViewTree Connection

lemma evaluate_unlogged {s s' : Session σ} (h : s.conn.db = s'.conn.db) (e : Expr) :
    (s.evaluate e).1 = (s'.evaluate e).1 ∧
      (s.evaluate e).2.conn.db = (s'.evaluate e).2.conn.db ∧
      (s.evaluate e).2.names = (s'.evaluate e).2.names := by
  have hmade : (s.made e).unlogged = (s'.made e).unlogged := by
    unfold made
    refine validate_unlogged ?_ (s.tree e)
    exact h
  simp only [Made.unlogged, Prod.mk.injEq] at hmade
  obtain ⟨htree, hresult, hdb⟩ := hmade
  have hexecute := execute_unlogged hdb (s.made e).tree
  have hqueried : (s.queried e).db = (s'.queried e).db := by
    unfold queried
    rw [hresult, ← htree]
    split
    · exact hexecute.2
    · exact hdb
  have hreleased := releaseAll_unlogged hqueried (s.made e).tree.views
  refine ⟨?_, ?_, rfl⟩
  · rw [evaluate_eq, evaluate_eq, hresult, ← htree, hexecute.1, hreleased.1]
    rfl
  · rw [evaluate_db, evaluate_db, hreleased.2, htree]

end Session

end RelAlgebra
