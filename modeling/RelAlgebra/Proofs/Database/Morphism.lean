import RelAlgebra.Proofs.View.Dialects
import RelAlgebra.Proofs.View.Numbering
import RelAlgebra.Session

/-!
Maps between databases that keep every answer.

Views are made, queried and dropped through the requests of a database alone, and what is done next
depends on the answers only. So a map of states that keeps every answer carries the evaluation of
an expression over one database to that over the other, with the same outcome. The dialect may
change where the expression does not ask for it.
-/

namespace RelAlgebra

/-- The map keeps the answer to every request, and goes on from the state after it. -/
structure Database.Answers {σ τ : Type} [Database σ] [Database τ] (f : σ → τ) : Prop where
  createView (sql : String) (s : σ) :
    Database.createView sql (f s) = Prod.map id f (Database.createView sql s)
  dropView (name : String) (s : σ) :
    Database.dropView name (f s) = Prod.map id f (Database.dropView name s)
  tableSchema (name : String) (s : σ) :
    Database.tableSchema name (f s) = Prod.map id f (Database.tableSchema name s)
  query (sql : String) (s : σ) : Database.query sql (f s) = Prod.map id f (Database.query sql s)
  listRelations (s : σ) : Database.listRelations (f s) = Prod.map id f (Database.listRelations s)
  execCommands (sql : String) (s : σ) :
    Database.execCommands sql (f s) = Prod.map id f (Database.execCommands sql s)

lemma Database.Answers.comp {σ τ υ : Type} [Database σ] [Database τ] [Database υ] {f : σ → τ}
    {g : τ → υ} (hg : Database.Answers g) (hf : Database.Answers f) :
    Database.Answers fun s => g (f s) where
  createView sql s := by rw [hg.createView, hf.createView]; rfl
  dropView name s := by rw [hg.dropView, hf.dropView]; rfl
  tableSchema name s := by rw [hg.tableSchema, hf.tableSchema]; rfl
  query sql s := by rw [hg.query, hf.query]; rfl
  listRelations s := by rw [hg.listRelations, hf.listRelations]; rfl
  execCommands sql s := by rw [hg.execCommands, hf.execCommands]; rfl

/-- The map keeps every answer, and the dialect. -/
structure Database.Morphism {σ τ : Type} [Database σ] [Database τ] (f : σ → τ) : Prop
    extends Database.Answers f where
  dialect (s : σ) : Database.dialect (f s) = Database.dialect s

section

variable {σ τ : Type} (f : σ → τ)

/-- The connection over the mapped state. The log stays as it is. -/
def Connection.map (c : Connection σ) : Connection τ := ⟨f c.db, c.log⟩

@[inherit_doc Connection.map]
def Session.map (s : Session σ) : Session τ := ⟨s.conn.map f, s.names⟩

@[inherit_doc Connection.map]
def ViewTree.Made.map (m : Made σ) : Made τ := ⟨m.tree, m.result, m.conn.map f⟩

@[inherit_doc Connection.map]
def ViewTree.Cleaned.map (m : Cleaned σ) : Cleaned τ := ⟨m.tree, m.failures, m.conn.map f⟩

end

variable {σ τ : Type} [Database σ] [Database τ] {f : σ → τ}

namespace Connection

omit [Database σ] [Database τ] in
lemma ask_map {α : Type} {request : σ → α × σ} {request' : τ → α × τ}
    (h : ∀ s, request' (f s) = Prod.map id f (request s)) (c : Connection σ) :
    (c.map f).ask request' = Prod.map id (Connection.map f) (c.ask request) := by
  have hc : request' (c.map f).db = Prod.map id f (request c.db) := h c.db
  simp only [ask, hc]
  rfl

variable (hf : Database.Answers f)
include hf

lemma dropStale_map (c : Connection σ) (name : String) :
    (c.map f).dropStale name = (c.dropStale name).map f := by
  unfold dropStale
  rw [ask_map (hf.dropView name)]
  rcases c.ask (Database.dropView name) with ⟨_ | _, c'⟩ <;> rfl

lemma dropBroken_map (c : Connection σ) (name : String) :
    (c.map f).dropBroken name = (c.dropBroken name).map f := by
  unfold dropBroken
  rw [ask_map (hf.dropView name)]
  rcases c.ask (Database.dropView name) with ⟨_ | _, c'⟩ <;> rfl

lemma release_map (c : Connection σ) (v : View) :
    (c.map f).release v = Prod.map id (Connection.map f) (c.release v) := by
  have hdebug : (c.map f).debug (Sql.dropView v.name) = (c.debug (Sql.dropView v.name)).map f := rfl
  unfold release
  rw [hdebug, ask_map (hf.dropView v.name)]
  split
  · rcases (c.debug (Sql.dropView v.name)).ask (Database.dropView v.name) with ⟨_ | _, c'⟩ <;> rfl
  · rfl

lemma releaseAll_map (c : Connection σ) (vs : List View) :
    (c.map f).releaseAll vs = Prod.map id (Connection.map f) (c.releaseAll vs) := by
  induction vs generalizing c with
  | nil => rfl
  | cons v vs ih =>
    simp only [releaseAll, release_map hf, Prod.map_fst, Prod.map_snd, ih]
    rfl

end Connection

namespace ViewTree

section

variable (hf : Database.Answers f)
include hf

lemma makeRoot_translate {t : ViewTree}
    (ht : ∀ s, t.createStatement (Database.dialect (f s)) = t.createStatement (Database.dialect s))
    (c : Connection σ) : t.makeRoot (c.map f) = (t.makeRoot c).map f := by
  have hwritten (c : Connection σ) : t.createStatement (Database.dialect (c.map f).db) =
      t.createStatement (Database.dialect c.db) := ht c.db
  have hdebug (c : Connection σ) (text : String) :
      (c.map f).debug text = (c.debug text).map f := rfl
  simp only [makeRoot, Connection.dropStale_map hf, hwritten]
  cases t.createStatement (Database.dialect (c.dropStale t.view.name).db) with
  | error e => rfl
  | ok sql =>
    simp only [hdebug, Connection.ask_map (hf.createView sql)]
    rcases ((c.dropStale t.view.name).debug sql).ask (Database.createView sql) with ⟨_ | _, c'⟩
    · rfl
    · simp only [Prod.map_apply, id_eq, Connection.ask_map (hf.tableSchema t.view.name)]
      rcases c'.ask (Database.tableSchema t.view.name) with ⟨e | s, c''⟩
      · simp only [Prod.map_apply, id_eq, Connection.dropBroken_map hf]
        rfl
      · rfl

lemma validate_translate {t : ViewTree}
    (hd : ∀ s, (Database.dialect (f s)).AgreeOn (Database.dialect s) t.expr) (c : Connection σ) :
    t.validate (c.map f) = (t.validate c).map f := by
  induction t generalizing c with
  | relation name v => exact makeRoot_translate hf (fun _ => rfl) c
  | unary op t v ih =>
    rw [validate, validate, ih fun s => (hd s).operand]
    rcases t.validate c with ⟨t', _ | _, c'⟩
    · rfl
    · exact makeRoot_translate hf (fun s => createStatement_unary_of_agree (hd s) t' v) c'
  | binary op l r v ihl ihr =>
    rw [validate, validate, ihl fun s => (hd s).left]
    rcases l.validate c with ⟨l', _ | _, c'⟩
    · rfl
    · simp only [Made.map, ihr fun s => (hd s).right]
      rcases r.validate c' with ⟨r', _ | _, c''⟩
      · rfl
      · exact makeRoot_translate hf (fun s => createStatement_binary_of_agree (hd s) l' r' v) c''

lemma execute_map (t : ViewTree) (c : Connection σ) :
    t.execute (c.map f) = Prod.map id (Connection.map f) (t.execute c) := by
  have hdebug (text : String) : (c.map f).debug text = (c.debug text).map f := rfl
  simp only [execute, hdebug, Connection.ask_map (hf.query _)]
  split
  · rcases (c.debug (Sql.Query.all t.view.name).text).ask
      (Database.query (Sql.Query.all t.view.name).text) with ⟨_ | _, c'⟩ <;> rfl
  · rfl

lemma clean_map (t : ViewTree) (c : Connection σ) :
    t.clean (c.map f) = (t.clean c).map f := by
  simp only [clean, Connection.releaseAll_map hf]
  rfl

end

lemma validate_map (hf : Database.Morphism f) (t : ViewTree) (c : Connection σ) :
    t.validate (c.map f) = (t.validate c).map f :=
  validate_translate hf.toAnswers (fun s => hf.dialect s ▸ .refl _ _) c

end ViewTree

namespace Session

/-- An evaluation looks at nothing but the answers of the database, and at its dialect only where
the expression asks for it. -/
lemma evaluate_translate (hf : Database.Answers f) {e : Expr}
    (hd : ∀ s, (Database.dialect (f s)).AgreeOn (Database.dialect s) e) (s : Session σ) :
    (s.map f).evaluate e = Prod.map id (Session.map f) (s.evaluate e) := by
  have hinfo (c : Connection σ) (text : String) : (c.map f).info text = (c.info text).map f := rfl
  have hmade : (s.map f).made e = (s.made e).map f :=
    ViewTree.validate_translate hf (t := s.tree e)
      (fun s' => (ViewTree.expr_ofExpr e s.names.reset).symm ▸ hd s') (s.opened e)
  simp only [evaluate, hmade]
  generalize s.made e = m
  obtain ⟨t, err | u, c⟩ := m
  · simp only [ViewTree.Made.map, hinfo, ViewTree.clean_map hf]
    generalize t.clean (c.info _) = cleaned
    obtain ⟨t', failures, c'⟩ := cleaned
    cases failures <;> rfl
  · simp only [ViewTree.Made.map, ViewTree.execute_map hf, Prod.map_fst, Prod.map_snd, id_eq,
      ViewTree.clean_map hf]
    generalize t.clean (t.execute c).2 = cleaned
    obtain ⟨t', failures, c'⟩ := cleaned
    cases failures <;> rfl

lemma evaluate_map (hf : Database.Morphism f) (s : Session σ) (e : Expr) :
    (s.map f).evaluate e = Prod.map id (Session.map f) (s.evaluate e) :=
  evaluate_translate hf.toAnswers (fun s => hf.dialect s ▸ .refl _ _) s

end Session

end RelAlgebra
