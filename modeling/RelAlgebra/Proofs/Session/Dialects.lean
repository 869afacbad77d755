import RelAlgebra.Proofs.Database.Watched

/-!
An evaluation in two dialects.

A scripted database answers by its rules, whatever dialect it is said to have. So two databases
that differ in the dialect only give the same answers, and where the dialects agree on what an
expression asks of them, its evaluation takes the same course over both.
-/

namespace RelAlgebra

namespace Scripted

/-- The database with another dialect. -/
def speaking (d : Dialect) (db : Scripted) : Scripted := { db with script.dialect := d }

lemma answers_speaking (d : Dialect) : Database.Answers (speaking d) where
  createView sql db := by
    change createView sql (db.speaking d) = Prod.map id (speaking d) (createView sql db)
    have hrules : (db.speaking d).script.failCreate = db.script.failCreate := rfl
    have hviews (name : String) : (db.speaking d).statement? name = db.statement? name := rfl
    rw [createView_eq, createView_eq, hrules, hviews]
    cases db.script.failCreate.answer? (contains sql) with
    | some e => rfl
    | none => cases db.statement? (createdName sql) <;> rfl
  dropView name db := by
    change dropView name (db.speaking d) = Prod.map id (speaking d) (dropView name db)
    have hrules : (db.speaking d).script.failDrop = db.script.failDrop := rfl
    have hviews : (db.speaking d).statement? name = db.statement? name := rfl
    rw [dropView_eq, dropView_eq, hrules, hviews]
    cases db.script.failDrop.answer? (· == name) with
    | some e => rfl
    | none => cases db.statement? name <;> rfl
  tableSchema _ _ := rfl
  query sql db := by
    change query sql (db.speaking d) = Prod.map id (speaking d) (query sql db)
    have hrules :
        ((db.speaking d).send sql).script.failQuery = (db.send sql).script.failQuery := rfl
    have hviews (name : String) :
        ((db.speaking d).send sql).statement? name = (db.send sql).statement? name := rfl
    simp only [query, hrules, hviews]
    cases (db.send sql).script.failQuery.answer? _ <;> rfl
  listRelations db := by
    change listRelations (db.speaking d) = Prod.map id (speaking d) (listRelations db)
    have hrules : (db.speaking d).script.listError = db.script.listError := rfl
    rw [listRelations, listRelations, hrules]
    cases db.script.listError <;> rfl
  execCommands _ _ := rfl

lemma keeps_dialect (d : Dialect) :
    Database.Keeps fun db : Scripted => db.script.dialect = d := by
  intro r db h
  rw [run_script, h]

end Scripted

namespace Session

open Scripted

/-- The session over the database with another dialect. -/
def speaking (s : Session Scripted) (d : Dialect) : Session Scripted := s.map (Scripted.speaking d)

/-- **The dialect matters only to renamings, and to differences and intersections.** In dialects
that agree on what an expression asks of them it comes out the same, the same SQL is sent for it,
and the same views are left. -/
theorem evaluate_speaking (s : Session Scripted) (d d' : Dialect) (e : Expr)
    (h : d.AgreeOn d' e) :
    ((s.speaking d).evaluate e).1 = ((s.speaking d').evaluate e).1 ∧
      ((s.speaking d).evaluate e).2.conn.db.sent = ((s.speaking d').evaluate e).2.conn.db.sent ∧
      ((s.speaking d).evaluate e).2.conn.db.live =
        ((s.speaking d').evaluate e).2.conn.db.live := by
  -- both run as the evaluation over the databases whose dialect stays `d`
  let _ := (keeps_dialect d).restrict
  let s₀ : Session {db : Scripted // db.script.dialect = d} :=
    ⟨⟨⟨s.conn.db.speaking d, rfl⟩, s.conn.log⟩, s.names⟩
  have hval := (keeps_dialect d).morphism_restrict
  have hd : (s.speaking d).evaluate e = Prod.map id (map Subtype.val) (s₀.evaluate e) :=
    evaluate_map hval s₀ e
  have hd' : (s.speaking d').evaluate e =
      Prod.map id (map fun db => db.1.speaking d') (s₀.evaluate e) :=
    evaluate_translate ((answers_speaking d').comp hval.toAnswers)
      (fun db => show d'.AgreeOn db.1.script.dialect e from db.2.symm ▸ h.symm) s₀
  rw [hd, hd']
  exact ⟨rfl, rfl, rfl⟩

/-- A session whose database holds on to the first view and has one of a name to come. -/
def hampered : Session Scripted where
  conn.db :=
    { script := { failDrop := [("RA_TMP_VIEW_1", { message := "locked" })] }
      live := [("RA_TMP_VIEW_4", "")] }

/-- The two dialects differ in their set operators, which the expression does not ask for. -/
theorem hampered_speaking :
    let e : Expr := .unary (.rename "x, y") (.binary (.join none) (.relation "R") (.relation "S"))
    Dialect.mysql.hasSetOperators ≠ Dialect.db2.hasSetOperators ∧
      Dialect.mysql.AgreeOn .db2 e ∧
      ((hampered.speaking .mysql).evaluate e).1 = ((hampered.speaking .db2).evaluate e).1 ∧
      ((hampered.speaking .mysql).evaluate e).2.conn.db.sent =
        ((hampered.speaking .db2).evaluate e).2.conn.db.sent ∧
      ((hampered.speaking .mysql).evaluate e).2.conn.db.live =
        ((hampered.speaking .db2).evaluate e).2.conn.db.live := by
  intro e
  have h : Dialect.mysql.AgreeOn .db2 e := ⟨fun _ => rfl, by decide⟩
  exact ⟨by decide, h, evaluate_speaking hampered .mysql .db2 e h⟩

end Session

end RelAlgebra
