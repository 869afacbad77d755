import RelAlgebra.Proofs.Database.LiveViews
import RelAlgebra.Proofs.Database.Morphism

/-!
A database under watch.

It answers as the database it stands for and keeps every request it got, in order, with the failure
that was answered and the state after the request. As the answers are the same, what is done over it
is what is done over the database itself, and the requests it keeps are those made there.
-/

namespace RelAlgebra

inductive Request where
  | createView (sql : String)
  | dropView (name : String)
  | tableSchema (name : String)
  | query (sql : String)
  | listRelations
  | execCommands (sql : String)
  deriving DecidableEq, Repr

def failure? {α : Type} : Except DbError α → Option DbError
  | .ok _ => none
  | .error e => some e

lemma failure?_eq_none_iff {α : Type} {x : Except DbError α} :
    failure? x = none ↔ ∃ a, x = .ok a := by
  cases x <;> simp [failure?]

lemma failure?_eq_some_iff {α : Type} {x : Except DbError α} {e : DbError} :
    failure? x = some e ↔ x = .error e := by
  cases x <;> simp [failure?]

namespace Request

/-- What a request leads to: the failure it is answered with, if it fails, and the state after
it. -/
def run {σ : Type} [Database σ] : Request → σ → Option DbError × σ
  | createView sql, s => Prod.map failure? id (Database.createView sql s)
  | dropView name, s => Prod.map failure? id (Database.dropView name s)
  | tableSchema name, s => Prod.map failure? id (Database.tableSchema name s)
  | query sql, s => Prod.map failure? id (Database.query sql s)
  | listRelations, s => Prod.map failure? id (Database.listRelations s)
  | execCommands sql, s => Prod.map (List.findSome? failure?) id (Database.execCommands sql s)

def sql? : Request → Option String
  | createView sql | query sql | execCommands sql => some sql
  | dropView name => some (Sql.dropView name)
  | tableSchema _ | listRelations => none

end Request

/-- A request that was made, the failure it was answered with, and the state after it. -/
structure Event (σ : Type) where
  request : Request
  failure : Option DbError
  after : σ

structure Watched (σ : Type) where
  db : σ
  /-- The requests so far. -/
  events : List (Event σ) := []

namespace Watched

variable {σ : Type}

def start (s : σ) : Watched σ := ⟨s, []⟩

variable [Database σ]

def next (w : Watched σ) (r : Request) : Watched σ :=
  ⟨(r.run w.db).2, w.events ++ [⟨r, (r.run w.db).1, (r.run w.db).2⟩]⟩

instance : Database (Watched σ) where
  dialect w := Database.dialect w.db
  createView sql w := ((Database.createView sql w.db).1, w.next (.createView sql))
  dropView name w := ((Database.dropView name w.db).1, w.next (.dropView name))
  tableSchema name w := ((Database.tableSchema name w.db).1, w.next (.tableSchema name))
  query sql w := ((Database.query sql w.db).1, w.next (.query sql))
  listRelations w := ((Database.listRelations w.db).1, w.next .listRelations)
  execCommands sql w := ((Database.execCommands sql w.db).1, w.next (.execCommands sql))

lemma morphism : Database.Morphism (Watched.db : Watched σ → σ) where
  dialect _ := rfl
  createView _ _ := rfl
  dropView _ _ := rfl
  tableSchema _ _ := rfl
  query _ _ := rfl
  listRelations _ := rfl
  execCommands _ _ := rfl

@[simp] lemma next_db (w : Watched σ) (r : Request) : (w.next r).db = (r.run w.db).2 := rfl

@[simp] lemma next_events (w : Watched σ) (r : Request) :
    (w.next r).events = w.events ++ [⟨r, (r.run w.db).1, (r.run w.db).2⟩] := rfl

lemma run_eq (r : Request) (w : Watched σ) : r.run w = ((r.run w.db).1, w.next r) := by
  cases r <;> rfl

end Watched

lemma Session.evaluate_watched {σ : Type} [Database σ] (s : Session σ) (e : Expr) :
    Prod.map id (Session.map Watched.db) ((s.map Watched.start).evaluate e) = s.evaluate e :=
  (evaluate_map Watched.morphism (s.map Watched.start) e).symm

/-! ### What every request keeps -/

/-- Every request keeps the property of the state. -/
def Database.Keeps {σ : Type} [Database σ] (p : σ → Prop) : Prop :=
  ∀ (r : Request) (s : σ), p s → p (r.run s).2

namespace Database.Keeps

variable {σ : Type} [Database σ] {p : σ → Prop}

/-- The database on the states that have the property. -/
@[reducible] def restrict (h : Keeps p) : Database {s : σ // p s} where
  dialect s := Database.dialect s.1
  createView sql s :=
    ((Database.createView sql s.1).1,
      ⟨(Database.createView sql s.1).2, h (.createView sql) s.1 s.2⟩)
  dropView name s :=
    ((Database.dropView name s.1).1, ⟨(Database.dropView name s.1).2, h (.dropView name) s.1 s.2⟩)
  tableSchema name s :=
    ((Database.tableSchema name s.1).1,
      ⟨(Database.tableSchema name s.1).2, h (.tableSchema name) s.1 s.2⟩)
  query sql s := ((Database.query sql s.1).1, ⟨(Database.query sql s.1).2, h (.query sql) s.1 s.2⟩)
  listRelations s :=
    ((Database.listRelations s.1).1, ⟨(Database.listRelations s.1).2, h .listRelations s.1 s.2⟩)
  execCommands sql s :=
    ((Database.execCommands sql s.1).1,
      ⟨(Database.execCommands sql s.1).2, h (.execCommands sql) s.1 s.2⟩)

lemma morphism_restrict (h : Keeps p) :
    @Morphism {s : σ // p s} σ h.restrict _ Subtype.val := by
  let _ := h.restrict
  exact ⟨⟨fun _ _ => rfl, fun _ _ => rfl, fun _ _ => rfl, fun _ _ => rfl, fun _ => rfl,
    fun _ _ => rfl⟩, fun _ => rfl⟩

lemma validate (h : Keeps p) {c : Connection σ} (hc : p c.db) (t : ViewTree) :
    p (t.validate c).conn.db := by
  let _ := h.restrict
  let c' : Connection {s : σ // p s} := ⟨⟨c.db, hc⟩, c.log⟩
  have hmap : t.validate c = (t.validate c').map Subtype.val :=
    ViewTree.validate_map h.morphism_restrict t c'
  rw [hmap]
  exact (t.validate c').conn.db.2

/-- What every request keeps, an evaluation keeps: it runs just as well over the states that have
the property. -/
lemma evaluate (h : Keeps p) {s : Session σ} (hs : p s.conn.db) (e : Expr) :
    p (s.evaluate e).2.conn.db := by
  let _ := h.restrict
  let s' : Session {s : σ // p s} := ⟨⟨⟨s.conn.db, hs⟩, s.conn.log⟩, s.names⟩
  have hmap : s.evaluate e = Prod.map id (Session.map Subtype.val) (s'.evaluate e) :=
    Session.evaluate_map h.morphism_restrict s' e
  rw [hmap]
  exact (s'.evaluate e).2.conn.db.2

end Database.Keeps

/-! ### Scripted databases -/

namespace Scripted

lemma run_script (r : Request) (db : Scripted) : (r.run db).2.script = db.script := by
  cases r with
  | createView sql => exact createView_script sql db
  | dropView name => exact dropView_script name db
  | tableSchema name => rfl
  | query sql => exact query_script sql db
  | listRelations =>
    change (listRelations db).2.script = db.script
    unfold listRelations
    split <;> rfl
  | execCommands sql => rfl

lemma run_sent (r : Request) (db : Scripted) :
    (r.run db).2.sent.toList = db.sent.toList ++ r.sql?.toList := by
  cases r with
  | createView sql =>
    have h : (createView sql db).2.sent = db.sent.push sql := by
      rw [createView_eq]
      split
      · rfl
      · split <;> rfl
    exact (congrArg Array.toList h).trans Array.toList_push
  | dropView name =>
    have h : (dropView name db).2.sent = db.sent.push (Sql.dropView name) := by
      rw [dropView_eq]
      split
      · rfl
      · split <;> rfl
    exact (congrArg Array.toList h).trans Array.toList_push
  | tableSchema name => exact (List.append_nil _).symm
  | query sql =>
    have h : (query sql db).2.sent = db.sent.push sql := by
      simp only [query]
      split <;> rfl
    exact (congrArg Array.toList h).trans Array.toList_push
  | listRelations =>
    have h : (listRelations db).2.sent = db.sent := by
      unfold listRelations
      split <;> rfl
    exact (congrArg Array.toList h).trans (List.append_nil _).symm
  | execCommands sql => exact Array.toList_push

lemma eq_of_tableSchema {name : String} {db db' : Scripted} {f : Option DbError}
    (h : (Request.tableSchema name).run db = (f, db')) : db' = db :=
  (Prod.mk.inj h).2.symm

lemma keeps_script (script : Script) :
    Database.Keeps fun db : Scripted => db.script = script := by
  intro r db h
  rw [run_script, h]

lemma keeps_sent (sent : List String) :
    Database.Keeps fun w : Watched Scripted =>
      w.db.sent.toList = sent ++ w.events.filterMap (·.request.sql?) := by
  intro r w h
  rw [Watched.run_eq, Watched.next_db, Watched.next_events, run_sent, h, List.filterMap_append,
    List.append_assoc]
  cases hr : r.sql? <;> simp [hr]

lemma sent_evaluate (s : Session Scripted) (e : Expr) :
    (s.evaluate e).2.conn.db.sent.toList = s.conn.db.sent.toList ++
      ((s.map Watched.start).evaluate e).2.conn.db.events.filterMap (·.request.sql?) := by
  rw [← s.evaluate_watched e]
  exact (keeps_sent s.conn.db.sent.toList).evaluate (s := s.map Watched.start)
    (List.append_nil _).symm e

end Scripted

end RelAlgebra
