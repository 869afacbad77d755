import RelAlgebra.Proofs.Database.Watched
import RelAlgebra.Proofs.Session.Cleanup

/-!
An evaluation does not depend on what was done before.

Two databases with the same rules are followed through the same evaluation. Whatever views are there
at first, each attempt drops the one of its name, so its statement is answered the same, and so are
the questions about the view that was just made. No other view is ever asked for. So the answers
that matter agree, and the same SQL is sent.
-/

namespace RelAlgebra

namespace Scripted

variable {db db' : Scripted}

/-! ### Answers that agree -/

lemma createView_congr {sql : String} (hscript : db.script = db'.script)
    (h : createdName sql ∉ db.names) (h' : createdName sql ∉ db'.names) :
    (createView sql db).1 = (createView sql db').1 := by
  rw [createView_eq, createView_eq, hscript, statement?_eq_none_iff.mpr h,
    statement?_eq_none_iff.mpr h']
  cases db'.script.failCreate.answer? (contains sql) <;> rfl

lemma statement?_createView {sql : String} (h : (createView sql db).1 = .ok ()) :
    (createView sql db).2.statement? (createdName sql) = some sql := by
  obtain ⟨hnew, hlive⟩ := createView_ok h
  have hnone : db.live.find? (fun v => v.1 == createdName sql) = none := by
    simpa [statement?] using statement?_eq_none_iff.mpr hnew
  unfold statement?
  rw [hlive, List.find?_append, hnone]
  simp

lemma columns_congr {name : String} (hscript : db.script = db'.script)
    (h : db.statement? name = db'.statement? name) : db.columns name = db'.columns name := by
  unfold columns
  rw [hscript, h]

lemma query_congr {name : String} (hscript : db.script = db'.script)
    (h : db.statement? name = db'.statement? name) :
    (query (Sql.Query.all name).text db).1 = (query (Sql.Query.all name).text db').1 := by
  have hname : String.ofList ((Sql.Query.all name).text.toList.drop "SELECT * FROM ".length) =
      name := by
    have htext : (Sql.Query.all name).text = "SELECT * FROM " ++ name := rfl
    have hlen : "SELECT * FROM ".length = "SELECT * FROM ".toList.length := rfl
    rw [htext, String.toList_append, hlen, List.drop_left, String.ofList_toList]
  have hstatement (sql : String) : (db.send sql).statement? name = (db'.send sql).statement? name :=
    h
  have hcolumns (sql : String) : (db.send sql).columns name = (db'.send sql).columns name :=
    columns_congr hscript h
  have hsend (sql : String) : (db.send sql).script = (db'.send sql).script := hscript
  simp only [query, hname, hstatement, hcolumns, hsend]
  split <;> rfl

/-! ### Two databases side by side -/

/-- Two databases with the rules `script`, which were sent the same SQL, the one after `before` and
the other after `before'`. -/
structure Alike (script : Script) (before before' : List String) (db db' : Scripted) : Prop where
  left : db.script = script
  right : db'.script = script
  sent : ∃ sqls, db.sent.toList = before ++ sqls ∧ db'.sent.toList = before' ++ sqls

variable {script : Script} {before before' : List String}

lemma Alike.script_eq (h : Alike script before before' db db') : db.script = db'.script :=
  h.left.trans h.right.symm

lemma Alike.run (h : Alike script before before' db db') (r : Request) :
    Alike script before before' (r.run db).2 (r.run db').2 := by
  obtain ⟨sqls, hsent, hsent'⟩ := h.sent
  refine ⟨(run_script r db).trans h.left, (run_script r db').trans h.right,
    sqls ++ r.sql?.toList, ?_, ?_⟩
  · rw [run_sent, hsent, List.append_assoc]
  · rw [run_sent, hsent', List.append_assoc]

end Scripted

open Scripted

variable {script : Script} {before before' : List String}

namespace Connection

lemma exists_ask_alike {α : Type} {c c' : Connection Scripted} (request : Scripted → α × Scripted)
    (h : Alike script before before' c.db c'.db) (r : Request)
    (hr : ∀ db, (request db).2 = (r.run db).2) (ha : (request c.db).1 = (request c'.db).1) :
    ∃ a d d', c.ask request = (a, d) ∧ c'.ask request = (a, d') ∧
      Alike script before before' d.db d'.db := by
  refine ⟨_, _, (c'.ask request).2, rfl, Prod.ext ha.symm rfl, ?_⟩
  have hkept := h.run r
  rw [← hr, ← hr] at hkept
  exact hkept

lemma dropStale_alike {c c' : Connection Scripted} (h : Alike script before before' c.db c'.db)
    (name : String) :
    Alike script before before' (c.dropStale name).db (c'.dropStale name).db := by
  rw [dropStale_db, dropStale_db]
  exact h.run (.dropView name)

lemma dropBroken_alike {c c' : Connection Scripted} (h : Alike script before before' c.db c'.db)
    (name : String) :
    Alike script before before' (c.dropBroken name).db (c'.dropBroken name).db := by
  rw [dropBroken_db, dropBroken_db]
  exact h.run (.dropView name)

lemma dropStale_free {c : Connection Scripted} {name : String} (h : c.db.sticks name = false) :
    name ∉ (c.dropStale name).db.names := by
  rw [names, (ViewTree.dropStale_live c name).1, name_mem_left, h]
  simp

lemma releaseAll_alike {c c' : Connection Scripted} (h : Alike script before before' c.db c'.db)
    (vs : List View) :
    Alike script before before' (c.releaseAll vs).2.db (c'.releaseAll vs).2.db := by
  induction vs generalizing c c' with
  | nil => exact h
  | cons v vs ih =>
    have hv : Alike script before before' (c.release v).2.db (c'.release v).2.db := by
      rw [release_db, release_db]
      split
      · exact h.run (.dropView v.name)
      · exact h
    exact ih hv

end Connection

namespace ViewTree

open Connection

/-- Views were made with the same outcome, over databases that stay alike. -/
structure SameMade (script : Script) (before before' : List String) (m m' : Made Scripted) :
    Prop where
  tree : m.tree = m'.tree
  result : m.result = m'.result
  alike : Alike script before before' m.conn.db m'.conn.db
  root : m.result = .ok () →
    m.conn.db.statement? m.tree.view.name = m'.conn.db.statement? m.tree.view.name

lemma makeRoot_same {t : ViewTree} {c c' : Connection Scripted} (hp : Plain t.view.name)
    (h : Alike script before before' c.db c'.db)
    (hfree : script.failDrop.answer? (· == t.view.name) = none) :
    SameMade script before before' (t.makeRoot c) (t.makeRoot c') := by
  have hstale := dropStale_alike h t.view.name
  have hnew := dropStale_free (c := c) (sticks_eq_false (h.left ▸ hfree))
  have hnew' := dropStale_free (c := c') (sticks_eq_false (h.right ▸ hfree))
  have hdialect : Database.dialect (c'.dropStale t.view.name).db =
      Database.dialect (c.dropStale t.view.name).db := congrArg Script.dialect hstale.script_eq.symm
  simp only [makeRoot, hdialect]
  generalize c.dropStale t.view.name = d at hstale hnew ⊢
  generalize c'.dropStale t.view.name = d' at hstale hnew' ⊢
  cases hwritten : t.createStatement (Database.dialect d.db) with
  | error e => exact ⟨rfl, rfl, hstale, by rintro ⟨⟩⟩
  | ok sql =>
    have hname := createdName_createStatement hp hwritten
    rw [← hname] at hnew hnew'
    have hanswer := createView_congr hstale.script_eq hnew hnew'
    have hnoted : Alike script before before' (d.debug sql).db (d'.debug sql).db := hstale
    obtain ⟨a, d₁, d₁', hask, hask', hmade⟩ :=
      exists_ask_alike (Database.createView sql) hnoted (.createView sql) (fun _ => rfl) hanswer
    obtain ⟨ha, hd₁⟩ := ask_eq hask
    obtain ⟨ha', hd₁'⟩ := ask_eq hask'
    simp only [hask, hask']
    cases a with
    | error e => exact ⟨rfl, rfl, hmade, by rintro ⟨⟩⟩
    | ok u =>
      -- both databases now hold the view, and it is all that they are asked for
      have hroot : d₁.db.statement? t.view.name = d₁'.db.statement? t.view.name := by
        rw [hd₁, hd₁', ← hname]
        exact (statement?_createView ha).trans (statement?_createView ha').symm
      have hread (c : Connection Scripted) : c.ask (Database.tableSchema t.view.name) =
          ((c.db.columns t.view.name).map (⟨t.view.name, ·⟩), c) := rfl
      simp only [hread, columns_congr hmade.script_eq hroot]
      cases d₁'.db.columns t.view.name with
      | error e => exact ⟨rfl, rfl, dropBroken_alike hmade _, by rintro ⟨⟩⟩
      | ok columns => exact ⟨rfl, rfl, hmade, fun _ => by simpa [Except.map] using hroot⟩

lemma validate_same {t : ViewTree} {c c' : Connection Scripted}
    (h : Alike script before before' c.db c'.db)
    (ht : ∀ name ∈ t.viewNames,
      Plain name ∧ script.failDrop.answer? (· == name) = none) :
    SameMade script before before' (t.validate c) (t.validate c') := by
  induction t generalizing c c' with
  | relation name v =>
    obtain ⟨hp, hfree⟩ := ht v.name (by simp [viewNames, postorder])
    exact makeRoot_same hp h hfree
  | unary op t v ih =>
    have hm := ih h fun name hn => ht name (by simp_all [viewNames, postorder])
    obtain ⟨hp, hfree⟩ := ht v.name (by simp [viewNames, postorder])
    rw [validate, validate]
    generalize t.validate c = m at hm ⊢
    generalize t.validate c' = m' at hm ⊢
    obtain ⟨t₁, r, c₁⟩ := m
    obtain ⟨t₁', r', c₁'⟩ := m'
    -- the operand comes out the same, so only the databases may still differ
    obtain ⟨rfl, rfl, halike, -⟩ := hm
    cases r with
    | error err => exact ⟨rfl, rfl, halike, by rintro ⟨⟩⟩
    | ok u => exact makeRoot_same hp halike hfree
  | binary op l r v ihl ihr =>
    have hl := ihl h fun name hn => ht name (by simp_all [viewNames, postorder])
    obtain ⟨hp, hfree⟩ := ht v.name (by simp [viewNames, postorder])
    rw [validate, validate]
    generalize l.validate c = m at hl ⊢
    generalize l.validate c' = m' at hl ⊢
    obtain ⟨l₁, r₁, c₁⟩ := m
    obtain ⟨l₁', r₁', c₁'⟩ := m'
    obtain ⟨rfl, rfl, halike, -⟩ := hl
    cases r₁ with
    | error err => exact ⟨rfl, rfl, halike, by rintro ⟨⟩⟩
    | ok u =>
      have hr := ihr halike fun name hn => ht name (by simp_all [viewNames, postorder])
      simp only
      generalize r.validate c₁ = m at hr ⊢
      generalize r.validate c₁' = m' at hr ⊢
      obtain ⟨r₁, result, c₂⟩ := m
      obtain ⟨r₁', result', c₂'⟩ := m'
      obtain ⟨rfl, rfl, halike, -⟩ := hr
      cases result with
      | error err => exact ⟨rfl, rfl, halike, by rintro ⟨⟩⟩
      | ok u => exact makeRoot_same hp halike hfree

lemma execute_same {t : ViewTree} {c c' : Connection Scripted}
    (h : Alike script before before' c.db c'.db)
    (hroot : c.db.statement? t.view.name = c'.db.statement? t.view.name) :
    (t.execute c).1 = (t.execute c').1 ∧
      Alike script before before' (t.execute c).2.db (t.execute c').2.db := by
  have hanswer := query_congr h.script_eq hroot
  have hnoted : Alike script before before' (c.debug (Sql.Query.all t.view.name).text).db
      (c'.debug (Sql.Query.all t.view.name).text).db := h
  obtain ⟨a, d, d', hask, hask', hdone⟩ :=
    exists_ask_alike (Database.query _) hnoted (.query (Sql.Query.all t.view.name).text)
      (fun _ => rfl) hanswer
  simp only [execute, hask, hask']
  split
  · cases a <;> exact ⟨rfl, hdone⟩
  · exact ⟨rfl, h⟩

end ViewTree

namespace Session

open ViewTree Connection

lemma evaluate_eq {σ : Type} [Database σ] (s : Session σ) (e : Expr) :
    (s.evaluate e).1 = match (s.made e).result with
      | .ok () => ⟨(s.tree e).render false, some ((s.made e).tree.render true), none,
          ((s.made e).tree.execute (s.made e).conn).1,
          ((s.queried e).releaseAll (s.made e).tree.views).1⟩
      | .error err => ⟨(s.tree e).render false, none,
          some ((failing (s.made e).tree err).render true), .error err,
          ((s.queried e).releaseAll (s.made e).tree.views).1⟩ := by
  rw [← evaluate_cleanupErrors]
  simp only [evaluate]
  split <;> simp_all

/-- The expression comes out the same in both sessions, and the same SQL is sent for it. -/
def SameOutcome (e : Expr) (s s' : Session Scripted) : Prop :=
  (s.evaluate e).1 = (s'.evaluate e).1 ∧
    ∃ sqls, (s.evaluate e).2.conn.db.sent.toList = s.conn.db.sent.toList ++ sqls ∧
      (s'.evaluate e).2.conn.db.sent.toList = s'.conn.db.sent.toList ++ sqls

def evaluateAll {σ : Type} [Database σ] (s : Session σ) (es : List Expr) : Session σ :=
  es.foldl (fun s e => (s.evaluate e).2) s

/-- A session over a database that holds no view and has received nothing. -/
def fresh (script : Script) : Session Scripted := { conn := { db := { script } } }

lemma script_evaluateAll (s : Session Scripted) (es : List Expr) :
    (s.evaluateAll es).conn.db.script = s.conn.db.script := by
  induction es generalizing s with
  | nil => rfl
  | cons e es ih => exact (ih _).trans ((keeps_script s.conn.db.script).evaluate rfl e)

variable {s s' : Session Scripted} {e : Expr}

lemma cleanupErrors_same (hscript : s'.conn.db.script = s.conn.db.script)
    (htree : (s.made e).tree = (s'.made e).tree) :
    ((s.queried e).releaseAll (s.made e).tree.views).1 =
      ((s'.queried e).releaseAll (s'.made e).tree.views).1 := by
  obtain ⟨_, _, _, -, -, htrail, -⟩ := exists_trail s e
  obtain ⟨_, _, _, -, -, htrail', -⟩ := exists_trail s' e
  rw [← evaluate_cleanupErrors, ← evaluate_cleanupErrors, htrail.cleanupErrors_evaluate,
    htrail'.cleanupErrors_evaluate, htree, dropFailure_congr hscript]

lemma sameOutcome_of_script (hscript : s'.conn.db.script = s.conn.db.script)
    (hdrop : ∀ k, 1 ≤ k → k ≤ e.size →
      s.conn.db.script.failDrop.answer? (· == View.nameOf k) = none) : SameOutcome e s s' := by
  have hstart : Alike s.conn.db.script s.conn.db.sent.toList s'.conn.db.sent.toList
      s.conn.db s'.conn.db :=
    ⟨rfl, hscript, [], (List.append_nil _).symm, (List.append_nil _).symm⟩
  have hnames : ∀ name ∈ (s.tree e).viewNames,
      Plain name ∧ s.conn.db.script.failDrop.answer? (· == name) = none := by
    intro name hn
    rw [viewNames_tree] at hn
    obtain ⟨k, hk, hle, rfl⟩ := View.mem_namesAfter.mp hn
    exact ⟨plain_nameOf k, hdrop k hk (by omega)⟩
  have hmade : SameMade s.conn.db.script s.conn.db.sent.toList s'.conn.db.sent.toList
      (s.made e) (s'.made e) := validate_same hstart hnames
  have hcleanup := cleanupErrors_same hscript hmade.tree
  have hqueried : (s.evaluate e).1 = (s'.evaluate e).1 ∧ Alike s.conn.db.script
      s.conn.db.sent.toList s'.conn.db.sent.toList (s.queried e).db (s'.queried e).db := by
    rw [evaluate_eq, evaluate_eq, hcleanup]
    unfold queried
    rw [← hmade.result, ← hmade.tree]
    cases hresult : (s.made e).result with
    | ok u =>
      obtain ⟨hexecuted, halike⟩ := execute_same hmade.alike (hmade.root hresult)
      exact ⟨by rw [hexecuted]; rfl, halike⟩
    | error err => exact ⟨rfl, hmade.alike⟩
  refine ⟨hqueried.1, ?_⟩
  rw [evaluate_db, evaluate_db, ← hmade.tree]
  exact (releaseAll_alike hqueried.2 _).sent

/-- **An evaluation does not depend on history.** In any two sessions with the same rules, whatever
views are there and however many names were given out, an expression comes out the same; so it does
after any expressions evaluated before it, as in a fresh session. -/
theorem evaluate_history_free (s s' : Session Scripted) (e : Expr)
    (hscript : s'.conn.db.script = s.conn.db.script)
    (hdrop : ∀ k, 1 ≤ k → k ≤ e.size →
      s.conn.db.script.failDrop.answer? (· == View.nameOf k) = none) :
    SameOutcome e s s' ∧
      ∀ earlier : List Expr, SameOutcome e (s.evaluateAll earlier) (fresh s.conn.db.script) := by
  refine ⟨sameOutcome_of_script hscript hdrop, fun earlier => ?_⟩
  have hkept := script_evaluateAll s earlier
  exact sameOutcome_of_script hkept.symm (hkept ▸ hdrop)

/-- A session whose database holds views of the names that come next, and gives no columns for the
second view. -/
def cluttered : Session Scripted where
  conn.db :=
    { live := [("RA_TMP_VIEW_2", ""), ("Kept", ""), ("RA_TMP_VIEW_1", "CREATE VIEW RA_TMP_VIEW_1")]
      script :=
        { failSchema := [("RA_TMP_VIEW_2", { message := "gone" })]
          failDrop := [("Kept", { message := "locked" })] }
      sent := #["SELECT 1"] }
  names := ⟨7⟩

theorem cluttered_history_free :
    SameOutcome (.unary (.select "a > 1") (.relation "R")) cluttered
        (fresh cluttered.conn.db.script) ∧
      ∀ earlier : List Expr, SameOutcome (.unary (.select "a > 1") (.relation "R"))
        (cluttered.evaluateAll earlier) (fresh cluttered.conn.db.script) := by
  refine evaluate_history_free cluttered (fresh cluttered.conn.db.script) _ rfl fun k h1 h2 => ?_
  have hk : k = 1 ∨ k = 2 := by
    have : (Expr.unary (.select "a > 1") (.relation "R")).size = 2 := rfl
    omega
  rcases hk with rfl | rfl <;> decide +kernel

end Session

end RelAlgebra
