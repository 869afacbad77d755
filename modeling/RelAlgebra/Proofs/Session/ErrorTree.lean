import RelAlgebra.Proofs.View.Address
import RelAlgebra.Proofs.View.Currency

/-!
What is shown of a tree whose views could not all be made.

The views below the one that failed had been made by then, and each of them keeps the columns that
the database reported for it, once. As names are not used twice, the part of the tree that is shown
is found by the name of the view that failed: its own line has the mark of the error, and every line
below it has the columns that were reported.
-/

namespace RelAlgebra

open Watched

variable {σ : Type} [Database σ]

/-! ### Reports -/

/-- The columns that a request, made in a state, is answered with, under the name that was asked
for. -/
def Request.report? (s : σ) : Request → Option (String × Schema)
  | .tableSchema name => (Database.tableSchema name s).1.toOption.map (name, ·)
  | _ => none

/-- The columns that were reported, in order. The first request was made in `s`. -/
def Watched.reports (s : σ) : List (Event σ) → List (String × Schema)
  | [] => []
  | ev :: es => (ev.request.report? s).toList ++ reports ev.after es

def View.report? (v : View) : Option (String × Schema) := v.schema.map (v.name, ·)

lemma Watched.reports_append (s : σ) (es es' : List (Event σ)) :
    reports s (es ++ es') = reports s es ++ reports (stateAfter s es) es' := by
  induction es generalizing s with
  | nil => rfl
  | cons ev es ih =>
    rw [List.cons_append, reports, reports, ih, List.append_assoc]
    rfl

/-- The database has been watched since `s`, and the columns `rs` were reported. -/
structure Watched.Reporting (s : σ) (w : Watched σ) (rs : List (String × Schema)) : Prop where
  state : stateAfter s w.events = w.db
  reports : Watched.reports s w.events = rs

namespace Watched.Reporting

variable {s : σ} {w : Watched σ} {rs : List (String × Schema)}

lemma start (s : σ) : Reporting s (Watched.start s) [] := ⟨rfl, rfl⟩

lemma next (h : Reporting s w rs) (r : Request) :
    Reporting s (w.next r) (rs ++ (r.report? w.db).toList) := by
  refine ⟨?_, ?_⟩
  · rw [next_events, stateAfter_append]
    rfl
  · rw [next_events, reports_append, h.reports, h.state]
    simp [Watched.reports]

lemma unreported (h : Reporting s w rs) {r : Request} (hr : r.report? w.db = none) :
    Reporting s (w.next r) rs := by
  simpa [hr] using h.next r

end Watched.Reporting

namespace Connection

variable {s : σ} {rs : List (String × Schema)}

lemma releaseAll_reporting {c : Connection (Watched σ)} (h : Reporting s c.db rs)
    (vs : List View) : Reporting s (c.releaseAll vs).2.db rs := by
  induction vs generalizing c with
  | nil => exact h
  | cons v vs ih =>
    have hv : Reporting s (c.release v).2.db rs := by
      rw [release_db]
      split
      · exact h.unreported (r := .dropView v.name) rfl
      · exact h
    exact ih hv

end Connection

namespace ViewTree

lemma makeRoot_reporting {s : σ} {rs : List (String × Schema)} {t : ViewTree}
    {w : Connection (Watched σ)} (hw : Reporting s w.db rs) (hnew : t.view.schema = none) :
    Reporting s (t.makeRoot w).conn.db (rs ++ (t.makeRoot w).tree.view.report?.toList) := by
  have hstale : Reporting s (w.dropStale t.view.name).db rs := by
    rw [Connection.dropStale_db]
    exact hw.unreported (r := .dropView t.view.name) rfl
  have hcreated {sql : String} {a : Except DbError Unit} {c' : Connection (Watched σ)}
      (h : ((w.dropStale t.view.name).debug sql).ask (Database.createView sql) = (a, c')) :
      Reporting s c'.db rs := by
    rw [(Connection.ask_eq h).2]
    exact hstale.unreported (r := .createView sql) rfl
  have hfailed : (t.withStatus .error).view.report? = none := by
    simp [withStatus, View.report?, hnew]
  have ha := attempt_makeRoot t w
  generalize t.makeRoot w = m at ha ⊢
  cases ha with
  | unwritten written => simpa [hfailed] using hstale
  | refused written created => simpa [hfailed] using hcreated created
  | @unread sql e c' c'' written created read =>
    obtain ⟨hanswer, hread⟩ := Connection.ask_eq read
    -- a request for columns that fails reports none
    have hnone : Request.report? c'.db.db (.tableSchema t.view.name) = none := by
      have herror : (Database.tableSchema t.view.name c'.db.db).1 = .error e := hanswer
      rw [Request.report?, herror]
      rfl
    have hunread : Reporting s c''.db rs := by
      rw [hread]
      exact (hcreated created).unreported hnone
    have hbroken : Reporting s (c''.dropBroken t.view.name).db rs := by
      rw [Connection.dropBroken_db]
      exact hunread.unreported (r := .dropView t.view.name) rfl
    simpa [hfailed] using hbroken
  | @made sql schema c' c'' written created read =>
    obtain ⟨hanswer, hread⟩ := Connection.ask_eq read
    have hsome : Request.report? c'.db.db (.tableSchema t.view.name) =
        some (t.view.name, schema) := by
      have hok : (Database.tableSchema t.view.name c'.db.db).1 = .ok schema := hanswer
      rw [Request.report?, hok]
      rfl
    have hmade := (hcreated created).next (.tableSchema t.view.name)
    rw [hsome] at hmade
    rw [view_withView, hread]
    exact hmade

lemma Pass.reporting {s : σ} {rs : List (String × Schema)} {xs : List ViewTree}
    {w w' : Connection (Watched σ)} {vs : List View} {r : Except Error Unit}
    (h : Pass xs w vs r w') (hw : Reporting s w.db rs) (hnew : ∀ x ∈ xs, x.view.schema = none) :
    Reporting s w'.db (rs ++ vs.filterMap View.report?) := by
  have hcons (v : View) (vs : List View) :
      (v :: vs).filterMap View.report? = v.report?.toList ++ vs.filterMap View.report? := by
    simp only [List.filterMap_eq_flatMap_toList, List.flatMap_cons]
  induction h generalizing rs with
  | done => simpa using hw
  | made _ _ ih =>
    rw [List.forall_mem_cons] at hnew
    rw [hcons, ← List.append_assoc]
    exact ih (makeRoot_reporting hw hnew.1) hnew.2
  | stopped =>
    rw [List.forall_mem_singleton] at hnew
    rw [hcons, List.filterMap_nil, List.append_nil]
    exact makeRoot_reporting hw hnew

lemma validate_reporting {s : σ} {w : Connection (Watched σ)} (hw : Reporting s w.db [])
    (e : Expr) (names : View.NameSupply) :
    Reporting s ((ofExpr e names).1.validate w).conn.db
      (((ofExpr e names).1.validate w).tree.postorder.filterMap View.report?) := by
  obtain ⟨xs, vs, later, hp, hlater⟩ := validate_ofExpr_passes e names w
  have hnew : ∀ x ∈ xs, x.view.schema = none := by
    intro x hx
    refine (unchecked_ofExpr e names x.view ?_).2
    rw [hp.before]
    exact List.mem_append_left _ (List.mem_map_of_mem hx)
  have hnone : later.filterMap View.report? = [] := by
    refine List.filterMap_eq_nil_iff.mpr fun v hv => ?_
    rw [View.report?, (hlater v hv).2]
    rfl
  rw [hp.after, List.filterMap_append, hnone, List.append_nil]
  exact hp.pass.reporting hw hnew

/-! ### The view that failed -/

/-- The view of the node `n`, at the address `p`, could not be made, and all views below it are
there. -/
structure FailedAt (m : Made σ) (p : List ℕ) (n : ViewTree) : Prop where
  node : m.tree.at? p = some n
  status : n.view.status = .error
  told : ∃ reason source, m.result = .error (n.refuse reason source)
  below : ∀ o ∈ n.operands, ∀ v ∈ o.postorder, v.Known

lemma operands_withView (t : ViewTree) (v : View) : (t.withView v).operands = t.operands := by
  cases t <;> rfl

lemma makeRoot_failedAt {t : ViewTree} {c : Connection σ} {err : Error}
    (ht : ∀ o ∈ t.operands, ∀ v ∈ o.postorder, v.Known) (h : (t.makeRoot c).result = .error err) :
    FailedAt (t.makeRoot c) [] (t.makeRoot c).tree := by
  obtain ⟨htree, hname⟩ := makeRoot_tree t c
  obtain ⟨reason, source, herr⟩ := makeRoot_error (fun o ho => ht o ho _ o.view_mem_postorder) h
  refine ⟨rfl, makeRoot_failed h, ⟨reason, source, ?_⟩, ?_⟩
  · rw [h, herr, refuse, refuse, hname, htree, label_withView]
  · rw [htree, operands_withView]
    exact ht

lemma validate_failedAt {t : ViewTree} {c : Connection σ} {err : Error}
    (h : (t.validate c).result = .error err) : ∃ p n, FailedAt (t.validate c) p n := by
  induction t generalizing c with
  | relation name v =>
    exact ⟨[], _, makeRoot_failedAt (t := relation name v) (by simp [operands]) h⟩
  | unary op t v ih =>
    have hknown := validate_known (t := t) (c := c)
    have hbelow := ih (c := c)
    rw [validate] at h ⊢
    generalize t.validate c = m at hknown hbelow h ⊢
    obtain ⟨t', e | u, c'⟩ := m
    -- the address of a node below starts with the place of the operand
    · obtain ⟨p, n, hn⟩ := hbelow h
      exact ⟨0 :: p, n, hn.node, hn.status, hn.told, hn.below⟩
    · have hoperands : ∀ o ∈ (unary op t' v).operands, ∀ v ∈ o.postorder, v.Known := by
        simpa [operands] using hknown rfl
      exact ⟨[], _, makeRoot_failedAt hoperands h⟩
  | binary op l r v ihl ihr =>
    have hknown := validate_known (t := l) (c := c)
    have hbelow := ihl (c := c)
    rw [validate] at h ⊢
    generalize l.validate c = m at hknown hbelow h ⊢
    obtain ⟨l', e | u, c'⟩ := m
    · obtain ⟨p, n, hn⟩ := hbelow h
      exact ⟨0 :: p, n, hn.node, hn.status, hn.told, hn.below⟩
    · have hknown' := validate_known (t := r) (c := c')
      have hbelow' := ihr (c := c')
      dsimp only at h ⊢
      generalize r.validate c' = m at hknown' hbelow' h ⊢
      obtain ⟨r', e | u, c''⟩ := m
      · obtain ⟨p, n, hn⟩ := hbelow' h
        exact ⟨1 :: p, n, hn.node, hn.status, hn.told, hn.below⟩
      · have hoperands : ∀ o ∈ (binary op l' r' v).operands, ∀ v ∈ o.postorder, v.Known := by
          simpa [operands] using ⟨hknown rfl, hknown' rfl⟩
        exact ⟨[], _, makeRoot_failedAt hoperands h⟩

omit [Database σ] in
lemma StoppedAt.eq_of_error {m : Made σ} {k : ℕ} {n : ViewTree} (h : StoppedAt m k)
    (hn : n ∈ m.tree.subtrees) (herror : n.view.status = .error) :
    m.tree.subtrees[k]? = some n := by
  obtain ⟨x, hx, -⟩ := h.failed
  obtain ⟨hk, rfl⟩ := List.getElem?_eq_some_iff.mp hx
  rw [← List.take_append_drop k m.tree.subtrees, List.drop_eq_getElem_cons hk, List.mem_append,
    List.mem_cons] at hn
  rcases hn with hbefore | rfl | hafter
  · rw [h.correct n hbefore] at herror
    cases herror
  · exact hx
  · rw [(h.unchecked n hafter).1] at herror
    cases herror

lemma nodup_viewNames_validate (e : Expr) (names : View.NameSupply) (c : Connection σ) :
    ((ofExpr e names).1.validate c).tree.viewNames.Nodup := by
  obtain ⟨xs, vs, later, hp⟩ := validate_passes (ofExpr e names).1 c
  rw [hp.viewNames_made, viewNames_ofExpr]
  exact View.nodup_namesAfter _ _

lemma FailedAt.unique {e : Expr} {names : View.NameSupply} {c : Connection σ} {p q : List ℕ}
    {n m : ViewTree} (hn : FailedAt ((ofExpr e names).1.validate c) p n)
    (hm : ((ofExpr e names).1.validate c).tree.at? q = some m) (herror : m.view.status = .error) :
    q = p := by
  obtain ⟨reason, source, hresult⟩ := hn.told
  obtain ⟨xs, vs, later, hp, hlater⟩ := validate_ofExpr_passes e names c
  obtain ⟨k, hk⟩ := hp.stoppedAt hresult hlater
  have hmem {q : List ℕ} {m : ViewTree}
      (h : ((ofExpr e names).1.validate c).tree.at? q = some m) :
      m ∈ ((ofExpr e names).1.validate c).tree.subtrees :=
    (nodes_perm_subtrees _).mem_iff.mp (mem_nodes_iff.mpr ⟨q, h⟩)
  have hsame : some m = some n := (hk.eq_of_error (hmem hm) herror).symm.trans
    (hk.eq_of_error (hmem hn.node) hn.status)
  obtain rfl := Option.some.inj hsame
  exact address_unique (nodup_viewNames_validate e names c) hm hn.node rfl

/-! ### What is shown -/

lemma render_of_error {n : ViewTree} (h : n.view.status = .error) :
    n.render true =
      n.label ++ " <- ERROR!" ++ "\n" ++ String.join (n.operands.map (renderAt true 4)) := by
  have hremark : remark n.view = " <- ERROR!" := by
    unfold remark
    rw [h]
  have hline : line true 0 n = n.label ++ " <- ERROR!" ++ "\n" := by
    simp [line, hremark]
  rw [← hline]
  cases n <;> simp [render, renderAt, operands, String.join_cons, String.append_assoc]

lemma line_of_correct {n : ViewTree} {schema : Schema} (hstatus : n.view.status = .correct)
    (hschema : n.view.schema = some schema) (indent : ℕ) :
    line true indent n = String.ofList (List.replicate indent ' ') ++ n.label ++
      " <- output schema: " ++ schema.text ++ "\n" := by
  have hremark : remark n.view = " <- output schema: " ++ schema.text := by
    unfold remark
    rw [hstatus, hschema]
  simp only [line, hremark, if_true, String.append_assoc]

end ViewTree

lemma View.filter_report {vs : List View} (hnd : (vs.map View.name).Nodup) {v : View} (hv : v ∈ vs)
    {schema : Schema} (hschema : v.schema = some schema) :
    ((vs.filterMap View.report?).filter fun r => r.1 = v.name) = [(v.name, schema)] := by
  have hname : (vs.filterMap View.report?).filter (fun r => r.1 = v.name) =
      (vs.filter fun u => u.name = v.name).filterMap View.report? := by
    rw [List.filter_filterMap, List.filterMap_filter]
    refine List.filterMap_congr fun u _ => ?_
    cases hu : u.schema <;> simp [View.report?, hu, Option.filter]
  have honly : (vs.filter fun u => u.name = v.name) = [v] := by
    have hsame : ∀ u ∈ vs, decide (u.name = v.name) = decide (u = v) := by
      intro u hu
      refine decide_eq_decide.mpr ⟨List.inj_on_of_nodup_map hnd hu hv, ?_⟩
      rintro rfl
      rfl
    rw [List.filter_congr hsame, List.filter_eq,
      List.count_eq_one_of_mem (List.Nodup.of_map _ hnd) hv, List.replicate_one]
  rw [hname, honly]
  simp [View.report?, hschema]

namespace Session

open ViewTree Connection

lemma evaluate_reporting {s : Session σ} {e : Expr} {err : Error}
    (h : (s.made e).result = .error err) :
    Reporting s.conn.db ((s.map Watched.start).evaluate e).2.conn.db
      ((s.made e).tree.postorder.filterMap View.report?) := by
  have hmade : ((s.map Watched.start).made e).map Watched.db = s.made e :=
    (validate_map Watched.morphism _ _).symm
  have hreporting : Reporting s.conn.db ((s.map Watched.start).made e).conn.db
      (((s.map Watched.start).made e).tree.postorder.filterMap View.report?) :=
    validate_reporting (Reporting.start s.conn.db) e _
  have hqueried : ((s.map Watched.start).queried e).db =
      ((s.map Watched.start).made e).conn.db := by
    rw [← hmade] at h
    unfold queried
    rw [show ((s.map Watched.start).made e).result = .error err from h]
    rfl
  rw [evaluate_db, ← hmade]
  refine releaseAll_reporting ?_ _
  rw [hqueried]
  exact hreporting

/-- **Where a view cannot be made, its part of the tree is shown and nothing else.** Its own line is
marked, and below it stand its operands, in order, each of their views with the columns that the
database reported for it, once. -/
theorem evaluate_error_tree (s : Session σ) (e : Expr) (view operator reason : String)
    (source : Option DbError)
    (h : (s.evaluate e).1.result = .error (.validation view operator reason source)) :
    Prod.map id (Session.map Watched.db) ((s.map Watched.start).evaluate e) = s.evaluate e ∧
      (s.made e).tree.expr = e ∧ ∃ p n, (s.made e).tree.at? p = some n ∧
        n.view.name = view ∧ n.label = operator ∧ n.view.status = .error ∧
        (∀ q m, (s.made e).tree.at? q = some m → m.view.status = .error → q = p) ∧
        (s.evaluate e).1.errorTree = some (n.label ++ " <- ERROR!" ++ "\n" ++
          String.join (n.operands.map (renderAt true 4))) ∧
        ∀ i q m, n.at? (i :: q) = some m →
          m.view.status = .correct ∧ ∃ schema,
            ((reports s.conn.db ((s.map Watched.start).evaluate e).2.conn.db.events).filter
              fun r => r.1 = m.view.name) = [(m.view.name, schema)] ∧
            ∀ indent, line true indent m = String.ofList (List.replicate indent ' ') ++ m.label ++
              " <- output schema: " ++ schema.text ++ "\n" := by
  have hresult : (s.made e).result = .error (.validation view operator reason source) := by
    rw [evaluate_eq] at h
    split at h
    · exact absurd h (execute_ne_validation _ _ _ _ _ _)
    · next err herr =>
      obtain rfl := Except.error.inj h
      exact herr
  have hnd : (s.made e).tree.viewNames.Nodup := nodup_viewNames_validate _ _ _
  obtain ⟨p, n, hn⟩ : ∃ p n, FailedAt (s.made e) p n := validate_failedAt hresult
  obtain ⟨hview, hoperator⟩ : n.view.name = view ∧ n.label = operator := by
    obtain ⟨reason', source', htold⟩ := hn.told
    rw [hresult, refuse] at htold
    simp_all
  have hfailing : failing (s.made e).tree (.validation view operator reason source) = n := by
    rw [failing, ← hview, find?_of_at? hnd hn.node]
    rfl
  have hexpr : (s.made e).tree.expr = e := by
    rw [← expr_reset, made, reset_validate, expr_reset, tree, expr_ofExpr]
  refine ⟨evaluate_watched s e, hexpr, p, n, hn.node, hview, hoperator, hn.status,
    fun q m hm => hn.unique hm, ?_, ?_⟩
  · rw [evaluate_eq, hresult]
    change some ((failing (s.made e).tree _).render true) = _
    rw [hfailing, render_of_error hn.status]
  · intro i q m hm
    have hmem : m.view ∈ (s.made e).tree.postorder := by
      have hbelow : (s.made e).tree.at? (p ++ i :: q) = some m := by
        rw [at?_append, hn.node]
        exact hm
      exact view_mem_of_at? hbelow
    obtain ⟨o, ho, hom⟩ := at?_cons_eq_some_iff.mp hm
    obtain ⟨hcorrect, hschema⟩ := hn.below o (List.mem_of_getElem? ho) _ (view_mem_of_at? hom)
    obtain ⟨schema, hschema⟩ := Option.isSome_iff_exists.mp hschema
    refine ⟨hcorrect, schema, ?_, line_of_correct hcorrect hschema⟩
    rw [(evaluate_reporting hresult).reports]
    exact View.filter_report hnd hmem hschema

/-- A session whose database refuses a selection, and the selection in an expression. -/
def refusing : Session Scripted where
  conn.db.script :=
    { schemas := [("FROM R", [⟨"a", "INTEGER"⟩, ⟨"b", "TEXT"⟩]), ("FROM S", [⟨"a", "INTEGER"⟩])]
      failCreate := [("a > 1", { message := "refused" })] }

@[inherit_doc refusing]
def selected : Expr :=
  .binary .union (.unary (.select "a > 1") (.binary (.join none) (.relation "R") (.relation "S")))
    (.relation "T")

/-- The union above the selection and the relation beside it are not shown. -/
theorem refusing_error_tree :
    (refusing.evaluate selected).1.result = .error (.validation "RA_TMP_VIEW_4"
        "\\select_\x7ba > 1\x7d" "refused" (some { message := "refused" })) ∧
      (refusing.evaluate selected).1.errorTree = some ("\\select_\x7ba > 1\x7d <- ERROR!\n" ++
        "    \\join <- output schema: RA_TMP_VIEW_3(a INTEGER, b TEXT)\n" ++
        "        R <- output schema: RA_TMP_VIEW_1(a INTEGER, b TEXT)\n" ++
        "        S <- output schema: RA_TMP_VIEW_2(a INTEGER)\n") ∧
      ∃ p n, (refusing.made selected).tree.at? p = some n ∧ n.view.name = "RA_TMP_VIEW_4" ∧
        ∀ i q m, n.at? (i :: q) = some m → m.view.status = .correct := by
  have h : (refusing.evaluate selected).1.result = .error (.validation "RA_TMP_VIEW_4"
      "\\select_\x7ba > 1\x7d" "refused" (some { message := "refused" })) := by decide +kernel
  obtain ⟨-, -, p, n, hn, hview, -, -, -, -, hbelow⟩ :=
    evaluate_error_tree refusing selected _ _ _ _ h
  exact ⟨h, by decide +kernel, p, n, hn, hview, fun i q m hm => (hbelow i q m hm).1⟩

end Session

end RelAlgebra
