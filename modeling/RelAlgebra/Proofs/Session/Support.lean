import RelAlgebra.Proofs.Session.Cleanup
import RelAlgebra.Proofs.View.Exchange
import RelAlgebra.Proofs.View.Order

/-!
Views stand on the views of their operands, at every moment of an evaluation.

At any moment the views of the tree that are there are the first ones by number, less a first part
of the order in which they are dropped. While views are made none has been dropped, and the number
grows; while they are dropped the number stays. Both orders keep the operands of what is there.
-/

namespace RelAlgebra

open Scripted

/-- Of the views numbered from one to `n`, those up to `k` are there, but for those dropped, and no
rule forbids to drop one of them. -/
structure Standing (n k : ℕ) (dropped : List String) (db : Scripted) : Prop where
  free : ∀ name ∈ View.namesAfter 0 n, db.sticks name = false
  names_iff : ∀ name ∈ View.namesAfter 0 n,
    (name ∈ db.names ↔ name ∈ View.namesAfter 0 k ∧ name ∉ dropped)

namespace Standing

variable {n k : ℕ} {dropped : List String} {db db' : Scripted}

lemma congr (h : Standing n k dropped db) (hlive : db'.live = db.live)
    (hscript : db'.script = db.script) : Standing n k dropped db' := by
  refine ⟨fun name hn => ?_, fun name hn => ?_⟩
  · rw [sticks_congr hscript, h.free name hn]
  · rw [← h.names_iff name hn, Scripted.names, Scripted.names, hlive]

lemma of_iff {k' : ℕ} {dropped' : List String} (h : Standing n k dropped db)
    (hiff : ∀ name ∈ View.namesAfter 0 n, (name ∈ View.namesAfter 0 k ∧ name ∉ dropped ↔
      name ∈ View.namesAfter 0 k' ∧ name ∉ dropped')) : Standing n k' dropped' db :=
  ⟨h.free, fun name hn => (h.names_iff name hn).trans (hiff name hn)⟩

/-! ### Requests -/

lemma dropView (h : Standing n k dropped db) (name : String) :
    Standing n k (dropped ++ [name]) ((Request.dropView name).run db).2 := by
  refine ⟨fun x hx => ?_, fun x hx => ?_⟩
  · rw [sticks_congr (run_script _ db), h.free x hx]
  · have hlive : ((Request.dropView name).run db).2.live = db.left [name] := dropView_live name db
    have hmem : x ∈ ((Request.dropView name).run db).2.names ↔ x ∈ db.names ∧ x ≠ name := by
      rw [Scripted.names, hlive, name_mem_left, h.free x hx]
      simp
    rw [hmem, h.names_iff x hx, List.mem_append, List.mem_singleton, not_or, and_assoc]

lemma dropView_top {j : ℕ} (h : Standing n j [] db) (hj : j = k ∨ j = k + 1) :
    Standing n k [] ((Request.dropView (View.nameOf (k + 1))).run db).2 := by
  refine (h.dropView _).of_iff fun x hx => ?_
  obtain ⟨i, -, -, rfl⟩ := View.mem_namesAfter.mp hx
  simp only [View.nameOf_mem_namesAfter, List.nil_append, List.mem_singleton, List.not_mem_nil,
    View.nameOf_injective.eq_iff, not_false_eq_true, and_true]
  omega

lemma createView (h : Standing n k [] db) {sql : String}
    (hname : createdName sql = View.nameOf (k + 1))
    (hrun : (Request.createView sql).run db = (none, db')) : Standing n (k + 1) [] db' := by
  obtain ⟨hanswer, hdb'⟩ := Prod.mk.inj hrun
  obtain ⟨u, hok⟩ := failure?_eq_none_iff.mp hanswer
  obtain ⟨-, hlive⟩ := createView_ok hok
  have hlive' : db'.live = db.live ++ [(createdName sql, sql)] := hdb' ▸ hlive
  have hscript : db'.script = db.script := hdb' ▸ createView_script sql db
  refine ⟨fun x hx => ?_, fun x hx => ?_⟩
  · rw [sticks_congr hscript, h.free x hx]
  · have hmem : x ∈ db'.names ↔ x ∈ db.names ∨ x = View.nameOf (k + 1) := by
      rw [Scripted.names, hlive', hname, List.map_append, List.mem_append]
      exact or_congr_right List.mem_singleton
    rw [hmem, h.names_iff x hx, View.namesAfter_succ, List.mem_append, List.mem_singleton]
    simp

lemma createView_refused (h : Standing n k dropped db) {sql : String} {e : DbError}
    (hrun : (Request.createView sql).run db = (some e, db')) : Standing n k dropped db' := by
  obtain ⟨hanswer, hdb'⟩ := Prod.mk.inj hrun
  have hlive := createView_error (failure?_eq_some_iff.mp hanswer)
  exact h.congr (hdb' ▸ hlive) (hdb' ▸ createView_script sql db)

end Standing

/-! ### Making the views -/

namespace ViewTree

lemma Exchange.standing {n k : ℕ} {statement : Dialect → Except Error String} {s s' : Scripted}
    {status : Status} {es : List (Event Scripted)}
    (h : Exchange (View.nameOf (k + 1)) statement s status es s')
    (hcreates : ∀ d sql, statement d = .ok sql → createdName sql = View.nameOf (k + 1))
    (hs : Standing n k [] s) :
    (∀ ev ∈ es, ∃ j, Standing n j [] ev.after) ∧
      (status = .correct → Standing n (k + 1) [] s') := by
  have hstale := hs.dropView_top (k := k) (.inl rfl)
  cases h with
  | unwritten dropped written =>
    rw [dropped] at hstale
    refine ⟨fun ev hev => ?_, by rintro ⟨⟩⟩
    obtain rfl := List.mem_singleton.mp hev
    exact ⟨k, hstale⟩
  | refused dropped written created =>
    rw [dropped] at hstale
    have hrefused := hstale.createView_refused created
    refine ⟨fun ev hev => ?_, by rintro ⟨⟩⟩
    simp only [List.mem_cons, List.not_mem_nil, or_false] at hev
    rcases hev with rfl | rfl
    · exact ⟨k, hstale⟩
    · exact ⟨k, hrefused⟩
  | unread dropped written created read broken =>
    rw [dropped] at hstale
    have hmade := hstale.createView (hcreates _ _ written) created
    obtain rfl := eq_of_tableSchema read
    -- a view whose columns cannot be read is dropped again, and `k` of them are left
    have hbroken := hmade.dropView_top (.inr rfl)
    rw [broken] at hbroken
    refine ⟨fun ev hev => ?_, by rintro ⟨⟩⟩
    simp only [List.mem_cons, List.not_mem_nil, or_false] at hev
    rcases hev with rfl | rfl | rfl | rfl
    · exact ⟨k, hstale⟩
    · exact ⟨k + 1, hmade⟩
    · exact ⟨k + 1, hmade⟩
    · exact ⟨k, hbroken⟩
  | made dropped written created read =>
    rw [dropped] at hstale
    have hmade := hstale.createView (hcreates _ _ written) created
    obtain rfl := eq_of_tableSchema read
    refine ⟨fun ev hev => ?_, fun _ => hmade⟩
    simp only [List.mem_cons, List.not_mem_nil, or_false] at hev
    rcases hev with rfl | rfl | rfl
    · exact ⟨k, hstale⟩
    · exact ⟨k + 1, hmade⟩
    · exact ⟨k + 1, hmade⟩

lemma makeRoot_standing {n k : ℕ} {x : ViewTree} {w : Connection (Watched Scripted)}
    (hx : x.view.name = View.nameOf (k + 1)) (hw : Standing n k [] w.db.db)
    (hevents : ∀ ev ∈ w.db.events, ∃ j, Standing n j [] ev.after) :
    (∀ ev ∈ (x.makeRoot w).conn.db.events, ∃ j, Standing n j [] ev.after) ∧
      ((x.makeRoot w).result = .ok () → Standing n (k + 1) [] (x.makeRoot w).conn.db.db) := by
  obtain ⟨es, hes, hex⟩ := exchange_makeRoot x w
  have hname : (x.makeRoot w).tree.view.name = View.nameOf (k + 1) := by
    rw [(makeRoot_tree x w).2, hx]
  have hcreates (d : Dialect) (sql : String)
      (h : (x.makeRoot w).tree.createStatement d = .ok sql) :
      createdName sql = View.nameOf (k + 1) := by
    rw [← hname]
    exact createdName_createStatement (hname ▸ plain_nameOf (k + 1)) h
  rw [hname] at hex
  obtain ⟨hnew, hmade⟩ := hex.standing hcreates hw
  refine ⟨fun ev hev => ?_, fun hok => hmade (makeRoot_known hok).1⟩
  rw [hes, List.mem_append] at hev
  exact hev.elim (hevents ev) (hnew ev)

lemma Pass.standing {n k : ℕ} {xs : List ViewTree} {w w' : Connection (Watched Scripted)}
    {vs : List View} {r : Except Error Unit} (h : Pass xs w vs r w')
    (hxs : xs.map (·.view.name) = View.namesAfter k xs.length) (hw : Standing n k [] w.db.db)
    (hevents : ∀ ev ∈ w.db.events, ∃ j, Standing n j [] ev.after) :
    ∀ ev ∈ w'.db.events, ∃ j, Standing n j [] ev.after := by
  induction h generalizing k with
  | done => exact hevents
  | made hx _ ih =>
    obtain ⟨hname, hrest⟩ := List.cons.inj hxs
    obtain ⟨hevents', hmade⟩ := makeRoot_standing hname hw hevents
    exact ih hrest (hmade hx) hevents'
  | stopped =>
    obtain ⟨hname, -⟩ := List.cons.inj hxs
    exact (makeRoot_standing hname hw hevents).1

end ViewTree

/-! ### Dropping the views -/

namespace Connection

lemma release_standing {n k : ℕ} {dropped : List String} {c : Connection (Watched Scripted)}
    {v : View} (hc : Standing n k dropped c.db.db)
    (hv : v.status = .correct ↔ v.name ∈ View.namesAfter 0 k) :
    Standing n k (dropped ++ [v.name]) (c.release v).2.db.db ∧
      ∀ ev ∈ (c.release v).2.db.events,
        ev ∈ c.db.events ∨ Standing n k (dropped ++ [v.name]) ev.after := by
  by_cases hcorrect : v.status = .correct
  · have hdb : (c.release v).2.db = c.db.next (.dropView v.name) := by
      rw [release_db, if_pos hcorrect]
      rfl
    have hdropped := hc.dropView v.name
    rw [hdb, Watched.next_db, Watched.next_events]
    refine ⟨hdropped, fun ev hev => ?_⟩
    rcases List.mem_append.mp hev with hev | hev
    · exact .inl hev
    · obtain rfl := List.mem_singleton.mp hev
      exact .inr hdropped
  · have hdb : (c.release v).2.db = c.db := by
      rw [release_db, if_neg hcorrect]
    rw [hdb]
    refine ⟨hc.of_iff fun x _ => ?_, fun ev hev => .inl hev⟩
    -- the view was not there, so it counts as dropped
    have hnot : v.name ∉ View.namesAfter 0 k := fun h => hcorrect (hv.mpr h)
    rw [List.mem_append, List.mem_singleton, not_or]
    constructor
    · rintro ⟨hx, hd⟩
      exact ⟨hx, hd, by rintro rfl; exact hnot hx⟩
    · rintro ⟨hx, hd, -⟩
      exact ⟨hx, hd⟩

lemma releaseAll_standing {n k : ℕ} {dropped : List String} {c : Connection (Watched Scripted)}
    {vs : List View} (hc : Standing n k dropped c.db.db)
    (hvs : ∀ v ∈ vs, (v.status = .correct ↔ v.name ∈ View.namesAfter 0 k)) :
    ∀ ev ∈ (c.releaseAll vs).2.db.events, ev ∈ c.db.events ∨
      ∃ gone, gone <+: dropped ++ vs.map View.name ∧ Standing n k gone ev.after := by
  induction vs generalizing c dropped with
  | nil => exact fun ev hev => .inl hev
  | cons v vs ih =>
    rw [List.forall_mem_cons] at hvs
    obtain ⟨hc', hnew⟩ := release_standing hc hvs.1
    have hlist : dropped ++ (v :: vs).map View.name = dropped ++ [v.name] ++ vs.map View.name := by
      simp
    intro ev hev
    rw [hlist]
    rcases ih hc' hvs.2 ev hev with hev | hgone
    · rcases hnew ev hev with hev | hstanding
      · exact .inl hev
      · exact .inr ⟨_, List.prefix_append _ _, hstanding⟩
    · exact .inr hgone

end Connection

/-! ### The evaluation -/

/-- The view of a node is there only if those of its operands are. -/
def Supported (t : ViewTree) (db : Scripted) : Prop :=
  ∀ n ∈ t.nodes, n.view.name ∈ db.liveNames → ∀ o ∈ n.operands, o.view.name ∈ db.liveNames

namespace Session

open ViewTree Connection

variable (s : Session Scripted) (e : Expr)

lemma supported_of_standing {k : ℕ} {dropped : List String} {db : Scripted}
    (h : Standing e.size k dropped db) (hd : dropped <+: (s.tree e).views.map View.name) :
    Supported (s.tree e) db := by
  have hperm : ((s.tree e).views.map View.name).Perm (View.namesAfter 0 e.size) := by
    rw [← viewNames_tree s e]
    exact (views_perm_postorder _).map _
  intro n hn hlive o ho
  obtain ⟨i, j, hi, hij, hoi, hnj⟩ := operand_number_lt hn ho
  have hj : View.nameOf j ∈ View.namesAfter 0 e.size := by
    rw [← hnj, ← hperm.mem_iff, ← map_view_nodes, List.map_map]
    exact List.mem_map_of_mem (f := View.name ∘ view) hn
  have hj' := View.nameOf_mem_namesAfter.mp hj
  rw [mem_liveNames, hnj, h.names_iff _ hj, View.nameOf_mem_namesAfter] at hlive
  rw [mem_liveNames, hoi, h.names_iff _ (View.nameOf_mem_namesAfter.mpr (by omega)),
    View.nameOf_mem_namesAfter]
  refine ⟨by omega, fun hgone => hlive.2 ?_⟩
  rw [← hoi] at hgone
  rw [← hnj]
  exact name_mem_of_operand (hperm.nodup_iff.mpr (View.nodup_namesAfter _ _)) hd hn ho hgone

variable {s e}

lemma Trail.made_standing {k : ℕ} {attempted : List String} {standing : List (String × String)}
    (h : Trail s e attempted (View.namesAfter 0 k) standing)
    (hst : standing.map Prod.fst = View.namesAfter 0 k) (hs : Standing e.size 0 [] s.conn.db) :
    Standing e.size k [] (s.made e).conn.db ∧
      ∀ v ∈ (s.made e).tree.views, (v.status = .correct ↔ v.name ∈ View.namesAfter 0 k) := by
  refine ⟨⟨fun name hn => ?_, fun name hn => ?_⟩, fun v hv => ?_⟩
  · rw [sticks_congr h.script, hs.free name hn]
  · have hbefore : name ∉ s.conn.db.names := by
      rw [hs.names_iff name hn]
      simp [View.namesAfter]
    rw [Scripted.names, h.live, List.map_append, List.mem_append, hst, name_mem_left]
    simp [hbefore]
  · rw [← h.correct_iff, mem_madeNames]
    constructor
    · intro hc
      exact ⟨v, hv, hc, rfl⟩
    · rintro ⟨w, hw, hc, hname⟩
      rwa [← List.inj_on_of_nodup_map h.nodup hw hv hname]

variable (e)

lemma exists_made_standing (hs : Standing e.size 0 [] s.conn.db) :
    ∃ k, Standing e.size k [] (s.made e).conn.db ∧
      ∀ v ∈ (s.made e).tree.views, (v.status = .correct ↔ v.name ∈ View.namesAfter 0 k) := by
  cases h : (s.made e).result with
  | ok u =>
    obtain ⟨standing, hst, htrail⟩ := trail_of_ok s e h
    exact ⟨e.size, htrail.made_standing hst hs⟩
  | error err =>
    obtain ⟨k, hk, operator, reason, source, standing, -, htrail, hcases⟩ := trail_of_error s e h
    rcases hcases with ⟨-, hst⟩ | ⟨hleaks, -⟩
    · exact ⟨k, htrail.made_standing hst hs⟩
    · -- a view leaks only where a rule forbids to drop it
      have hmem : View.nameOf (k + 1) ∈ View.namesAfter 0 e.size :=
        View.nameOf_mem_namesAfter.mpr (by omega)
      have hfree := hs.free _ hmem
      rw [hleaks.1] at hfree
      cases hfree

lemma map_made {σ τ : Type} [Database σ] [Database τ] {f : σ → τ} (hf : Database.Morphism f)
    (s : Session σ) : (s.map f).made e = (s.made e).map f :=
  validate_map hf (s.tree e) (s.conn.info _)

lemma made_events_standing {w : Session (Watched Scripted)} (hnew : w.conn.db.events = [])
    (hw : Standing e.size 0 [] w.conn.db.db) :
    ∀ ev ∈ (w.made e).conn.db.events, ∃ j, Standing e.size j [] ev.after := by
  obtain ⟨xs, vs, later, hp⟩ := validate_passes (w.tree e) (w.conn.info
    ("evaluating expression with " ++ toString (ofExpr e w.names.reset).2.issued ++ " node(s)"))
  have hnames : xs.map (·.view.name) ++ later.map View.name = View.namesAfter 0 e.size := by
    rw [← hp.viewNames_eq]
    exact viewNames_ofExpr e _
  have hxs := (eq_namesAfter_of_append hnames).2
  rw [List.length_map] at hxs
  refine hp.pass.standing hxs hw ?_
  rw [info_db, hnew]
  simp

lemma queried_standing {w : Session (Watched Scripted)} {n k : ℕ}
    (hw : Standing n k [] (w.made e).conn.db.db) :
    Standing n k [] (w.queried e).db.db ∧
      ∀ ev ∈ (w.queried e).db.events,
        ev ∈ (w.made e).conn.db.events ∨ Standing n k [] ev.after := by
  -- there is at most one request, for the rows, and it changes no view
  have hdb : (w.queried e).db = (w.made e).conn.db ∨
      ∃ sql, (w.queried e).db = (w.made e).conn.db.next (.query sql) := by
    unfold queried
    split
    · simp only [execute]
      split
      · right
        split
        · next hask => exact ⟨_, (ask_eq hask).2⟩
        · next hask => exact ⟨_, (ask_eq hask).2⟩
      · exact .inl rfl
    · exact .inl rfl
  rcases hdb with hdb | ⟨sql, hdb⟩
  · rw [hdb]
    exact ⟨hw, fun ev hev => .inl hev⟩
  · have hquery : Standing n k [] ((Request.query sql).run (w.made e).conn.db.db).2 :=
      hw.congr (query_live sql _) (query_script sql _)
    rw [hdb, Watched.next_db, Watched.next_events]
    refine ⟨hquery, fun ev hev => ?_⟩
    rcases List.mem_append.mp hev with hev | hev
    · exact .inl hev
    · obtain rfl := List.mem_singleton.mp hev
      exact .inr hquery

/-- At every moment of an evaluation, the views up to some number are there, but for a first part
of the order in which they are dropped. -/
lemma evaluate_events_standing {w : Session (Watched Scripted)} (hnew : w.conn.db.events = [])
    (hw : Standing e.size 0 [] w.conn.db.db) :
    ∀ ev ∈ (w.evaluate e).2.conn.db.events, ∃ k dropped,
      dropped <+: (w.tree e).views.map View.name ∧ Standing e.size k dropped ev.after := by
  have hmade : (w.map Watched.db).made e = (w.made e).map Watched.db :=
    map_made e Watched.morphism w
  obtain ⟨k, hstanding, hcorrect⟩ := exists_made_standing (s := w.map Watched.db) e hw
  rw [hmade] at hstanding hcorrect
  obtain ⟨hqueried, hevents⟩ := queried_standing e (w := w) hstanding
  have hviews : (w.made e).tree.views.map View.name = (w.tree e).views.map View.name := by
    rw [← names_reset, made, reset_validate, names_reset]
  intro ev hev
  rw [evaluate_db] at hev
  rcases releaseAll_standing hqueried hcorrect ev hev with hev | ⟨gone, hgone, hev⟩
  · rcases hevents ev hev with hev | hev
    · obtain ⟨j, hj⟩ := made_events_standing e hnew hw ev hev
      exact ⟨j, [], List.nil_prefix, hj⟩
    · exact ⟨k, [], List.nil_prefix, hev⟩
  · rw [List.nil_append] at hgone
    exact ⟨k, gone, hviews ▸ hgone, hev⟩

/-- **Views stand on the views of their operands**, after every single request of an evaluation,
where no view of the tree was there before and no rule forbids to drop one. The requests are those
of the evaluation itself, and they account for all SQL it sends. -/
theorem evaluate_supported (s : Session Scripted) (e : Expr)
    (hnone : ∀ k, 1 ≤ k → k ≤ e.size → View.nameOf k ∉ s.conn.db.liveNames)
    (hdrop : ∀ k, 1 ≤ k → k ≤ e.size →
      s.conn.db.script.failDrop.answer? (· == View.nameOf k) = none) :
    Prod.map id (Session.map Watched.db) ((s.map Watched.start).evaluate e) = s.evaluate e ∧
      (s.evaluate e).2.conn.db.sent.toList = s.conn.db.sent.toList ++
        ((s.map Watched.start).evaluate e).2.conn.db.events.filterMap (·.request.sql?) ∧
      ∀ ev ∈ ((s.map Watched.start).evaluate e).2.conn.db.events,
        Supported (s.tree e) ev.after := by
  have hstart : Standing e.size 0 [] s.conn.db := by
    refine ⟨fun name hn => ?_, fun name hn => ?_⟩
    · obtain ⟨k, hk, hle, rfl⟩ := View.mem_namesAfter.mp hn
      exact sticks_eq_false (hdrop k hk (by omega))
    · obtain ⟨k, hk, hle, rfl⟩ := View.mem_namesAfter.mp hn
      have hnot : View.nameOf k ∉ s.conn.db.names :=
        fun h => hnone k hk (by omega) (mem_liveNames.mpr h)
      simp [hnot, View.namesAfter]
  refine ⟨s.evaluate_watched e, sent_evaluate s e, fun ev hev => ?_⟩
  obtain ⟨k, dropped, hd, hev⟩ := evaluate_events_standing e rfl hstart ev hev
  exact supported_of_standing s e hev hd

/-- The columns of the fourth view that this session makes cannot be read. -/
def faltering : Session Scripted where
  conn.db :=
    { live := [("Kept", "")]
      script :=
        { failSchema := [("RA_TMP_VIEW_4", { message := "gone" })]
          failDrop := [("Kept", { message := "locked" })] } }

/-- All four views are there at some moment, and each of them only above those of its operands. -/
theorem faltering_supported :
    (∃ ev ∈ ((faltering.map Watched.start).evaluate (.binary (.join none)
        (.unary (.select "a > 1") (.relation "R")) (.relation "S"))).2.conn.db.events,
      ev.after.names =
        ["Kept", "RA_TMP_VIEW_1", "RA_TMP_VIEW_2", "RA_TMP_VIEW_3", "RA_TMP_VIEW_4"]) ∧
      ∀ ev ∈ ((faltering.map Watched.start).evaluate (.binary (.join none)
          (.unary (.select "a > 1") (.relation "R")) (.relation "S"))).2.conn.db.events,
        Supported (faltering.tree (.binary (.join none)
          (.unary (.select "a > 1") (.relation "R")) (.relation "S"))) ev.after := by
  have hsize : (Expr.binary (.join none) (.unary (.select "a > 1") (.relation "R"))
      (.relation "S")).size = 4 := rfl
  have hk {k : ℕ} (h1 : 1 ≤ k) (h2 : k ≤ 4) : k = 1 ∨ k = 2 ∨ k = 3 ∨ k = 4 := by omega
  refine ⟨by decide +kernel,
    (evaluate_supported faltering _ (fun k h1 h2 => ?_) fun k h1 h2 => ?_).2.2⟩
  · rcases hk h1 (hsize ▸ h2) with rfl | rfl | rfl | rfl <;> decide +kernel
  · rcases hk h1 (hsize ▸ h2) with rfl | rfl | rfl | rfl <;> decide +kernel

end Session

end RelAlgebra
