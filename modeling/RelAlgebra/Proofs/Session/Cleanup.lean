import RelAlgebra.Proofs.View.Footprint
import RelAlgebra.Session

/-!
What an evaluation leaves in a scripted database.

An evaluation makes views, may query the last of them and drops them all. Where no rule forbids to
drop one of them, exactly the names it attempted are gone afterwards, and nothing else has
changed. Otherwise a view that stays is told of, but for one case: a view that was made, whose
columns cannot be read and that cannot be dropped.
-/

namespace RelAlgebra

namespace Session

open Scripted ViewTree Connection

section

variable {σ : Type} [Database σ] (s : Session σ) (e : Expr)

/-- The connection when the view of the root has been queried, if all views were made. -/
def queried : Connection σ :=
  match (s.made e).result with
  | .ok () => ((s.made e).tree.execute (s.made e).conn).2
  | .error err => (s.made e).conn.info ("validation failed: " ++ err.message)

lemma evaluate_cleanupErrors :
    (s.evaluate e).1.cleanupErrors = ((s.queried e).releaseAll (s.made e).tree.views).1 := by
  unfold queried
  simp only [evaluate, clean]
  split <;> simp_all

lemma evaluate_db :
    (s.evaluate e).2.conn.db = ((s.queried e).releaseAll (s.made e).tree.views).2.db := by
  unfold queried
  simp only [evaluate, clean]
  split <;> split <;> simp_all

lemma evaluate_of_ok (h : (s.made e).result = .ok ()) :
    (s.evaluate e).1.errorTree = none ∧
      (s.evaluate e).1.result = ((s.made e).tree.execute (s.made e).conn).1 := by
  simp only [evaluate, h, and_self]

lemma evaluate_of_error {err : Error} (h : (s.made e).result = .error err) :
    (s.evaluate e).1.errorTree ≠ none ∧ (s.evaluate e).1.result = .error err := by
  simp only [evaluate, h]
  exact ⟨nofun, trivial⟩

lemma execute_ne_validation (t : ViewTree) (c : Connection σ) (view operator reason : String)
    (source : Option DbError) :
    (t.execute c).1 ≠ .error (.validation view operator reason source) := by
  simp only [execute]
  split
  · split <;> simp
  · simp

end

variable (s : Session Scripted) (e : Expr)

lemma execute_live (t : ViewTree) (c : Connection Scripted) :
    (t.execute c).2.db.live = c.db.live ∧ (t.execute c).2.db.script = c.db.script := by
  have hquery {sql : String} {r : Except DbError QueryResult} {c' : Connection Scripted}
      (h : (c.debug sql).ask (Database.query sql) = (r, c')) :
      c'.db.live = c.db.live ∧ c'.db.script = c.db.script := by
    rw [(ask_eq h).2]
    exact ⟨query_live _ _, query_script _ _⟩
  simp only [execute]
  split
  · split
    · next h => exact hquery h
    · next h => exact hquery h
  · exact ⟨rfl, rfl⟩

lemma queried_live :
    (s.queried e).db.live = (s.made e).conn.db.live ∧
      (s.queried e).db.script = (s.made e).conn.db.script := by
  unfold queried
  split
  · exact execute_live _ _
  · exact ⟨rfl, rfl⟩

/-! ### From the attempts to the end of the evaluation -/

/-- What the attempts at the views of an expression leave: the names `attempted` are dropped, and
the views `standing` are at the end, among them those of the names `correct`. -/
structure Trail (attempted correct : List String) (standing : List (String × String)) :
    Prop where
  script : (s.made e).conn.db.script = s.conn.db.script
  live : (s.made e).conn.db.live = s.conn.db.left attempted ++ standing
  correct_iff : ∀ name, name ∈ madeNames (s.made e).tree.views ↔ name ∈ correct
  standing_of_correct : ∀ name ∈ correct, name ∈ standing.map Prod.fst
  attempted_of_standing : ∀ name ∈ standing.map Prod.fst, name ∈ attempted
  new : ∀ name ∈ standing.map Prod.fst, name ∉ (s.conn.db.left attempted).map Prod.fst
  nodup : ((s.made e).tree.views.map View.name).Nodup

variable {s e} {attempted correct : List String} {standing : List (String × String)}

lemma Trail.attempted_of_correct (h : Trail s e attempted correct standing) {name : String}
    (hn : name ∈ correct) : name ∈ attempted :=
  h.attempted_of_standing name (h.standing_of_correct name hn)

lemma Trail.live_evaluate (h : Trail s e attempted correct standing) :
    (s.evaluate e).2.conn.db.live = s.conn.db.left attempted ++
      standing.filter fun v => decide (v.1 ∉ correct) || s.conn.db.sticks v.1 := by
  obtain ⟨hql, hqs⟩ := queried_live s e
  rw [evaluate_db, (releaseAll_live _ _).2, left_left (hqs.trans h.script) (hql.trans h.live)]
  congr 1
  · refine List.filter_congr fun v _ => ?_
    by_cases ha : v.1 ∈ attempted
    · simp [ha]
    · have hc : v.1 ∉ madeNames (s.made e).tree.views := fun hm =>
        ha (h.attempted_of_correct ((h.correct_iff _).mp hm))
      simp [ha, hc]
  · refine List.filter_congr fun v _ => ?_
    simp only [h.correct_iff]

lemma Trail.cleanupErrors_evaluate (h : Trail s e attempted correct standing) :
    (s.evaluate e).1.cleanupErrors = (s.made e).tree.views.filterMap (dropFailure s.conn.db) := by
  obtain ⟨hql, hqs⟩ := queried_live s e
  have hlive : ∀ name ∈ madeNames (s.made e).tree.views, name ∈ (s.queried e).db.names := by
    intro name hn
    have hst := h.standing_of_correct _ ((h.correct_iff _).mp hn)
    rw [Scripted.names, hql, h.live, List.map_append, List.mem_append]
    exact .inr hst
  rw [evaluate_cleanupErrors, releaseAll_failures _ h.nodup hlive,
    dropFailure_congr (hqs.trans h.script)]

lemma Trail.reported_iff (h : Trail s e attempted correct standing) (name : String) :
    (∃ source, .cleanup name source ∈ (s.evaluate e).1.cleanupErrors) ↔
      name ∈ correct ∧ s.conn.db.sticks name = true := by
  rw [h.cleanupErrors_evaluate, ← h.correct_iff]
  simp only [List.mem_filterMap, dropFailure, madeNames, List.mem_map, List.mem_filter,
    decide_eq_true_eq]
  constructor
  · rintro ⟨source, v, hv, hf⟩
    split at hf
    · next hc =>
      obtain ⟨d, hd, he⟩ := Option.map_eq_some_iff.mp hf
      cases he
      exact ⟨⟨v, ⟨hv, hc⟩, rfl⟩, sticks_eq_true hd⟩
    · cases hf
  · rintro ⟨⟨v, ⟨hv, hc⟩, rfl⟩, hk⟩
    obtain ⟨d, hd⟩ := Option.isSome_iff_exists.mp hk
    exact ⟨d, v, hv, by simp [hc, hd]⟩

/-! ### The trail of an evaluation -/

lemma eq_namesAfter_of_append {a n : ℕ} {xs ys : List String}
    (h : xs ++ ys = View.namesAfter a n) :
    xs.length ≤ n ∧ xs = View.namesAfter a xs.length := by
  have hlen : xs.length ≤ n := by
    have := congrArg List.length h
    simp only [List.length_append, View.length_namesAfter] at this
    omega
  obtain ⟨k, rfl⟩ := Nat.exists_eq_add_of_le hlen
  rw [View.namesAfter_add] at h
  exact ⟨hlen, (List.append_inj h (by simp)).1⟩

variable (s e)

lemma made_passes : ∃ xs vs later, Passes (s.tree e) (s.conn.info
    ("evaluating expression with " ++ toString (ofExpr e s.names.reset).2.issued ++ " node(s)"))
    (s.made e) xs vs later :=
  validate_passes _ _

lemma viewNames_tree : (s.tree e).viewNames = View.namesAfter 0 e.size :=
  viewNames_ofExpr e _

lemma viewNames_made : (s.made e).tree.viewNames = View.namesAfter 0 e.size := by
  obtain ⟨xs, vs, later, hp⟩ := made_passes s e
  rw [hp.viewNames_made, viewNames_tree]

lemma nodup_views_made : ((s.made e).tree.views.map View.name).Nodup := by
  rw [((views_perm_postorder _).map _).nodup_iff, ← viewNames, viewNames_made]
  exact View.nodup_namesAfter _ _

lemma mem_madeNames_views {t : ViewTree} {name : String} :
    name ∈ madeNames t.views ↔ ∃ v ∈ t.postorder, v.status = .correct ∧ v.name = name := by
  rw [mem_madeNames]
  simp only [(views_perm_postorder t).mem_iff]

lemma plain_of_mem {a n : ℕ} {name : String} (h : name ∈ View.namesAfter a n) : Plain name := by
  obtain ⟨k, -, -, rfl⟩ := View.mem_namesAfter.mp h
  exact plain_nameOf k

lemma trail_of_ok (h : (s.made e).result = .ok ()) :
    ∃ standing, standing.map Prod.fst = View.namesAfter 0 e.size ∧
      Trail s e (View.namesAfter 0 e.size) (View.namesAfter 0 e.size) standing := by
  obtain ⟨xs, vs, later, hp⟩ := made_passes s e
  have hk := hp.known h
  have hnames := viewNames_made s e
  obtain rfl := hp.complete h
  have hpass := hp.pass
  rw [h] at hpass
  have hxs : xs.map (·.view.name) = View.namesAfter 0 e.size := by
    rw [← viewNames_tree s e, hp.viewNames_eq, List.map_nil, List.append_nil]
  have hplain (x : ViewTree) (hx : x ∈ xs) : Plain x.view.name :=
    plain_of_mem (hxs ▸ List.mem_map_of_mem (f := fun x : ViewTree => x.view.name) hx)
  obtain ⟨hscript, hnew, standing, hst, hlive⟩ :=
    hpass.live hplain (hxs ▸ View.nodup_namesAfter _ _)
  rw [hxs] at hnew hst hlive
  refine ⟨standing, hst, ⟨hscript, hlive, fun name => ?_, fun _ hn => hst ▸ hn,
    fun _ hn => hst ▸ hn, fun _ hn => hnew _ (hst ▸ hn), nodup_views_made s e⟩⟩
  rw [mem_madeNames_views, ← hnames, viewNames, List.mem_map]
  constructor
  · rintro ⟨v, hv, -, hn⟩
    exact ⟨v, hv, hn⟩
  · rintro ⟨v, hv, hn⟩
    exact ⟨v, hv, (hk v hv).1, hn⟩

section

variable {s e} {c c₁ : Connection Scripted} {ys : List ViewTree} {us later : List View}
  {x : ViewTree} {err : Error}

lemma names_of_failed (hp : Passes (s.tree e) c (s.made e) (ys ++ [x])
      (us ++ [(x.makeRoot c₁).tree.view]) later) :
    ys.length < e.size ∧ ys.map (·.view.name) = View.namesAfter 0 ys.length ∧
      x.view.name = View.nameOf (ys.length + 1) := by
  have hall : (ys ++ [x]).map (·.view.name) ++ later.map View.name =
      View.namesAfter 0 e.size := by
    rw [← viewNames_tree s e, hp.viewNames_eq]
  obtain ⟨hlt, hxs⟩ := eq_namesAfter_of_append hall
  simp only [List.length_map, List.length_append, List.length_singleton] at hlt hxs
  rw [View.namesAfter_succ, List.map_append, List.map_singleton] at hxs
  obtain ⟨hys, hx⟩ := List.append_inj hxs (by simp)
  rw [List.singleton_inj, Nat.zero_add] at hx
  exact ⟨hlt, hys, hx⟩

/-- The correct nodes are those before the one that failed: the others after it were not
attempted. -/
lemma mem_madeNames_failed (hp : Passes (s.tree e) c (s.made e) (ys ++ [x])
      (us ++ [(x.makeRoot c₁).tree.view]) later)
    (hys : Pass ys c us (.ok ()) c₁) (hx : (x.makeRoot c₁).result = .error err) (name : String) :
    name ∈ madeNames (s.made e).tree.views ↔ name ∈ ys.map (·.view.name) := by
  rw [mem_madeNames_views, hp.after, ← hys.names, List.mem_map]
  constructor
  · rintro ⟨v, hv, hc, hn⟩
    simp only [List.mem_append, List.mem_singleton] at hv
    rcases hv with (hv | rfl) | hv
    · exact ⟨v, hv, hn⟩
    · rw [makeRoot_failed hx] at hc; cases hc
    · have hu := (unchecked_ofExpr e s.names.reset v
        (show v ∈ (s.tree e).postorder by rw [hp.before]; exact List.mem_append_right _ hv)).1
      rw [hu] at hc; cases hc
  · rintro ⟨v, hv, hn⟩
    exact ⟨v, by simp [hv], (hys.known v hv).1, hn⟩

end

/-- When a view could not be made, those before it are at the end of the list, followed by that
view just when it leaks. -/
lemma trail_of_error {err : Error} (h : (s.made e).result = .error err) :
    ∃ k < e.size, ∃ operator reason source standing,
      err = .validation (View.nameOf (k + 1)) operator reason source ∧
      Trail s e (View.namesAfter 0 (k + 1)) (View.namesAfter 0 k) standing ∧
      ((¬ Leaks s.conn.db (View.nameOf (k + 1)) err ∧
          standing.map Prod.fst = View.namesAfter 0 k) ∨
        (Leaks s.conn.db (View.nameOf (k + 1)) err ∧
          standing.map Prod.fst = View.namesAfter 0 (k + 1))) := by
  obtain ⟨xs, vs, later, hp⟩ := made_passes s e
  have hpass := hp.pass
  rw [h] at hpass
  obtain ⟨ys, us, c₁, x, rfl, hys, hx, rfl, hc⟩ := hpass.of_error
  obtain ⟨hlt, hysn, hname⟩ := names_of_failed hp
  -- the correct nodes are those before the one that failed, with the first `k` names
  have hcorrect := mem_madeNames_failed hp hys hx
  rw [hysn] at hcorrect
  generalize ys.length = k at hlt hysn hname hcorrect
  have hxs : (ys ++ [x]).map (·.view.name) = View.namesAfter 0 (k + 1) := by
    rw [List.map_append, List.map_singleton, hysn, hname, View.namesAfter_succ, Nat.zero_add]
  have hready : x.Ready := hp.ready x (by simp)
  have hplain (y : ViewTree) (hy : y ∈ ys ++ [x]) : Plain y.view.name :=
    plain_of_mem (hxs ▸ List.mem_map_of_mem (f := fun x : ViewTree => x.view.name) hy)
  obtain ⟨hscript, standing, hlive, hnew, hcases⟩ :=
    hys.live_failed hx hready hplain (hxs ▸ View.nodup_namesAfter _ _)
  rw [info_db, ← hc] at hscript
  rw [info_db, hxs] at hnew
  rw [info_db, ← hc, hxs] at hlive
  rw [info_db, hname, hxs, hysn] at hcases
  have hsub : ∀ name ∈ View.namesAfter 0 k, name ∈ View.namesAfter 0 (k + 1) := by
    rw [View.namesAfter_succ]
    exact fun name => List.mem_append_left _
  obtain ⟨reason, source, herr⟩ := makeRoot_error hready hx
  refine ⟨k, hlt, x.label, reason, source, standing, hname ▸ herr,
    ⟨hscript, hlive, hcorrect, fun name hn => ?_, fun name hn => ?_, hnew,
      nodup_views_made s e⟩, hcases⟩
  · rcases hcases with ⟨-, hst⟩ | ⟨-, hst⟩
    · exact hst ▸ hn
    · exact hst ▸ hsub name hn
  · rcases hcases with ⟨-, hst⟩ | ⟨-, hst⟩
    · exact hsub name (hst ▸ hn)
    · exact hst ▸ hn

/-! ### No rule against dropping -/

/-- The number of the last view that an evaluation attempted: that of the node it failed at, or
else that of the root. -/
def Reached (r : Evaluation) (e : Expr) (m : ℕ) : Prop :=
  (r.errorTree = none → m = e.size) ∧
    (r.errorTree ≠ none → 1 ≤ m ∧ m ≤ e.size ∧ ∃ operator reason source,
      r.result = .error (.validation (View.nameOf m) operator reason source))

/-- The attempts of an evaluation. Of the views that stand after them, only one that leaks does
not belong to a correct node. -/
lemma exists_trail : ∃ m correct standing, Reached (s.evaluate e).1 e m ∧ m ≤ e.size ∧
    Trail s e (View.namesAfter 0 m) correct standing ∧
    ∀ name, (name ∈ standing.map Prod.fst ∧ name ∉ correct) ↔
      ∃ err, (s.evaluate e).1.result = .error err ∧ Leaks s.conn.db name err := by
  cases h : (s.made e).result with
  | ok u =>
    obtain ⟨hnone, hresult⟩ := evaluate_of_ok s e h
    obtain ⟨standing, hst, htrail⟩ := trail_of_ok s e h
    refine ⟨e.size, _, standing, ⟨fun _ => rfl, fun hne => absurd hnone hne⟩, le_rfl, htrail,
      fun name => ⟨fun hn => absurd (hst ▸ hn.1) hn.2, ?_⟩⟩
    rintro ⟨err, herr, -, operator, source, rfl⟩
    rw [hresult] at herr
    exact absurd herr (execute_ne_validation _ _ _ _ _ _)
  | error err =>
    obtain ⟨hne, hresult⟩ := evaluate_of_error s e h
    obtain ⟨k, hk, operator, reason, source, standing, herr, htrail, hcases⟩ := trail_of_error s e h
    refine ⟨k + 1, _, standing, ⟨fun hnone => absurd hnone hne, fun _ => ⟨by omega, hk, operator,
      reason, source, by rw [hresult, herr]⟩⟩, hk, htrail, fun name => ?_⟩
    -- a view that leaks is the one that is told of
    have hname : Leaks s.conn.db name err → name = View.nameOf (k + 1) := by
      rintro ⟨-, operator', source', he⟩
      rw [herr] at he
      exact (Error.validation.inj he).1.symm
    have hfresh : View.nameOf (k + 1) ∉ View.namesAfter 0 k := by
      rw [View.nameOf_mem_namesAfter]; omega
    rw [hresult]
    constructor
    · rintro ⟨hn, hc⟩
      rcases hcases with ⟨-, hst⟩ | ⟨hyes, hst⟩
      · exact absurd (hst ▸ hn) hc
      · rw [hst, View.namesAfter_succ, Nat.zero_add, List.mem_append, List.mem_singleton] at hn
        exact ⟨err, rfl, hn.resolve_left hc ▸ hyes⟩
    · rintro ⟨err', he, hl⟩
      cases he
      obtain rfl := hname hl
      rcases hcases with ⟨hno, -⟩ | ⟨-, hst⟩
      · exact absurd hl hno
      · exact ⟨hst ▸ View.nameOf_mem_namesAfter.mpr (by omega), hfresh⟩

/-- **No temporary view is left over and no other view is touched**, where no rule forbids to drop
a view of the tree: exactly the views of the names that were attempted are gone. -/
theorem evaluate_drops_attempted
    (h : ∀ k, 1 ≤ k → k ≤ e.size →
      s.conn.db.script.failDrop.answer? (· == View.nameOf k) = none) :
    (s.evaluate e).1.cleanupErrors = [] ∧
      ∃ m, Reached (s.evaluate e).1 e m ∧
        (s.evaluate e).2.conn.db.live =
          s.conn.db.live.filter fun v => v.1 ∉ View.namesAfter 0 m := by
  obtain ⟨m, correct, standing, hm, hle, htrail, hleak⟩ := exists_trail s e
  have hdrop (name : String) (hn : name ∈ View.namesAfter 0 m) :
      s.conn.db.script.failDrop.answer? (· == name) = none := by
    obtain ⟨k, h0, hk, rfl⟩ := View.mem_namesAfter.mp hn
    exact h k h0 (by omega)
  refine ⟨?_, m, hm, ?_⟩
  · rw [htrail.cleanupErrors_evaluate, List.filterMap_eq_nil_iff]
    intro v hv
    unfold dropFailure
    split
    · next hc =>
      have hcorrect := (htrail.correct_iff _).mp (mem_madeNames.mpr ⟨v, hv, hc, rfl⟩)
      rw [hdrop _ (htrail.attempted_of_correct hcorrect)]; rfl
    · rfl
  · have hnone :
        standing.filter (fun v => decide (v.1 ∉ correct) || s.conn.db.sticks v.1) = [] := by
      rw [List.filter_eq_nil_iff]
      intro v hv
      have hst := List.mem_map_of_mem (f := Prod.fst) hv
      have hk := sticks_eq_false (hdrop _ (htrail.attempted_of_standing _ hst))
      have hc : v.1 ∈ correct := by
        by_contra hc
        obtain ⟨err, -, hk', -⟩ := (hleak v.1).mp ⟨hst, hc⟩
        rw [hk] at hk'; cases hk'
      simp [hc, hk]
    rw [htrail.live_evaluate, hnone, List.append_nil]
    refine List.filter_congr fun v _ => ?_
    by_cases hv : v.1 ∈ View.namesAfter 0 m
    · simp [hv, sticks_eq_false (hdrop v.1 hv)]
    · simp [hv]

/-- A session whose database holds a view left over from an earlier one, and another view that
cannot be dropped. The columns of the second view it makes cannot be read. -/
def crowded : Session Scripted where
  conn.db :=
    { live := [("RA_TMP_VIEW_1", "CREATE VIEW RA_TMP_VIEW_1 AS SELECT DISTINCT * FROM S"),
        ("Kept", ""), ("RA_TMP_VIEW_2", "")]
      script :=
        { failSchema := [("RA_TMP_VIEW_2", { message := "gone" })]
          failDrop := [("Kept", { message := "locked" })] } }
  names := ⟨7⟩

theorem crowded_drops_attempted :
    (crowded.evaluate (.unary (.select "a > 1") (.relation "R"))).1.cleanupErrors = [] ∧
      ∃ m, Reached (crowded.evaluate (.unary (.select "a > 1") (.relation "R"))).1
          (.unary (.select "a > 1") (.relation "R")) m ∧
        (crowded.evaluate (.unary (.select "a > 1") (.relation "R"))).2.conn.db.live =
          crowded.conn.db.live.filter fun v => v.1 ∉ View.namesAfter 0 m := by
  refine evaluate_drops_attempted crowded _ fun k h1 h2 => ?_
  have hk : k = 1 ∨ k = 2 := by
    have : (Expr.unary (.select "a > 1") (.relation "R")).size = 2 := rfl
    omega
  rcases hk with rfl | rfl <;> decide +kernel

/-! ### Views that are left over -/

lemma unreported_iff (name : String) :
    (name ∈ (s.evaluate e).2.conn.db.liveNames ∧ name ∉ s.conn.db.liveNames ∧
        ¬ ∃ source, .cleanup name source ∈ (s.evaluate e).1.cleanupErrors) ↔
      ∃ err, (s.evaluate e).1.result = .error err ∧ Leaks s.conn.db name err := by
  obtain ⟨m, correct, standing, -, -, htrail, hleak⟩ := exists_trail s e
  rw [htrail.reported_iff, ← hleak, mem_liveNames, mem_liveNames, Scripted.names,
    htrail.live_evaluate, List.map_append, List.mem_append]
  constructor
  · rintro ⟨hafter, hbefore, hunreported⟩
    have hst : name ∈ (standing.filter fun v =>
        decide (v.1 ∉ correct) || s.conn.db.sticks v.1).map Prod.fst :=
      hafter.resolve_left fun hl => hbefore (name_mem_left.mp hl).1
    obtain ⟨v, hv, rfl⟩ := List.mem_map.mp hst
    simp only [List.mem_filter, Bool.or_eq_true, decide_eq_true_eq] at hv
    exact ⟨List.mem_map_of_mem hv.1, fun hc => hunreported ⟨hc, hv.2.resolve_left (not_not.mpr hc)⟩⟩
  · rintro ⟨hst, hc⟩
    obtain ⟨err, -, hk, -⟩ := (hleak name).mp ⟨hst, hc⟩
    refine ⟨.inr ?_, fun hbefore => htrail.new name hst (name_mem_left.mpr ⟨hbefore, .inr hk⟩),
      fun hr => hc hr.1⟩
    obtain ⟨v, hv, rfl⟩ := List.mem_map.mp hst
    exact List.mem_map_of_mem (List.mem_filter.mpr ⟨hv, by simp [hc]⟩)

/-- **When every view that is left over is told of**: always, unless the columns of a view that was
made cannot be read and a rule forbids to drop it. -/
theorem new_views_reported_iff :
    (∀ name ∈ (s.evaluate e).2.conn.db.liveNames, name ∉ s.conn.db.liveNames →
        ∃ source, .cleanup name source ∈ (s.evaluate e).1.cleanupErrors) ↔
      ¬ ∃ name operator source,
        (s.evaluate e).1.result = .error (.validation name operator
          ("cannot read schema of created view: " ++ source.message) (some source)) ∧
        (s.conn.db.script.failDrop.answer? (· == name)).isSome := by
  constructor
  · rintro h ⟨name, operator, source, hr, hk⟩
    obtain ⟨hafter, hbefore, hno⟩ :=
      (unreported_iff s e name).mpr ⟨_, hr, hk, operator, source, rfl⟩
    exact hno (h name hafter hbefore)
  · intro h name hafter hbefore
    by_contra hno
    obtain ⟨err, hr, hk, operator, source, rfl⟩ :=
      (unreported_iff s e name).mp ⟨hafter, hbefore, hno⟩
    exact h ⟨name, operator, source, hr, hk⟩

/-- A view whose columns cannot be read and that cannot be dropped. -/
def stuck : Session Scripted where
  conn.db.script :=
    { failSchema := [("RA_TMP_VIEW_1", { message := "gone" })]
      failDrop := [("RA_TMP_VIEW_1", { message := "locked" })] }

/-- A view is left over and nothing is told of it. -/
theorem stuck_view_unreported :
    ¬ ∀ name ∈ (stuck.evaluate (.relation "R")).2.conn.db.liveNames,
      name ∉ stuck.conn.db.liveNames →
        ∃ source, .cleanup name source ∈ (stuck.evaluate (.relation "R")).1.cleanupErrors := by
  have hafter : (stuck.evaluate (.relation "R")).2.conn.db.liveNames = ["RA_TMP_VIEW_1"] := by
    decide +kernel
  have hbefore : stuck.conn.db.liveNames = [] := by decide +kernel
  have hnone : (stuck.evaluate (.relation "R")).1.cleanupErrors = [] := by decide +kernel
  rw [hafter, hbefore, hnone]
  intro h
  obtain ⟨source, hs⟩ := h _ (List.mem_singleton_self _) List.not_mem_nil
  exact List.not_mem_nil hs

end Session

end RelAlgebra
