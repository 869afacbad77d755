import RelAlgebra.Proofs.Database.Watched
import RelAlgebra.Proofs.View.Address

/-!
Dropping the views of a tree.

The views are gone through one after the other, in the order of the addresses of their nodes. For
one that is there a single request is made, to drop it, and if that fails the failure is kept and
the next view has its turn. No view is there afterwards, so nothing is asked a second time.
-/

namespace RelAlgebra

/-- The failure that is kept of a request to drop a view. -/
def Event.cleanup? {σ : Type} (ev : Event σ) : Option Error :=
  match ev.request, ev.failure with
  | .dropView name, some err => some (.cleanup name err)
  | _, _ => none

variable {σ : Type} [Database σ]

namespace Connection

/-! ### One view after the other -/

lemma release_of_not_correct {v : View} (h : v.status ≠ .correct) (c : Connection σ) :
    c.release v = (none, c) := by
  rw [release, if_neg h]

lemma release_of_correct {v : View} (h : v.status = .correct) (c : Connection (Watched σ)) :
    ∃ ev : Event σ, ev.request = .dropView v.name ∧
      (c.release v).2.db.events = c.db.events ++ [ev] ∧ (c.release v).1 = ev.cleanup? := by
  refine ⟨⟨.dropView v.name, failure? (Database.dropView v.name c.db.db).1,
    (Database.dropView v.name c.db.db).2⟩, rfl, ?_, ?_⟩
  · rw [release_db, if_pos h]
    rfl
  · rw [release_failure, if_pos h]
    have hanswer : (Database.dropView v.name c.db).1 = (Database.dropView v.name c.db.db).1 := rfl
    rw [hanswer]
    cases (Database.dropView v.name c.db.db).1 <;> rfl

lemma releaseAll_requests (c : Connection (Watched σ)) (vs : List View) :
    ∃ es, (c.releaseAll vs).2.db.events = c.db.events ++ es ∧
      es.map Event.request =
        (vs.filter fun v => v.status = .correct).map (fun v => .dropView v.name) ∧
      (c.releaseAll vs).1 = es.filterMap Event.cleanup? := by
  induction vs generalizing c with
  | nil => exact ⟨[], (List.append_nil _).symm, rfl, rfl⟩
  | cons v vs ih =>
    obtain ⟨es, hevents, hrequests, hfailures⟩ := ih (c.release v).2
    have hall : c.releaseAll (v :: vs) = ((c.release v).1.toList ++
        ((c.release v).2.releaseAll vs).1, ((c.release v).2.releaseAll vs).2) := rfl
    rw [hall]
    by_cases hv : v.status = .correct
    · obtain ⟨ev, hev, hfirst, hfailure⟩ := release_of_correct hv c
      refine ⟨ev :: es, ?_, ?_, ?_⟩
      · rw [hevents, hfirst, List.append_assoc]
        rfl
      · rw [List.filter_cons_of_pos (by simpa using hv), List.map_cons, List.map_cons, hev,
          hrequests]
      · rw [hfailure, hfailures, List.filterMap_cons]
        cases ev.cleanup? <;> rfl
    · rw [release_of_not_correct hv] at hevents hfailures ⊢
      refine ⟨es, hevents, ?_, hfailures⟩
      rw [List.filter_cons_of_neg (by simpa using hv), hrequests]

lemma releaseAll_of_none_correct {vs : List View} (h : ∀ v ∈ vs, v.status ≠ .correct)
    (c : Connection σ) : c.releaseAll vs = ([], c) := by
  induction vs with
  | nil => rfl
  | cons v vs ih =>
    rw [List.forall_mem_cons] at h
    simp only [releaseAll, release_of_not_correct h.1, ih h.2]
    rfl

end Connection

namespace ViewTree

open Connection

/-- The addresses of the nodes whose views are there, in order. -/
def correctAddresses (t : ViewTree) : List (List ℕ) :=
  t.addresses.filter fun p => (t.at? p).any fun n => n.view.status = .correct

lemma mem_correctAddresses {t : ViewTree} {p : List ℕ} :
    p ∈ t.correctAddresses ↔ ∃ n, t.at? p = some n ∧ n.view.status = .correct := by
  rw [correctAddresses, List.mem_filter, mem_addresses]
  constructor
  · rintro ⟨⟨n, hn⟩, hany⟩
    exact ⟨n, hn, by simpa [hn] using hany⟩
  · rintro ⟨n, hn, hcorrect⟩
    exact ⟨⟨n, hn⟩, by simpa [hn] using hcorrect⟩

lemma map_correctAddresses (t : ViewTree) :
    t.correctAddresses.map (fun p => (t.at? p).map view) =
      (t.views.filter fun v => v.status = .correct).map some := by
  calc t.correctAddresses.map (fun p => (t.at? p).map view)
      = ((t.addresses.map t.at?).filter fun o => o.any fun n => n.view.status = .correct).map
          (Option.map view) := by
        rw [List.filter_map, List.map_map]
        rfl
    _ = ((t.nodes.filter fun n => n.view.status = .correct).map view).map some := by
        rw [map_at?_addresses, List.filter_map, List.map_map, List.map_map]
        rfl
    _ = (t.views.filter fun v => v.status = .correct).map some := by
        rw [← map_view_nodes, List.filter_map]
        rfl

omit [Database σ] in
lemma forall₂_correctAddresses {t : ViewTree} {es : List (Event σ)}
    (h : es.map Event.request =
      (t.views.filter fun v => v.status = .correct).map fun v => .dropView v.name) :
    List.Forall₂ (fun p ev => ∃ n, t.at? p = some n ∧ ev.request = .dropView n.view.name)
      t.correctAddresses es := by
  have hmap : t.correctAddresses.map (fun p => ((t.at? p).map view).map fun v =>
      Request.dropView v.name) = es.map fun ev => some ev.request := by
    calc t.correctAddresses.map (fun p => ((t.at? p).map view).map fun v => Request.dropView v.name)
        = (t.correctAddresses.map fun p => (t.at? p).map view).map
            (Option.map fun v => Request.dropView v.name) := by rw [List.map_map]; rfl
      _ = ((t.views.filter fun v => v.status = .correct).map fun v =>
            Request.dropView v.name).map some := by
          rw [map_correctAddresses, List.map_map, List.map_map]
          rfl
      _ = es.map fun ev => some ev.request := by rw [← h, List.map_map]; rfl
  rw [← List.forall₂_eq_eq_eq, List.forall₂_map_left_iff, List.forall₂_map_right_iff] at hmap
  refine hmap.imp fun p ev hev => ?_
  rw [Option.map_map] at hev
  obtain ⟨n, hn, hrequest⟩ := Option.map_eq_some_iff.mp hev
  exact ⟨n, hn, hrequest.symm⟩

/-! ### The tree afterwards -/

lemma unchecked_reset (t : ViewTree) :
    ∀ v ∈ t.reset.views, v.status = .unchecked ∧ v.schema = none := by
  intro v hv
  rw [(views_perm_postorder _).mem_iff, postorder_reset] at hv
  obtain ⟨u, -, rfl⟩ := List.mem_map.mp hv
  exact ⟨rfl, rfl⟩

lemma clean_reset (t : ViewTree) (c : Connection σ) : t.reset.clean c = ⟨t.reset, [], c⟩ := by
  have hnone : ∀ v ∈ t.reset.views, v.status ≠ .correct := fun v hv => by
    simp [(unchecked_reset t v hv).1]
  simp only [clean, releaseAll_of_none_correct hnone, reset_reset]

/-- **Dropping the views of a tree asks for each view that is there once, and for nothing else.**
Whatever state the tree is in and whatever the database answers, an operator is asked for before its
operands and a left operand before a right one; every failure is told, in that order. Afterwards no
view is there, and doing it again does nothing. -/
theorem clean_drops_correct (t : ViewTree) (c : Connection σ) :
    let cleaned := t.clean c
    let watched := t.clean (c.map Watched.start)
    watched.map Watched.db = cleaned ∧
      (∃ ps : List (List ℕ), ps.Pairwise (· < ·) ∧
        (∀ p, p ∈ ps ↔ ∃ n, t.at? p = some n ∧ n.view.status = .correct) ∧
        List.Forall₂ (fun p ev => ∃ n, t.at? p = some n ∧ ev.request = .dropView n.view.name)
          ps watched.conn.db.events) ∧
      cleaned.failures = watched.conn.db.events.filterMap Event.cleanup? ∧
      cleaned.tree.expr = t.expr ∧
      cleaned.tree.viewNames = t.viewNames ∧
      (∀ p n, cleaned.tree.at? p = some n → n.view.status = .unchecked ∧ n.view.schema = none) ∧
      cleaned.tree.clean cleaned.conn = ⟨cleaned.tree, [], cleaned.conn⟩ ∧
      (cleaned.tree.clean (cleaned.conn.map Watched.start)).conn.db.events = [] := by
  intro cleaned watched
  have hwatched : watched.map Watched.db = cleaned :=
    (clean_map Watched.morphism.toAnswers t (c.map Watched.start)).symm
  obtain ⟨es, hevents, hrequests, hfailures⟩ := (c.map Watched.start).releaseAll_requests t.views
  have hes : watched.conn.db.events = es := hevents
  rw [hes]
  refine ⟨hwatched, ⟨t.correctAddresses, (pairwise_addresses t).filter _,
    fun p => mem_correctAddresses, forall₂_correctAddresses hrequests⟩, ?_, expr_reset t,
    viewNames_reset t, fun p n hp => unchecked_reset t n.view ?_, clean_reset t _, ?_⟩
  · rw [← hwatched]
    exact hfailures
  · rw [← map_view_nodes]
    exact List.mem_map_of_mem (mem_nodes_iff.mpr ⟨p, hp⟩)
  · have htree : cleaned.tree = t.reset := rfl
    rw [htree, clean_reset]
    rfl

end ViewTree

end RelAlgebra
