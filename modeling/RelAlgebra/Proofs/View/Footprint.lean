import RelAlgebra.Proofs.Database.LiveViews

/-!
What making and dropping the views of a tree leaves in a scripted database.

An attempt drops what stands under its name and may put its own view at the end of the list. So
after a pass the list is what dropping the attempted names leaves, followed by the views that were
made; and dropping the views of a tree undoes it, but for those a rule holds on to.
-/

namespace RelAlgebra

open Scripted

namespace ViewTree

variable {t : ViewTree} {c c' : Connection Scripted}

/-! ### One attempt -/

lemma dropStale_live (c : Connection Scripted) (name : String) :
    (c.dropStale name).db.live = c.db.left [name] ∧
      (c.dropStale name).db.script = c.db.script := by
  rw [Connection.dropStale_db]
  exact ⟨dropView_live name c.db, dropView_script name c.db⟩

lemma created_live {sql : String} {d : Dialect} (hp : Plain t.view.name)
    (written : t.createStatement d = .ok sql)
    (created : ((c.dropStale t.view.name).debug sql).ask (Database.createView sql) = (.ok (), c')) :
    t.view.name ∉ (c.db.left [t.view.name]).map Prod.fst ∧
      c'.db.live = c.db.left [t.view.name] ++ [(t.view.name, sql)] ∧
      c'.db.script = c.db.script := by
  obtain ⟨hl, hs⟩ := dropStale_live c t.view.name
  obtain ⟨hok, hc'⟩ := Connection.ask_eq created
  obtain ⟨hnew, hlive⟩ := createView_ok hok
  rw [createdName_createStatement hp written] at hnew hlive
  rw [Connection.debug_db] at hnew hlive hc'
  rw [hc']
  refine ⟨?_, ?_, ?_⟩
  · rw [← hl]; exact hnew
  · rw [← hl]; exact hlive
  · rw [← hs]; exact createView_script sql _

lemma dropBroken_live {sql : String} {d : Dialect} {c'' : Connection Scripted}
    (hp : Plain t.view.name) (written : t.createStatement d = .ok sql)
    (created : ((c.dropStale t.view.name).debug sql).ask (Database.createView sql) = (.ok (), c'))
    (hc'' : c''.db = c'.db) :
    (c''.dropBroken t.view.name).db.live = c.db.left [t.view.name] ++
      if c.db.sticks t.view.name then [(t.view.name, sql)] else [] := by
  obtain ⟨-, hlive, hscript⟩ := created_live hp written created
  have hdropped : (c''.dropBroken t.view.name).db.live = c'.db.left [t.view.name] := by
    rw [Connection.dropBroken_db, hc'']
    exact dropView_live _ _
  have hself : c.db.left ([t.view.name] ++ [t.view.name]) = c.db.left [t.view.name] := by
    unfold left
    simp
  rw [hdropped, left_left hscript hlive, hself]
  congr 1
  cases hk : c.db.sticks t.view.name <;> simp [hk]

lemma makeRoot_script (hp : Plain t.view.name) :
    (t.makeRoot c).conn.db.script = c.db.script := by
  have ha := attempt_makeRoot t c
  generalize t.makeRoot c = m at ha ⊢
  cases ha with
  | unwritten => exact (dropStale_live c _).2
  | refused _ created =>
    rw [(Connection.ask_eq created).2, Connection.debug_db, ← (dropStale_live c t.view.name).2]
    exact createView_script _ _
  | unread written created read =>
    rw [Connection.dropBroken_db, ← (created_live hp written created).2.2]
    refine (dropView_script _ _).trans ?_
    rw [(Connection.ask_eq read).2]; rfl
  | made written created read =>
    rw [(Connection.ask_eq read).2, ← (created_live hp written created).2.2]; rfl

lemma makeRoot_live_of_ok (hp : Plain t.view.name) (h : (t.makeRoot c).result = .ok ()) :
    t.view.name ∉ (c.db.left [t.view.name]).map Prod.fst ∧
      ∃ sql, (t.makeRoot c).conn.db.live = c.db.left [t.view.name] ++ [(t.view.name, sql)] := by
  have ha := attempt_makeRoot t c
  generalize t.makeRoot c = m at ha h ⊢
  cases ha with
  | @made sql s c' c'' written created read =>
    obtain ⟨hnew, hlive, -⟩ := created_live hp written created
    refine ⟨hnew, sql, ?_⟩
    rw [← hlive, (Connection.ask_eq read).2]; rfl
  | _ => cases h

/-- The columns of the view, which was made, could not be read, and it cannot be dropped. -/
def Leaks (db : Scripted) (name : String) (e : Error) : Prop :=
  db.sticks name = true ∧ ∃ operator source,
    e = .validation name operator (unreadable source) (some source)

lemma unreadable_ne (e : DbError) : unreadable e ≠ e.message := by
  unfold unreadable
  intro h
  rw [String.append_eq_right_iff] at h
  exact absurd h (by decide)

lemma makeRoot_live_of_error {e : Error} (hp : Plain t.view.name) (ht : t.Ready)
    (h : (t.makeRoot c).result = .error e) :
    (¬ Leaks c.db t.view.name e ∧ (t.makeRoot c).conn.db.live = c.db.left [t.view.name]) ∨
      (Leaks c.db t.view.name e ∧ t.view.name ∉ (c.db.left [t.view.name]).map Prod.fst ∧
        ∃ sql, (t.makeRoot c).conn.db.live = c.db.left [t.view.name] ++ [(t.view.name, sql)]) := by
  have ha := attempt_makeRoot t c
  generalize t.makeRoot c = m at ha h ⊢
  cases ha with
  | unwritten written =>
    cases h
    refine .inl ⟨?_, (dropStale_live c _).1⟩
    rintro ⟨-, operator, source, he⟩
    obtain ⟨reason, rfl⟩ := createStatement_error ht written
    cases he
  | @refused sql e' c' written created =>
    cases h
    refine .inl ⟨?_, ?_⟩
    · rintro ⟨-, operator, source, he⟩
      -- a refusal is never told in the words for columns that cannot be read
      simp only [refuse, Error.validation.injEq, Option.some.injEq] at he
      obtain ⟨-, -, hr, rfl⟩ := he
      exact unreadable_ne _ hr.symm
    · obtain ⟨herr, hc'⟩ := Connection.ask_eq created
      rw [hc', ← (dropStale_live c t.view.name).1]
      exact createView_error herr
  | @unread sql e' c' c'' written created read =>
    cases h
    have hlive := dropBroken_live hp written created (Connection.ask_eq read).2
    cases hk : c.db.sticks t.view.name with
    | false =>
      refine .inl ⟨fun hl => ?_, ?_⟩
      · rw [hl.1] at hk; cases hk
      · simpa [hk] using hlive
    | true =>
      refine .inr ⟨⟨hk, _, _, rfl⟩, (created_live hp written created).1, sql, ?_⟩
      simpa [hk] using hlive
  | made => cases h

/-! ### A pass -/

lemma Pass.live {xs : List ViewTree} {vs : List View} (h : Pass xs c vs (.ok ()) c')
    (hp : ∀ x ∈ xs, Plain x.view.name) (hnd : (xs.map (·.view.name)).Nodup) :
    c'.db.script = c.db.script ∧
      (∀ name ∈ xs.map (·.view.name),
        name ∉ (c.db.left (xs.map (·.view.name))).map Prod.fst) ∧
      ∃ made, made.map Prod.fst = xs.map (·.view.name) ∧
        c'.db.live = c.db.left (xs.map (·.view.name)) ++ made := by
  generalize ho : (.ok () : Except Error Unit) = o at h
  induction h with
  | done c => exact ⟨rfl, by simp, [], rfl, by simp⟩
  | @made x xs c c' vs r hx _ ih =>
    rw [List.forall_mem_cons] at hp
    rw [List.map_cons, List.nodup_cons] at hnd
    obtain ⟨hscript, hnew, made, hmade, hlive⟩ := ih hp.2 hnd.2 ho
    obtain ⟨hxnew, sql, hxlive⟩ := makeRoot_live_of_ok hp.1 hx
    have hxscript := makeRoot_script (c := c) hp.1
    rw [left_left hxscript hxlive] at hnew hlive
    -- dropping the later names leaves the view just made, as names are not used twice
    have hkept : [(x.view.name, sql)].filter (fun v =>
        decide (v.1 ∉ xs.map (·.view.name)) || c.db.sticks v.1) = [(x.view.name, sql)] := by
      simpa using Or.inl (by simpa using hnd.1)
    rw [hkept] at hnew hlive
    refine ⟨hscript.trans hxscript, ?_, (x.view.name, sql) :: made, ?_, ?_⟩
    · rw [List.map_cons, List.forall_mem_cons]
      refine ⟨fun h => hxnew (name_mem_left_of_subset (by simp) h),
        fun name hn h => hnew name hn ?_⟩
      rw [List.map_append, List.mem_append]
      exact .inl h
    · rw [List.map_cons, List.map_cons, hmade]
    · rw [hlive, List.append_assoc]; rfl
  | stopped => cases ho

/-- After a pass that ends with a failed attempt, the view of that attempt stands at the end just
when it leaks. -/
lemma Pass.live_failed {ys : List ViewTree} {us : List View} {x : ViewTree} {e : Error}
    (h : Pass ys c us (.ok ()) c') (hx : (x.makeRoot c').result = .error e) (hr : x.Ready)
    (hp : ∀ y ∈ ys ++ [x], Plain y.view.name) (hnd : ((ys ++ [x]).map (·.view.name)).Nodup) :
    (x.makeRoot c').conn.db.script = c.db.script ∧
      ∃ standing, (x.makeRoot c').conn.db.live =
          c.db.left ((ys ++ [x]).map (·.view.name)) ++ standing ∧
        (∀ name ∈ standing.map Prod.fst,
          name ∉ (c.db.left ((ys ++ [x]).map (·.view.name))).map Prod.fst) ∧
        ((¬ Leaks c.db x.view.name e ∧ standing.map Prod.fst = ys.map (·.view.name)) ∨
          (Leaks c.db x.view.name e ∧
            standing.map Prod.fst = (ys ++ [x]).map (·.view.name))) := by
  rw [List.forall_mem_append, List.forall_mem_singleton] at hp
  rw [List.map_append, List.map_singleton] at hnd ⊢
  obtain ⟨hndys, -, hfresh⟩ := List.nodup_append.mp hnd
  obtain ⟨hscript, hnew, before, hst, hlive⟩ := h.live hp.1 hndys
  -- what the failed attempt drops was not made by the pass
  have hleft : c'.db.left [x.view.name] =
      c.db.left (ys.map (·.view.name) ++ [x.view.name]) ++ before := by
    rw [left_left hscript hlive]
    congr 1
    refine List.filter_eq_self.mpr fun v hv => ?_
    have hne : v.1 ≠ x.view.name :=
      hfresh v.1 (hst ▸ List.mem_map_of_mem hv) _ (List.mem_singleton_self _)
    simp [hne]
  have hsub {name : String} :
      name ∈ (c.db.left (ys.map (·.view.name) ++ [x.view.name])).map Prod.fst →
        name ∈ (c.db.left (ys.map (·.view.name))).map Prod.fst :=
    name_mem_left_of_subset (List.subset_append_left _ _)
  have hleaks : Leaks c'.db x.view.name e ↔ Leaks c.db x.view.name e := by
    unfold Leaks
    rw [sticks_congr hscript]
  refine ⟨(makeRoot_script hp.2).trans hscript, ?_⟩
  have hcases := makeRoot_live_of_error hp.2 hr hx
  rw [hleft, hleaks] at hcases
  rcases hcases with ⟨hno, hl⟩ | ⟨hyes, hout, sql, hl⟩
  · exact ⟨before, hl, fun name hn hm => hnew name (hst ▸ hn) (hsub hm), .inl ⟨hno, hst⟩⟩
  · have hst' : (before ++ [(x.view.name, sql)]).map Prod.fst =
        ys.map (·.view.name) ++ [x.view.name] := by
      rw [List.map_append, hst]; rfl
    refine ⟨before ++ [(x.view.name, sql)], by rw [hl, List.append_assoc], fun name hn hm => ?_,
      .inr ⟨hyes, hst'⟩⟩
    rw [hst', List.mem_append, List.mem_singleton] at hn
    rcases hn with hn | rfl
    · exact hnew name hn (hsub hm)
    · rw [List.map_append, List.mem_append] at hout
      exact hout (.inl hm)

end ViewTree

/-! ### Dropping the views of a tree -/

namespace Connection

variable (c : Connection Scripted)

def madeNames (vs : List View) : List String :=
  (vs.filter fun v => v.status = .correct).map View.name

lemma mem_madeNames {vs : List View} {name : String} :
    name ∈ madeNames vs ↔ ∃ v ∈ vs, v.status = .correct ∧ v.name = name := by
  simp [madeNames, and_assoc]

lemma release_live (v : View) :
    (c.release v).2.db.script = c.db.script ∧
      (c.release v).2.db.live = c.db.left (madeNames [v]) := by
  rw [release_db]
  by_cases hv : v.status = .correct
  · have hn : madeNames [v] = [v.name] := by simp [madeNames, hv]
    rw [if_pos hv, hn]
    exact ⟨dropView_script v.name c.db, dropView_live v.name c.db⟩
  · have hn : madeNames [v] = [] := by simp [madeNames, hv]
    rw [if_neg hv, hn, left_nil]
    exact ⟨rfl, rfl⟩

lemma releaseAll_live (vs : List View) :
    (c.releaseAll vs).2.db.script = c.db.script ∧
      (c.releaseAll vs).2.db.live = c.db.left (madeNames vs) := by
  induction vs generalizing c with
  | nil => exact ⟨rfl, by simp [releaseAll, madeNames]⟩
  | cons v vs ih =>
    obtain ⟨hs, hl⟩ := c.release_live v
    obtain ⟨ihs, ihl⟩ := ih (c.release v).2
    refine ⟨ihs.trans hs, ?_⟩
    have hn : madeNames (v :: vs) = madeNames [v] ++ madeNames vs := by
      unfold madeNames
      rw [← List.map_append, ← List.filter_append]; rfl
    rw [hn, releaseAll]
    refine ihl.trans ?_
    rw [left_left hs (hl.trans (List.append_nil _).symm)]
    simp

/-- What is told of a view that is dropped where a rule may forbid it. -/
def dropFailure (db : Scripted) (v : View) : Option Error :=
  if v.status = .correct then (db.script.failDrop.answer? (· == v.name)).map (.cleanup v.name)
  else none

lemma dropFailure_congr {db db' : Scripted} (h : db'.script = db.script) :
    dropFailure db' = dropFailure db := by
  funext v
  rw [dropFailure, dropFailure, h]

lemma release_failure_eq {v : View} (h : ∀ name ∈ madeNames [v], name ∈ c.db.names) :
    (c.release v).1 = dropFailure c.db v := by
  rw [release_failure, dropFailure]
  split
  · next hv =>
    have hn : v.name ∈ c.db.names := h _ (mem_madeNames.mpr ⟨v, by simp, hv, rfl⟩)
    rw [show Database.dropView v.name c.db = dropView v.name c.db from rfl, dropView_answer hn]
    cases c.db.script.failDrop.answer? (· == v.name) <;> rfl
  · rfl

lemma names_release {v : View} {name : String} (hn : name ∈ c.db.names) (hne : name ≠ v.name) :
    name ∈ (c.release v).2.db.names := by
  rw [names, (c.release_live v).2, name_mem_left]
  refine ⟨hn, .inl fun hm => hne ?_⟩
  obtain ⟨w, hw, -, rfl⟩ := mem_madeNames.mp hm
  rw [List.mem_singleton.mp hw]

lemma releaseAll_failures {vs : List View} (hnd : (vs.map View.name).Nodup)
    (hlive : ∀ name ∈ madeNames vs, name ∈ c.db.names) :
    (c.releaseAll vs).1 = vs.filterMap (dropFailure c.db) := by
  induction vs generalizing c with
  | nil => rfl
  | cons v vs ih =>
    rw [List.map_cons, List.nodup_cons] at hnd
    have hfail : (c.release v).1 = dropFailure c.db v := by
      refine c.release_failure_eq fun name hn => hlive name ?_
      obtain ⟨w, hw, hc, rfl⟩ := mem_madeNames.mp hn
      exact mem_madeNames.mpr ⟨w, by simp_all, hc, rfl⟩
    have hrest : ∀ name ∈ madeNames vs, name ∈ (c.release v).2.db.names := by
      intro name hn
      obtain ⟨w, hw, hc, rfl⟩ := mem_madeNames.mp hn
      refine c.names_release (hlive _ (mem_madeNames.mpr ⟨w, by simp [hw], hc, rfl⟩)) fun he => ?_
      exact hnd.1 (he ▸ List.mem_map_of_mem hw)
    have ih' := ih (c.release v).2 hnd.2 hrest
    rw [dropFailure_congr (c.release_live v).1] at ih'
    rw [releaseAll, List.filterMap_cons, ← hfail]
    simp only [ih']
    cases (c.release v).1 <;> rfl

end Connection

end RelAlgebra
