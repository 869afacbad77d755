import RelAlgebra.Proofs.View.Exchange
import RelAlgebra.Proofs.View.Order

/-!
A tree in use: its views are made, queried and dropped in any order and any number of times, while
the rules of the database change.

Whatever was done before, a correct node has its view and knows its columns. An attempt touches the
view of its own name only, so it is enough to follow one name at a time. Where every drop takes its
view away, the views that came into being and are still there are those of correct nodes.
-/

namespace RelAlgebra

open Scripted

/-- What may be done with a tree over a scripted database. -/
inductive Handling where
  | validate
  | execute
  | clean
  /-- The rules are replaced, and views are added that no statement created. -/
  | change (script : Script) (views : List String)

def Handling.added : Handling → List String
  | change _ views => views
  | _ => []

structure Workbench (σ : Type) where
  tree : ViewTree
  conn : Connection σ

namespace Workbench

variable {σ τ : Type} [Database σ] [Database τ]

/-- The workbench after one thing was done; `change` is what changing the rules and adding views
does to the database. -/
def handle (change : Script → List String → σ → σ) (b : Workbench σ) : Handling → Workbench σ
  | .validate => ⟨(b.tree.validate b.conn).tree, (b.tree.validate b.conn).conn⟩
  | .execute => ⟨b.tree, (b.tree.execute b.conn).2⟩
  | .clean => ⟨(b.tree.clean b.conn).tree, (b.tree.clean b.conn).conn⟩
  | .change script views => ⟨b.tree, { b.conn with db := change script views b.conn.db }⟩

def handleAll (change : Script → List String → σ → σ) (b : Workbench σ) (hs : List Handling) :
    Workbench σ :=
  hs.foldl (handle change) b

@[inherit_doc Connection.map]
def map (f : σ → τ) (b : Workbench σ) : Workbench τ := ⟨b.tree, b.conn.map f⟩

lemma handleAll_map {f : σ → τ} (hf : Database.Morphism f) {change : Script → List String → σ → σ}
    {change' : Script → List String → τ → τ}
    (hchange : ∀ script views s, change' script views (f s) = f (change script views s))
    (b : Workbench σ) (hs : List Handling) :
    (b.map f).handleAll change' hs = (b.handleAll change hs).map f := by
  have hstep (b : Workbench σ) (h : Handling) :
      (b.map f).handle change' h = (b.handle change h).map f := by
    cases h with
    | validate => simp only [handle, map, ViewTree.validate_map hf]; rfl
    | execute => simp only [handle, map, ViewTree.execute_map hf.toAnswers]; rfl
    | clean => simp only [handle, map, ViewTree.clean_map hf.toAnswers]; rfl
    | change script views => simp only [handle, map, Connection.map, hchange]
  induction hs generalizing b with
  | nil => rfl
  | cons h hs ih =>
    simp only [handleAll, List.foldl_cons, hstep] at ih ⊢
    exact ih _

end Workbench

/-- The database after its rules were replaced and views were added. -/
def Scripted.change (script : Script) (views : List String) (db : Scripted) : Scripted :=
  { db with script }.addViews views

@[inherit_doc Scripted.change]
def Watched.change (script : Script) (views : List String) (w : Watched Scripted) :
    Watched Scripted :=
  { w with db := w.db.change script views }

/-- If the request was to drop a view, there is none of its name afterwards. -/
def Event.Clears (ev : Event Scripted) : Prop :=
  match ev.request with
  | .dropView name => name ∉ ev.after.names
  | _ => True

instance (ev : Event Scripted) : Decidable ev.Clears := by
  unfold Event.Clears
  split <;> infer_instance

/-! ### Requests -/

lemma Watched.mem_events_next {σ : Type} [Database σ] (w : Watched σ) (r : Request) :
    ⟨r, (r.run w.db).1, (r.run w.db).2⟩ ∈ (w.next r).events :=
  List.mem_append_right _ (List.mem_singleton_self _)

namespace Scripted

variable {db db' : Scripted} {name other : String}

lemma mem_names_change {script : Script} {views : List String} :
    other ∈ (db.change script views).names ↔ other ∈ db.names ∨ other ∈ views := by
  have hinsert (db : Scripted) (name : String) :
      other ∈ (db.insert name "").names ↔ other ∈ db.names ∨ other = name := by
    by_cases h : other = name <;> simp [insert, remove, names, h]
  have hadd (db : Scripted) : other ∈ (db.addViews views).names ↔
      other ∈ db.names ∨ other ∈ views := by
    induction views generalizing db with
    | nil => simp [addViews]
    | cons name views ih =>
      have h := ih (db.insert name "")
      rw [hinsert] at h
      simpa [addViews, or_assoc] using h
  exact hadd { db with script }

lemma mem_names_dropView :
    other ∈ ((Request.dropView name).run db).2.names ↔
      other ∈ db.names ∧ (other ≠ name ∨ db.sticks other = true) := by
  have hlive : ((Request.dropView name).run db).2.live = db.left [name] := dropView_live name db
  rw [names, hlive, name_mem_left, List.mem_singleton]

lemma names_createView {sql : String} (h : (Request.createView sql).run db = (none, db')) :
    db'.names = db.names ++ [createdName sql] := by
  obtain ⟨hanswer, hdb'⟩ := Prod.mk.inj h
  obtain ⟨u, hok⟩ := failure?_eq_none_iff.mp hanswer
  have hlive : db'.live = db.live ++ [(createdName sql, sql)] := hdb' ▸ (createView_ok hok).2
  rw [names, hlive, List.map_append]
  rfl

lemma names_createView_refused {sql : String} {e : DbError}
    (h : (Request.createView sql).run db = (some e, db')) : db'.names = db.names := by
  obtain ⟨hanswer, hdb'⟩ := Prod.mk.inj h
  have hlive : db'.live = db.live := hdb' ▸ createView_error (failure?_eq_some_iff.mp hanswer)
  rw [names, names, hlive]

end Scripted

/-! ### One attempt -/

namespace ViewTree

section

variable {name : String} {statement : Dialect → Except Error String} {s s' : Scripted}
  {status : Status} {es : List (Event Scripted)}

lemma Exchange.mem_names_of_ne (h : Exchange name statement s status es s')
    (hcreates : ∀ d sql, statement d = .ok sql → createdName sql = name) {other : String}
    (hne : other ≠ name) : other ∈ s'.names ↔ other ∈ s.names := by
  have hdrop {f : Option DbError} {db db' : Scripted}
      (h : (Request.dropView name).run db = (f, db')) : other ∈ db'.names ↔ other ∈ db.names := by
    have hmem : other ∈ ((Request.dropView name).run db).2.names ↔ other ∈ db.names := by
      rw [mem_names_dropView]
      simp [hne]
    rwa [h] at hmem
  cases h with
  | unwritten dropped written => exact hdrop dropped
  | refused dropped written created => rw [names_createView_refused created, hdrop dropped]
  | unread dropped written created read broken =>
    obtain rfl := eq_of_tableSchema read
    rw [hdrop broken, names_createView created, hcreates _ _ written, ← hdrop dropped]
    simp [hne]
  | made dropped written created read =>
    obtain rfl := eq_of_tableSchema read
    rw [names_createView created, hcreates _ _ written, ← hdrop dropped]
    simp [hne]

lemma Exchange.mem_names_of_correct (h : Exchange name statement s .correct es s')
    (hcreates : ∀ d sql, statement d = .ok sql → createdName sql = name) : name ∈ s'.names := by
  cases h with
  | made dropped written created read =>
    obtain rfl := eq_of_tableSchema read
    rw [names_createView created, hcreates _ _ written]
    simp

lemma Exchange.not_mem_names_of_error (h : Exchange name statement s .error es s')
    (hclears : ∀ ev ∈ es, ev.Clears) : name ∉ s'.names := by
  cases h with
  | unwritten dropped written => exact hclears _ (List.mem_singleton_self _)
  | refused dropped written created =>
    rw [names_createView_refused created]
    exact hclears _ List.mem_cons_self
  | @unread f f' s₁ s₂ s₃ s₄ sql e dropped written created read broken =>
    exact hclears ⟨.dropView name, f', s'⟩ (by simp)

end

section

variable {x : ViewTree} {w : Connection (Watched Scripted)}

lemma makeRoot_schema (h : (x.makeRoot w).tree.view.status = .correct) :
    ∃ schema, (x.makeRoot w).tree.view.schema = some schema ∧ schema.name = x.view.name := by
  have ha := attempt_makeRoot x w
  generalize x.makeRoot w = m at ha h ⊢
  cases ha with
  | @made sql schema c' c'' written created read =>
    refine ⟨schema, by rw [view_withView], ?_⟩
    have hread : (c'.db.db.columns x.view.name).map (Schema.mk x.view.name) = .ok schema :=
      (Connection.ask_eq read).1
    cases hcolumns : c'.db.db.columns x.view.name with
    | error e => rw [hcolumns] at hread; cases hread
    | ok columns => rw [hcolumns] at hread; cases hread; rfl
  | _ => simp [withStatus] at h

lemma makeRoot_names (hx : Plain x.view.name) :
    (∀ other, other ≠ x.view.name →
        (other ∈ (x.makeRoot w).conn.db.db.names ↔ other ∈ w.db.db.names)) ∧
      ((x.makeRoot w).tree.view.status = .correct →
        x.view.name ∈ (x.makeRoot w).conn.db.db.names) ∧
      ((x.makeRoot w).tree.view.status = .error →
        (∀ ev ∈ (x.makeRoot w).conn.db.events, ev.Clears) →
          x.view.name ∉ (x.makeRoot w).conn.db.db.names) := by
  obtain ⟨es, hes, hex⟩ := exchange_makeRoot x w
  have hname := (makeRoot_tree x w).2
  have hcreates (d : Dialect) (sql : String)
      (h : (x.makeRoot w).tree.createStatement d = .ok sql) :
      createdName sql = (x.makeRoot w).tree.view.name :=
    createdName_createStatement (hname ▸ hx) h
  refine ⟨fun other hne => ?_, fun hcorrect => ?_, fun herror hclears => ?_⟩
  · exact hex.mem_names_of_ne hcreates (hname ▸ hne)
  · rw [hcorrect] at hex
    rw [← hname]
    exact hex.mem_names_of_correct hcreates
  · rw [herror] at hex
    rw [← hname]
    exact hex.not_mem_names_of_error fun ev hev =>
      hclears ev (hes ▸ List.mem_append_right _ hev)

end

end ViewTree

/-- The view is in the database and its columns are known under its name. -/
def View.Kept (v : View) (db : Scripted) : Prop :=
  v.name ∈ db.names ∧ ∃ schema, v.schema = some schema ∧ schema.name = v.name

/-! ### A pass -/

namespace ViewTree

variable {xs : List ViewTree} {w w' : Connection (Watched Scripted)} {vs : List View}
  {r : Except Error Unit}

lemma Pass.mem_names_of_not_mem (h : Pass xs w vs r w') (hxs : ∀ x ∈ xs, Plain x.view.name)
    {other : String} (hother : other ∉ xs.map (·.view.name)) :
    other ∈ w'.db.db.names ↔ other ∈ w.db.db.names := by
  induction h with
  | done => rfl
  | made _ _ ih =>
    rw [List.forall_mem_cons] at hxs
    rw [List.map_cons, List.mem_cons, not_or] at hother
    rw [ih hxs.2 hother.2, (makeRoot_names hxs.1).1 other hother.1]
  | stopped =>
    rw [List.forall_mem_singleton] at hxs
    rw [List.map_singleton, List.mem_singleton] at hother
    exact (makeRoot_names hxs).1 other hother

/-- The views that a pass made are there at its end: what is attempted later has other names. -/
lemma Pass.kept (h : Pass xs w vs r w') (hxs : ∀ x ∈ xs, Plain x.view.name)
    (hnd : (xs.map (·.view.name)).Nodup) :
    ∀ v ∈ vs, v.status = .correct → v.Kept w'.db.db := by
  induction h with
  | done => simp
  | @made x xs w w' vs r hx hrest ih =>
    rw [List.forall_mem_cons] at hxs
    rw [List.map_cons, List.nodup_cons] at hnd
    rw [List.forall_mem_cons]
    refine ⟨fun hcorrect => ?_, ih hxs.2 hnd.2⟩
    have hname := (makeRoot_tree x w).2
    refine ⟨?_, hname ▸ makeRoot_schema hcorrect⟩
    rw [hname, hrest.mem_names_of_not_mem hxs.2 hnd.1]
    exact (makeRoot_names hxs.1).2.1 hcorrect
  | @stopped x w e hx =>
    intro v hv hcorrect
    obtain rfl := List.mem_singleton.mp hv
    rw [makeRoot_failed hx] at hcorrect
    cases hcorrect

lemma Pass.correct_of_mem_names (h : Pass xs w vs r w') (hxs : ∀ x ∈ xs, Plain x.view.name)
    (hclears : ∀ ev ∈ w'.db.events, ev.Clears) :
    ∀ v ∈ vs, v.name ∈ w'.db.db.names → v.status = .correct := by
  induction h with
  | done => simp
  | made hx _ ih =>
    rw [List.forall_mem_cons] at hxs
    rw [List.forall_mem_cons]
    exact ⟨fun _ => (makeRoot_known hx).1, ih hxs.2 hclears⟩
  | @stopped x w e hx =>
    intro v hv hlive
    obtain rfl := List.mem_singleton.mp hv
    rw [List.forall_mem_singleton] at hxs
    rw [(makeRoot_tree x w).2] at hlive
    exact absurd hlive ((makeRoot_names hxs).2.2 (makeRoot_failed hx) hclears)

end ViewTree

/-! ### Dropping views -/

namespace Connection

variable {c : Connection (Watched Scripted)}

lemma release_watched (c : Connection (Watched Scripted)) (v : View) :
    (c.release v).2.db =
      if v.status = .correct then c.db.next (.dropView v.name) else c.db := by
  rw [release_db]
  rfl

lemma names_release_subset (v : View) : (c.release v).2.db.db.names ⊆ c.db.db.names := by
  intro name hn
  rw [release_watched] at hn
  split at hn
  · exact (mem_names_dropView.mp hn).1
  · exact hn

lemma events_release_subset (v : View) : c.db.events ⊆ (c.release v).2.db.events := by
  intro ev hev
  rw [release_watched]
  split
  · exact List.mem_append_left _ hev
  · exact hev

lemma names_releaseAll_subset (vs : List View) :
    (c.releaseAll vs).2.db.db.names ⊆ c.db.db.names := by
  induction vs generalizing c with
  | nil => exact fun _ hn => hn
  | cons v vs ih => exact fun name hn => names_release_subset v (ih hn)

lemma events_releaseAll_subset (vs : List View) :
    c.db.events ⊆ (c.releaseAll vs).2.db.events := by
  induction vs generalizing c with
  | nil => exact fun _ hev => hev
  | cons v vs ih => exact fun ev hev => ih (events_release_subset v hev)

lemma not_mem_names_releaseAll {vs : List View}
    (hclears : ∀ ev ∈ (c.releaseAll vs).2.db.events, ev.Clears) :
    ∀ v ∈ vs, v.status = .correct → v.name ∉ (c.releaseAll vs).2.db.db.names := by
  induction vs generalizing c with
  | nil => simp
  | cons v vs ih =>
    rw [List.forall_mem_cons]
    refine ⟨fun hcorrect hn => ?_, ih hclears⟩
    have hdb : (c.release v).2.db = c.db.next (.dropView v.name) := by
      rw [release_watched, if_pos hcorrect]
    have hdrop := c.db.mem_events_next (.dropView v.name)
    rw [← hdb] at hdrop
    have hcleared := hclears _ (events_releaseAll_subset vs hdrop)
    have hleft : v.name ∈ (c.release v).2.db.db.names := names_releaseAll_subset vs hn
    rw [hdb] at hleft
    exact hcleared hleft

end Connection

/-! ### The invariant -/

/-- What holds of a tree in use, where the views of the names `outside` are not its own. -/
structure Tended (outside : List String) (b : Workbench (Watched Scripted)) : Prop where
  plain : ∀ name ∈ b.tree.viewNames, Plain name
  nodup : b.tree.viewNames.Nodup
  kept : ∀ v ∈ b.tree.postorder, v.status = .correct → v.Kept b.conn.db.db
  owned : (∀ ev ∈ b.conn.db.events, ev.Clears) → ∀ name ∈ b.conn.db.db.names, name ∉ outside →
    ∃ v ∈ b.tree.postorder, v.name = name ∧ v.status = .correct

namespace Tended

variable {outside : List String} {b : Workbench (Watched Scripted)}

lemma validate (h : Tended outside b) : Tended outside (b.handle Watched.change .validate) := by
  obtain ⟨xs, vs, later, hp⟩ := ViewTree.validate_passes b.tree b.conn
  have hsplit := hp.viewNames_eq
  have hplain (x : ViewTree) (hx : x ∈ xs) : Plain x.view.name := by
    refine h.plain _ ?_
    rw [hsplit]
    exact List.mem_append_left _ (List.mem_map_of_mem (f := fun x : ViewTree => x.view.name) hx)
  have hnd := h.nodup
  rw [hsplit] at hnd
  obtain ⟨hndxs, -, hdisjoint⟩ := List.nodup_append.mp hnd
  -- a view that was not attempted has none of the attempted names
  have hlater (v : View) (hv : v ∈ later) : v.name ∉ xs.map (·.view.name) := fun hm =>
    hdisjoint _ hm _ (List.mem_map_of_mem hv) rfl
  have hbefore (v : View) (hv : v ∈ later) : v ∈ b.tree.postorder := by
    rw [hp.before]
    exact List.mem_append_right _ hv
  have hnames : (b.tree.validate b.conn).tree.viewNames = b.tree.viewNames := hp.viewNames_made
  refine ⟨fun name hn => h.plain name (hnames ▸ hn), hnames.symm ▸ h.nodup, ?_, ?_⟩
  · intro v hv hcorrect
    change v ∈ (b.tree.validate b.conn).tree.postorder at hv
    rw [hp.after, List.mem_append] at hv
    rcases hv with hv | hv
    · exact hp.pass.kept hplain hndxs v hv hcorrect
    · obtain ⟨hlive, hschema⟩ := h.kept v (hbefore v hv) hcorrect
      exact ⟨(hp.pass.mem_names_of_not_mem hplain (hlater v hv)).mpr hlive, hschema⟩
  · intro hclears name hlive hout
    change ∃ v ∈ (b.tree.validate b.conn).tree.postorder, v.name = name ∧ v.status = .correct
    rw [hp.after]
    by_cases hn : name ∈ xs.map (·.view.name)
    · rw [← hp.pass.names] at hn
      obtain ⟨v, hv, rfl⟩ := List.mem_map.mp hn
      exact ⟨v, List.mem_append_left _ hv, rfl,
        hp.pass.correct_of_mem_names hplain hclears v hv hlive⟩
    · obtain ⟨es, hes, -⟩ := hp.pass.exchanges
      have hearlier : ∀ ev ∈ b.conn.db.events, ev.Clears := fun ev hev =>
        hclears ev (hes ▸ List.mem_append_left _ hev)
      have hwas := (hp.pass.mem_names_of_not_mem hplain hn).mp hlive
      obtain ⟨v, hv, rfl, hcorrect⟩ := h.owned hearlier name hwas hout
      rw [hp.before, List.mem_append] at hv
      rcases hv with hv | hv
      · obtain ⟨x, hx, rfl⟩ := List.mem_map.mp hv
        exact absurd (List.mem_map_of_mem (f := fun x : ViewTree => x.view.name) hx) hn
      · exact ⟨v, List.mem_append_right _ hv, rfl, hcorrect⟩

lemma execute (h : Tended outside b) : Tended outside (b.handle Watched.change .execute) := by
  have hdb : (b.tree.execute b.conn).2.db = b.conn.db ∨
      ∃ sql, (b.tree.execute b.conn).2.db = b.conn.db.next (.query sql) := by
    simp only [ViewTree.execute]
    split
    · right
      split
      · next hask => exact ⟨_, (Connection.ask_eq hask).2⟩
      · next hask => exact ⟨_, (Connection.ask_eq hask).2⟩
    · exact .inl rfl
  have hnames : (b.tree.execute b.conn).2.db.db.names = b.conn.db.db.names := by
    rcases hdb with hdb | ⟨sql, hdb⟩
    · rw [hdb]
    · rw [hdb, Watched.next_db, names, names]
      exact congrArg (List.map Prod.fst) (query_live sql _)
  have hevents : b.conn.db.events ⊆ (b.tree.execute b.conn).2.db.events := by
    rcases hdb with hdb | ⟨sql, hdb⟩
    · rw [hdb]
      exact fun _ hev => hev
    · rw [hdb, Watched.next_events]
      exact List.subset_append_left _ _
  refine ⟨h.plain, h.nodup, fun v hv hcorrect => ?_, fun hclears name hlive hout => ?_⟩
  · obtain ⟨hlive, hschema⟩ := h.kept v hv hcorrect
    exact ⟨hnames.symm ▸ hlive, hschema⟩
  · exact h.owned (fun ev hev => hclears ev (hevents hev)) name (hnames ▸ hlive) hout

lemma clean (h : Tended outside b) : Tended outside (b.handle Watched.change .clean) := by
  have hnames := ViewTree.viewNames_reset b.tree
  refine ⟨fun name hn => h.plain name (hnames ▸ hn), hnames.symm ▸ h.nodup, ?_, ?_⟩
  · intro v hv hcorrect
    change v ∈ b.tree.reset.postorder at hv
    rw [ViewTree.postorder_reset] at hv
    obtain ⟨u, -, rfl⟩ := List.mem_map.mp hv
    cases hcorrect
  · intro hclears name hlive hout
    have hearlier : ∀ ev ∈ b.conn.db.events, ev.Clears := fun ev hev =>
      hclears ev (Connection.events_releaseAll_subset b.tree.views hev)
    have hwas : name ∈ b.conn.db.db.names := Connection.names_releaseAll_subset b.tree.views hlive
    obtain ⟨v, hv, rfl, hcorrect⟩ := h.owned hearlier name hwas hout
    have hv' := (ViewTree.views_perm_postorder b.tree).mem_iff.mpr hv
    exact absurd hlive (Connection.not_mem_names_releaseAll hclears v hv' hcorrect)

lemma change (h : Tended outside b) (script : Script) (views : List String) :
    Tended (outside ++ views) (b.handle Watched.change (.change script views)) := by
  refine ⟨h.plain, h.nodup, fun v hv hcorrect => ?_, fun hclears name hlive hout => ?_⟩
  · obtain ⟨hlive, hschema⟩ := h.kept v hv hcorrect
    exact ⟨mem_names_change.mpr (.inl hlive), hschema⟩
  · rw [List.mem_append, not_or] at hout
    exact h.owned hclears name ((mem_names_change.mp hlive).resolve_right hout.2) hout.1

/-- Whatever is done keeps the invariant; views that a change adds count as not its own. -/
lemma handle (h : Tended outside b) (step : Handling) :
    Tended (outside ++ step.added) (b.handle Watched.change step) := by
  cases step with
  | validate => simpa [Handling.added] using h.validate
  | execute => simpa [Handling.added] using h.execute
  | clean => simpa [Handling.added] using h.clean
  | change script views => exact h.change script views

lemma handleAll (h : Tended outside b) (steps : List Handling) :
    Tended (outside ++ steps.flatMap Handling.added) (b.handleAll Watched.change steps) := by
  induction steps generalizing outside b with
  | nil => rwa [List.flatMap_nil, List.append_nil]
  | cons step steps ih =>
    have hrest := ih (h.handle step)
    rw [List.append_assoc] at hrest
    exact hrest

lemma ofExpr (e : Expr) (supply : View.NameSupply) (c : Connection Scripted) :
    Tended c.db.names ⟨(ViewTree.ofExpr e supply).1, c.map Watched.start⟩ := by
  have hnames := ViewTree.viewNames_ofExpr e supply
  refine ⟨fun name hn => ?_, hnames ▸ View.nodup_namesAfter _ _, fun v hv hcorrect => ?_,
    fun _ name hlive hout => absurd hlive hout⟩
  · rw [hnames] at hn
    obtain ⟨k, -, -, rfl⟩ := View.mem_namesAfter.mp hn
    exact plain_nameOf k
  · rw [(ViewTree.unchecked_ofExpr e supply v hv).1] at hcorrect
    cases hcorrect

end Tended

namespace Workbench

variable (e : Expr) (supply : View.NameSupply) (c : Connection Scripted) (steps : List Handling)

/-- The tree of an expression and its database, after some things were done with it. -/
def used : Workbench Scripted := handleAll Scripted.change ⟨(ViewTree.ofExpr e supply).1, c⟩ steps

def usedWatched : Workbench (Watched Scripted) :=
  handleAll Watched.change ⟨(ViewTree.ofExpr e supply).1, c.map Watched.start⟩ steps

lemma used_eq_map : used e supply c steps = (usedWatched e supply c steps).map Watched.db := by
  have hchange (script : Script) (views : List String) (w : Watched Scripted) :
      Scripted.change script views w.db = (w.change script views).db := rfl
  exact handleAll_map Watched.morphism hchange
    ⟨(ViewTree.ofExpr e supply).1, c.map Watched.start⟩ steps

lemma tended_usedWatched :
    Tended (c.db.names ++ steps.flatMap Handling.added) (usedWatched e supply c steps) :=
  (Tended.ofExpr e supply c).handleAll steps

/-- **In every state of a tree in use, a correct node has its view in the database and knows its
columns**, whatever was done, in whatever order, and whatever rules were in force. If every drop
took its view away, the views that came into being and are still there are those of correct
nodes. -/
theorem used_tended :
    (usedWatched e supply c steps).map Watched.db = used e supply c steps ∧
      (∀ n ∈ (used e supply c steps).tree.nodes, n.view.status = .correct →
        n.view.name ∈ (used e supply c steps).conn.db.liveNames ∧
          ∃ schema, n.view.schema = some schema ∧ schema.name = n.view.name) ∧
      ((∀ ev ∈ (usedWatched e supply c steps).conn.db.events, ev.Clears) →
        ∀ name ∈ (used e supply c steps).conn.db.liveNames, name ∉ c.db.liveNames →
          name ∉ steps.flatMap Handling.added →
            ∃ n ∈ (used e supply c steps).tree.nodes,
              n.view.name = name ∧ n.view.status = .correct) := by
  have htended := tended_usedWatched e supply c steps
  rw [used_eq_map]
  refine ⟨rfl, fun n hn hcorrect => ?_, fun hclears name hlive hstart hadded => ?_⟩
  · have hv : n.view ∈ (usedWatched e supply c steps).tree.postorder := by
      rw [← (ViewTree.views_perm_postorder _).mem_iff, ← ViewTree.map_view_nodes]
      exact List.mem_map_of_mem hn
    obtain ⟨hlive, hschema⟩ := htended.kept _ hv hcorrect
    exact ⟨mem_liveNames.mpr hlive, hschema⟩
  · rw [mem_liveNames] at hlive hstart
    have hout : name ∉ c.db.names ++ steps.flatMap Handling.added := by
      rw [List.mem_append, not_or]
      exact ⟨hstart, hadded⟩
    obtain ⟨v, hv, hname, hcorrect⟩ := htended.owned hclears name hlive hout
    rw [← (ViewTree.views_perm_postorder _).mem_iff, ← ViewTree.map_view_nodes] at hv
    obtain ⟨n, hn, rfl⟩ := List.mem_map.mp hv
    exact ⟨n, hn, hname, hcorrect⟩

/-- A selection whose views are made twice. The second time, the columns of its own view cannot be
read. -/
def remade : List Handling :=
  [.validate, .change { failSchema := [("RA_TMP_VIEW_2", { message := "gone" })] } ["Kept"],
    .validate, .execute]

/-- The view of the relation is left, and the one that was added. -/
theorem remade_tended :
    (used (.unary (.select "a > 1") (.relation "R")) {} { db := {} } remade).conn.db.names =
        ["Kept", "RA_TMP_VIEW_1"] ∧
      ∀ name ∈ (used (.unary (.select "a > 1") (.relation "R")) {} { db := {} }
          remade).conn.db.liveNames,
        name ∉ ({} : Scripted).liveNames → name ∉ remade.flatMap Handling.added →
          ∃ n ∈ (used (.unary (.select "a > 1") (.relation "R")) {} { db := {} } remade).tree.nodes,
            n.view.name = name ∧ n.view.status = .correct := by
  refine ⟨by decide +kernel, (used_tended _ _ _ remade).2.2 ?_⟩
  decide +kernel

end Workbench

end RelAlgebra
