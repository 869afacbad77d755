import RelAlgebra.Proofs.Session.History
import RelAlgebra.Proofs.View.Handling

/-!
Statements are written from the columns that the database reports.

The columns of an operand are read when its view is made and kept in the tree, and the statement of
its operator is written from what was kept. In between only views of other names are made and
dropped, so the database still reports the same columns. What was kept from an earlier time is not
used, as an operator is attempted only after its operands were made again.
-/

namespace RelAlgebra

open Scripted

/-! ### Moments -/

namespace Watched

variable {σ : Type}

/-- The state after some requests that were made in `s`, one after the other. -/
def stateAfter (s : σ) (es : List (Event σ)) : σ := es.foldl (fun _ ev => ev.after) s

/-- The statements that were sent to create a view, each with the state in which it was sent. The
first request was made in `s`. -/
def creations (s : σ) : List (Event σ) → List (σ × String)
  | [] => []
  | ev :: es =>
    match ev.request with
    | .createView sql => (s, sql) :: creations ev.after es
    | _ => creations ev.after es

lemma stateAfter_append (s : σ) (es es' : List (Event σ)) :
    stateAfter s (es ++ es') = stateAfter (stateAfter s es) es' :=
  List.foldl_append

lemma creations_append (s : σ) (es es' : List (Event σ)) :
    creations s (es ++ es') = creations s es ++ creations (stateAfter s es) es' := by
  induction es generalizing s with
  | nil => rfl
  | cons ev es ih =>
    simp only [List.cons_append, creations, ih]
    split <;> rfl

end Watched

open Watched

/-! ### Views of other names -/

namespace Scripted

/-- The rules are the same, and so are the views but for those of some names. -/
structure Beyond (names : List String) (db db' : Scripted) : Prop where
  script : db'.script = db.script
  statement? : ∀ name ∉ names, db'.statement? name = db.statement? name

variable {names names' : List String} {name : String} {db db' db'' : Scripted}

lemma Beyond.mono (h : Beyond names db db') (hn : names ⊆ names') : Beyond names' db db' :=
  ⟨h.script, fun name hname => h.statement? name fun hm => hname (hn hm)⟩

lemma Beyond.trans (h : Beyond names db db') (h' : Beyond names db' db'') :
    Beyond names db db'' :=
  ⟨h'.script.trans h.script,
    fun name hname => (h'.statement? name hname).trans (h.statement? name hname)⟩

lemma beyond_dropView {f : Option DbError} (h : (Request.dropView name).run db = (f, db')) :
    Beyond [name] db db' := by
  obtain rfl : ((Request.dropView name).run db).2 = db' := congrArg Prod.snd h
  refine ⟨run_script _ db, fun other hother => ?_⟩
  have hlive : ((Request.dropView name).run db).2.live = db.left [name] := dropView_live name db
  rw [Scripted.statement?, Scripted.statement?, hlive, left, List.find?_filter]
  congr 2
  funext v
  by_cases hv : v.1 = other
  · simp [hv, hother]
  · simp [hv]

lemma beyond_createView {sql : String} {f : Option DbError}
    (h : (Request.createView sql).run db = (f, db')) : Beyond [createdName sql] db db' := by
  have hscript : db'.script = db.script := by
    obtain rfl : ((Request.createView sql).run db).2 = db' := congrArg Prod.snd h
    exact run_script _ db
  refine ⟨hscript, fun other hother => ?_⟩
  obtain ⟨hanswer, hdb'⟩ := Prod.mk.inj h
  cases f with
  | none =>
    obtain ⟨u, hok⟩ := failure?_eq_none_iff.mp hanswer
    have hlive : db'.live = db.live ++ [(createdName sql, sql)] := hdb' ▸ (createView_ok hok).2
    have hne : createdName sql ≠ other := by simpa [eq_comm] using hother
    simp [Scripted.statement?, hlive, List.find?_append, hne]
  | some e =>
    have hlive : db'.live = db.live := hdb' ▸ createView_error (failure?_eq_some_iff.mp hanswer)
    rw [Scripted.statement?, Scripted.statement?, hlive]

end Scripted

/-- The view is there, and the database reports the columns that are kept. -/
def View.Current (v : View) (db : Scripted) : Prop :=
  v.status = .correct ∧
    ∃ schema, v.schema = some schema ∧ (Database.tableSchema v.name db).1 = .ok schema

lemma View.Current.beyond {v : View} {names : List String} {db db' : Scripted}
    (h : v.Current db) (hb : Beyond names db db') (hv : v.name ∉ names) : v.Current db' := by
  obtain ⟨hstatus, schema, hschema, hreport⟩ := h
  have hcolumns : db'.columns v.name = db.columns v.name :=
    columns_congr hb.script (hb.statement? v.name hv)
  have hsame : (Database.tableSchema v.name db').1 = (Database.tableSchema v.name db).1 := by
    change (db'.columns v.name).map (Schema.mk v.name) = _
    rw [hcolumns]
    rfl
  exact ⟨hstatus, schema, hschema, hsame.trans hreport⟩

/-! ### What a statement is written from -/

namespace ViewTree

/-- The node as the database tells of it: its view is there, with the columns that are
reported. -/
def reported (db : Scripted) (t : ViewTree) : ViewTree :=
  t.withView ⟨t.view.name, .correct, (Database.tableSchema t.view.name db).1.toOption⟩

/-- The node over its operands as the database tells of them. -/
def informed (db : Scripted) : ViewTree → ViewTree
  | relation name v => relation name v
  | unary op t v => unary op (t.reported db) v
  | binary op l r v => binary op (l.reported db) (r.reported db) v

/-- The statement is the one for the node over the columns that the database reports, in the state
in which it is sent, for the views of the operands. -/
def WrittenIn (n : ViewTree) (sent : Scripted × String) : Prop :=
  (∀ o ∈ n.operands, ∃ schema, (Database.tableSchema o.view.name sent.1).1 = .ok schema) ∧
    (n.informed sent.1).createStatement (Database.dialect sent.1) = .ok sent.2

lemma createStatement_unary {op : UnaryOp} {o o' : ViewTree} {v : View} (h : o.view = o'.view)
    (d : Dialect) : (unary op o v).createStatement d = (unary op o' v).createStatement d := by
  have hroot : (unary op o v).view = (unary op o' v).view := rfl
  cases op <;>
    simp only [createStatement, createView_eq, query_eq, renamed, knownSchema, refuse, hroot,
      label, declaredColumns, h]

lemma createStatement_binary {op : BinaryOp} {l l' r r' : ViewTree} {v : View}
    (hl : l.view = l'.view) (hr : r.view = r'.view) (d : Dialect) :
    (binary op l r v).createStatement d = (binary op l' r' v).createStatement d := by
  have hroot : (binary op l r v).view = (binary op l' r' v).view := rfl
  rcases op with (_ | _) | _ | _ | _ | _ <;>
    simp only [createStatement, createView_eq, query_eq, setOperation, knownSchema, refuse, hroot,
      label, declaredColumns, hl, hr]

lemma view_reported {t o : ViewTree} {db : Scripted} (h : o.view.Current db)
    (hname : t.view.name = o.view.name) : (t.reported db).view = o.view := by
  obtain ⟨hstatus, schema, hschema, hreport⟩ := h
  rw [reported, view_withView, hname, hreport, ← hstatus, Except.toOption, ← hschema]

lemma writtenIn_reset {x : ViewTree} {db : Scripted} {sql : String}
    (hx : ∀ o ∈ x.operands, o.view.Current db)
    (h : x.createStatement (Database.dialect db) = .ok sql) : x.reset.WrittenIn (db, sql) := by
  have hreport {o : ViewTree} (ho : o.view.Current db) :
      ∃ schema, (Database.tableSchema o.reset.view.name db).1 = .ok schema := by
    obtain ⟨-, schema, -, hreport⟩ := ho
    rw [view_reset]
    exact ⟨schema, hreport⟩
  have hview {o : ViewTree} (ho : o.view.Current db) : (o.reset.reported db).view = o.view :=
    view_reported ho (by rw [view_reset]; rfl)
  have hroot (t : ViewTree) (d : Dialect) :
      (t.withView t.view.reset).createStatement d = t.createStatement d :=
    createStatement_withView (v := t.view.reset) rfl d
  cases x with
  | relation name v => exact ⟨by simp [reset, operands], (hroot _ _).trans h⟩
  | unary op o v =>
    have ho := hx o (by simp [operands])
    refine ⟨by simpa [reset, operands] using hreport ho, ?_⟩
    calc (unary op (o.reset.reported db) v.reset).createStatement _
        = (unary op o v.reset).createStatement _ := createStatement_unary (hview ho) _
      _ = (unary op o v).createStatement _ := hroot (unary op o v) _
      _ = .ok sql := h
  | binary op l r v =>
    have hl := hx l (by simp [operands])
    have hr := hx r (by simp [operands])
    refine ⟨by simpa [reset, operands] using ⟨hreport hl, hreport hr⟩, ?_⟩
    calc (binary op (l.reset.reported db) (r.reset.reported db) v.reset).createStatement _
        = (binary op l r v.reset).createStatement _ :=
          createStatement_binary (hview hl) (hview hr) _
      _ = (binary op l r v).createStatement _ := hroot (binary op l r v) _
      _ = .ok sql := h

/-! ### One attempt -/

section

variable {name : String} {statement : Dialect → Except Error String} {s s' : Scripted}
  {status : Status} {es : List (Event Scripted)}

lemma Exchange.stateAfter_eq (h : Exchange name statement s status es s') :
    stateAfter s es = s' := by
  cases h <;> rfl

lemma Exchange.beyond (h : Exchange name statement s status es s')
    (hcreates : ∀ d sql, statement d = .ok sql → createdName sql = name) : Beyond [name] s s' := by
  cases h with
  | unwritten dropped written => exact beyond_dropView dropped
  | refused dropped written created =>
    exact (beyond_dropView dropped).trans (hcreates _ _ written ▸ beyond_createView created)
  | unread dropped written created read broken =>
    obtain rfl := eq_of_tableSchema read
    exact ((beyond_dropView dropped).trans
      (hcreates _ _ written ▸ beyond_createView created)).trans (beyond_dropView broken)
  | made dropped written created read =>
    obtain rfl := eq_of_tableSchema read
    exact (beyond_dropView dropped).trans (hcreates _ _ written ▸ beyond_createView created)

lemma Exchange.creations_eq (h : Exchange name statement s status es s') :
    (status = .error ∧ creations s es = []) ∨
      ∃ s₁ sql, creations s es = [(s₁, sql)] ∧ Beyond [name] s s₁ ∧
        statement (Database.dialect s₁) = .ok sql := by
  cases h with
  | unwritten dropped written => exact .inl ⟨rfl, rfl⟩
  | refused dropped written created => exact .inr ⟨_, _, rfl, beyond_dropView dropped, written⟩
  | unread dropped written created read broken =>
    exact .inr ⟨_, _, rfl, beyond_dropView dropped, written⟩
  | made dropped written created read => exact .inr ⟨_, _, rfl, beyond_dropView dropped, written⟩

end

/-- From one state to the other, the statements that create views are those of some nodes, each
written from what the database reports when it is sent. -/
structure Writes (ns : List ViewTree) (s : Scripted) (es : List (Event Scripted))
    (s' : Scripted) : Prop where
  after : stateAfter s es = s'
  written : List.Forall₂ WrittenIn ns (creations s es)

lemma Writes.append {ns ns' : List ViewTree} {s s' s'' : Scripted}
    {es es' : List (Event Scripted)} (h : Writes ns s es s') (h' : Writes ns' s' es' s'') :
    Writes (ns ++ ns') s (es ++ es') s'' := by
  refine ⟨by rw [stateAfter_append, h.after, h'.after], ?_⟩
  rw [creations_append, h.after]
  exact List.rel_append h.written h'.written

/-- What making views over `w` did: the views of other names are as they were, the view of the root
is current if all were made, and the statements are those of the first of the nodes `ns`. -/
structure Anew (names : List String) (ns : List ViewTree) (w : Connection (Watched Scripted))
    (m : Made (Watched Scripted)) : Prop where
  beyond : Beyond names w.db.db m.conn.db.db
  current : m.result = .ok () → m.tree.view.Current m.conn.db.db
  written : ∃ es first, m.conn.db.events = w.db.events ++ es ∧
    Writes first w.db.db es m.conn.db.db ∧ first <+: ns ∧ (m.result = .ok () → first = ns)

section

variable {names names' : List String} {ns ns' : List ViewTree} {w : Connection (Watched Scripted)}
  {m m' : Made (Watched Scripted)}

lemma Anew.andThen (h : Anew names ns w m) (hm : m.result = .ok ())
    (h' : Anew names' ns' m.conn m') : Anew (names ++ names') (ns ++ ns') w m' := by
  obtain ⟨es, first, hes, hwrites, -, hall⟩ := h.written
  obtain ⟨es', first', hes', hwrites', hfirst', hall'⟩ := h'.written
  obtain rfl := hall hm
  refine ⟨(h.beyond.mono (List.subset_append_left _ _)).trans
    (h'.beyond.mono (List.subset_append_right _ _)), h'.current, es ++ es', first ++ first', ?_,
    hwrites.append hwrites', (List.prefix_append_right_inj _).mpr hfirst', fun hm' => ?_⟩
  · rw [hes', hes, List.append_assoc]
  · rw [hall' hm']

lemma Anew.stopped (h : Anew names ns w m) (err : Error) (t : ViewTree) (names' : List String)
    (ns' : List ViewTree) :
    Anew (names ++ names') (ns ++ ns') w ⟨t, .error err, m.conn⟩ := by
  obtain ⟨es, first, hes, hwrites, hfirst, -⟩ := h.written
  exact ⟨h.beyond.mono (List.subset_append_left _ _), by rintro ⟨⟩, es, first, hes, hwrites,
    hfirst.trans (List.prefix_append _ _), by rintro ⟨⟩⟩

lemma makeRoot_current {x : ViewTree} (h : (x.makeRoot w).result = .ok ()) :
    (x.makeRoot w).tree.view.Current (x.makeRoot w).conn.db.db := by
  have ha := attempt_makeRoot x w
  generalize x.makeRoot w = m at ha h ⊢
  cases ha with
  | @made sql schema c' c'' written created read =>
    obtain ⟨hanswer, hdb⟩ := Connection.ask_eq read
    have hsame : c''.db.db = c'.db.db := by rw [hdb]; rfl
    refine ⟨by rw [view_withView], schema, by rw [view_withView], ?_⟩
    rw [view_withView, hsame]
    exact hanswer
  | _ => cases h

lemma makeRoot_anew {x : ViewTree} (hp : Plain x.view.name)
    (hx : ∀ o ∈ x.operands, o.view.Current w.db.db ∧ o.view.name ≠ x.view.name) :
    Anew [x.view.name] [x.reset] w (x.makeRoot w) := by
  obtain ⟨es, hes, hex⟩ := (attempt_makeRoot x w).exchange
  have hcreates (d : Dialect) (sql : String) (h : x.createStatement d = .ok sql) :
      createdName sql = x.view.name := createdName_createStatement hp h
  refine ⟨hex.beyond hcreates, makeRoot_current, ?_⟩
  rcases hex.creations_eq with ⟨herror, hnone⟩ | ⟨s₁, sql, hone, hbeyond, hwritten⟩
  · refine ⟨es, [], hes, ⟨hex.stateAfter_eq, hnone ▸ .nil⟩, List.nil_prefix, fun hok => ?_⟩
    rw [(makeRoot_known hok).1] at herror
    cases herror
  · have hcurrent : ∀ o ∈ x.operands, o.view.Current s₁ := fun o ho =>
      (hx o ho).1.beyond hbeyond (by simpa using (hx o ho).2)
    exact ⟨es, [x.reset], hes,
      ⟨hex.stateAfter_eq, hone ▸ .cons (writtenIn_reset hcurrent hwritten) .nil⟩,
      List.prefix_rfl, fun _ => rfl⟩

end

/-! ### All views -/

lemma view_name_validate (t : ViewTree) (w : Connection (Watched Scripted)) :
    (t.validate w).tree.view.name = t.view.name := by
  have h := congrArg (fun t : ViewTree => t.view.name) (reset_validate t w)
  simp only [view_reset] at h
  exact h

lemma view_name_mem (t : ViewTree) : t.view.name ∈ t.viewNames :=
  List.mem_map_of_mem t.view_mem_postorder

/-- The views of a tree are made from what the database reports, whatever the tree kept from earlier
times. -/
lemma validate_anew {t : ViewTree} (hplain : ∀ name ∈ t.viewNames, Plain name)
    (hnd : t.viewNames.Nodup) (w : Connection (Watched Scripted)) :
    Anew t.viewNames t.reset.subtrees w (t.validate w) := by
  induction t generalizing w with
  | relation name v =>
    exact makeRoot_anew (x := relation name v) (hplain _ (view_name_mem _)) (by simp [operands])
  | unary op t v ih =>
    have hnames : (unary op t v).viewNames = t.viewNames ++ [v.name] := by
      simp [viewNames, postorder]
    rw [hnames] at hplain hnd ⊢
    rw [List.forall_mem_append, List.forall_mem_singleton] at hplain
    obtain ⟨hndt, -, hroot⟩ := List.nodup_append.mp hnd
    have ht := ih hplain.1 hndt w
    have hreset := reset_validate t w
    have hname : (t.validate w).tree.view.name ≠ v.name := by
      rw [view_name_validate]
      exact hroot _ t.view_name_mem _ (List.mem_singleton_self _)
    rw [validate, reset, subtrees]
    generalize t.validate w = m at ht hreset hname ⊢
    obtain ⟨t', err | u, w'⟩ := m
    · exact ht.stopped err _ _ _
    · have hx : ∀ o ∈ (unary op t' v).operands,
          o.view.Current w'.db.db ∧ o.view.name ≠ v.name := by
        simpa [operands] using ⟨ht.current rfl, hname⟩
      have hmade := ht.andThen rfl (makeRoot_anew (x := unary op t' v) hplain.2 hx)
      rwa [reset, hreset] at hmade
  | binary op l r v ihl ihr =>
    have hnames : (binary op l r v).viewNames = l.viewNames ++ r.viewNames ++ [v.name] := by
      simp [viewNames, postorder]
    rw [hnames] at hplain hnd ⊢
    rw [List.forall_mem_append, List.forall_mem_append, List.forall_mem_singleton] at hplain
    obtain ⟨hndlr, -, hroot⟩ := List.nodup_append.mp hnd
    obtain ⟨hndl, hndr, hlr⟩ := List.nodup_append.mp hndlr
    have hl := ihl hplain.1.1 hndl w
    have hresetl := reset_validate l w
    have hnamel := view_name_validate l w
    rw [validate, reset, subtrees]
    generalize l.validate w = m at hl hresetl hnamel ⊢
    obtain ⟨l', err | u, w'⟩ := m
    · simp only [List.append_assoc]
      exact hl.stopped err _ _ _
    · have hr := ihr hplain.1.2 hndr w'
      have hresetr := reset_validate r w'
      have hnamer := view_name_validate r w'
      dsimp only
      generalize r.validate w' = m at hr hresetr hnamer ⊢
      obtain ⟨r', err | u, w''⟩ := m
      · exact (hl.andThen rfl hr).stopped err _ _ _
      · -- the right operand was made after the left one, and under other names
        have hcurrentl : l'.view.Current w''.db.db :=
          (hl.current rfl).beyond hr.beyond fun hm =>
            hlr _ l.view_name_mem _ (hnamel ▸ hm) rfl
        have hnel : l'.view.name ≠ v.name := by
          rw [hnamel]
          exact hroot _ (List.mem_append_left _ l.view_name_mem) _ (List.mem_singleton_self _)
        have hner : r'.view.name ≠ v.name := by
          rw [hnamer]
          exact hroot _ (List.mem_append_right _ r.view_name_mem) _ (List.mem_singleton_self _)
        have hx : ∀ o ∈ (binary op l' r' v).operands,
            o.view.Current w''.db.db ∧ o.view.name ≠ v.name := by
          simpa [operands] using ⟨⟨hcurrentl, hnel⟩, hr.current rfl, hner⟩
        have hmade := (hl.andThen rfl hr).andThen rfl
          (makeRoot_anew (x := binary op l' r' v) hplain.2 hx)
        rwa [reset, hresetl, hresetr] at hmade

end ViewTree

/-! ### Trees in use -/

namespace Workbench

open ViewTree

lemma reset_used (e : Expr) (supply : View.NameSupply) (c : Connection Scripted)
    (steps : List Handling) : (used e supply c steps).tree.reset = (ofExpr e supply).1 := by
  have hstep (b : Workbench Scripted) (h : Handling) :
      (b.handle Scripted.change h).tree.reset = b.tree.reset := by
    cases h with
    | validate => exact reset_validate b.tree b.conn
    | execute => rfl
    | clean => exact reset_reset b.tree
    | change script views => rfl
  have hall (b : Workbench Scripted) :
      (b.handleAll Scripted.change steps).tree.reset = b.tree.reset := by
    induction steps generalizing b with
    | nil => rfl
    | cons h steps ih => exact (ih _).trans (hstep b h)
  rw [used, hall, reset_ofExpr]

lemma viewNames_used (e : Expr) (supply : View.NameSupply) (c : Connection Scripted)
    (steps : List Handling) :
    (used e supply c steps).tree.viewNames = View.namesAfter supply.issued e.size := by
  rw [← viewNames_reset, reset_used, viewNames_ofExpr]

/-- **Every statement that creates a view is written from the columns that the database reports, at
the moment it is sent, for the views of the operands.** However a tree was used before, and whatever
rules were in force then, the statements sent when its views are made are those of its first nodes
in order, as they are in the new tree, which keeps no columns. If all views are made, they are those
of all nodes. -/
theorem used_written_anew (e : Expr) (supply : View.NameSupply) (c : Connection Scripted)
    (steps : List Handling) :
    let b := used e supply c steps
    let made := b.tree.validate b.conn
    let watched := b.tree.validate (b.conn.map Watched.start)
    watched.map Watched.db = made ∧
      made.conn.db.sent.toList =
        b.conn.db.sent.toList ++ watched.conn.db.events.filterMap (·.request.sql?) ∧
      ∃ first, first <+: (ofExpr e supply).1.subtrees ∧
        List.Forall₂ WrittenIn first (creations b.conn.db watched.conn.db.events) ∧
        (made.result = .ok () → first = (ofExpr e supply).1.subtrees) := by
  intro b made watched
  have hwatched : watched.map Watched.db = made := (validate_map Watched.morphism _ _).symm
  have hnames : b.tree.viewNames = View.namesAfter supply.issued e.size :=
    viewNames_used e supply c steps
  have hplain : ∀ name ∈ b.tree.viewNames, Plain name := by
    intro name hn
    rw [hnames] at hn
    obtain ⟨k, -, -, rfl⟩ := View.mem_namesAfter.mp hn
    exact plain_nameOf k
  have hnd : b.tree.viewNames.Nodup := hnames ▸ View.nodup_namesAfter _ _
  obtain ⟨-, -, es, first, hes, hwrites, hfirst, hall⟩ :=
    validate_anew hplain hnd (b.conn.map Watched.start)
  have hevents : watched.conn.db.events = es := hes
  refine ⟨hwatched, ?_, first, ?_, hevents ▸ hwrites.written, fun hok => ?_⟩
  · rw [← hwatched]
    exact (keeps_sent b.conn.db.sent.toList).validate (c := b.conn.map Watched.start)
      (List.append_nil _).symm b.tree
  · rwa [reset_used] at hfirst
  · rw [← hwatched] at hok
    rw [hall hok, reset_used]

end Workbench

end RelAlgebra
