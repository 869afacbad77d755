import RelAlgebra.Proofs.Database.Watched

/-!
What is asked of a database while the views of a tree are made.

The database may answer anything. Over each view that is attempted there is one exchange with it:
what stands under the name is dropped, the view is created and its columns are read, until a step
fails; a view whose columns could not be read is dropped again. The views are attempted operands
first, and the first one that fails is the last.
-/

namespace RelAlgebra

lemma Watched.of_eq_next {σ : Type} [Database σ] {w w' : Watched σ} {r : Request}
    {f : Option DbError} (h : w' = w.next r) (hf : (r.run w.db).1 = f) :
    r.run w.db = (f, w'.db) ∧ w'.events = w.events ++ [⟨r, f, w'.db⟩] := by
  subst h hf
  exact ⟨rfl, rfl⟩

namespace ViewTree

variable {σ : Type} [Database σ]

lemma createStatement_withView {t : ViewTree} {v : View} (h : v.name = t.view.name) (d : Dialect) :
    (t.withView v).createStatement d = t.createStatement d := by
  have hcolumns : (t.withView v).declaredColumns d = t.declaredColumns d := by
    rcases t with ⟨name, u⟩ | ⟨op, t, u⟩ | ⟨op, l, r, u⟩
    · rfl
    · cases op <;> rfl
    · rfl
  have hquery : (t.withView v).query d = t.query d := by
    rcases t with ⟨name, u⟩ | ⟨op, t, u⟩ | ⟨op, l, r, u⟩
    · rfl
    · have hv : v.name = u.name := h
      cases op <;> simp only [withView, query_eq, renamed, refuse, view, label, hv]
    · have hv : v.name = u.name := h
      rcases op with (_ | _) | _ | _ | _ | _ <;>
        simp only [withView, query_eq, setOperation, refuse, view, label, hv]
  rw [createStatement, createStatement, createView_eq, createView_eq, hquery, hcolumns,
    view_withView, h]

/-! ### One view -/

/-- All that is exchanged over one view, which the statement creates, with the status it has
afterwards. The database goes from one state to the other. -/
inductive Exchange (name : String) (statement : Dialect → Except Error String) (s : σ) :
    Status → List (Event σ) → σ → Prop
  | unwritten {f : Option DbError} {s₁ : σ} {err : Error}
    (dropped : (Request.dropView name).run s = (f, s₁))
    (written : statement (Database.dialect s₁) = .error err) :
    Exchange name statement s .error [⟨.dropView name, f, s₁⟩] s₁
  | refused {f : Option DbError} {s₁ s₂ : σ} {sql : String} {e : DbError}
    (dropped : (Request.dropView name).run s = (f, s₁))
    (written : statement (Database.dialect s₁) = .ok sql)
    (created : (Request.createView sql).run s₁ = (some e, s₂)) :
    Exchange name statement s .error
      [⟨.dropView name, f, s₁⟩, ⟨.createView sql, some e, s₂⟩] s₂
  | unread {f f' : Option DbError} {s₁ s₂ s₃ s₄ : σ} {sql : String} {e : DbError}
    (dropped : (Request.dropView name).run s = (f, s₁))
    (written : statement (Database.dialect s₁) = .ok sql)
    (created : (Request.createView sql).run s₁ = (none, s₂))
    (read : (Request.tableSchema name).run s₂ = (some e, s₃))
    (broken : (Request.dropView name).run s₃ = (f', s₄)) :
    Exchange name statement s .error [⟨.dropView name, f, s₁⟩, ⟨.createView sql, none, s₂⟩,
      ⟨.tableSchema name, some e, s₃⟩, ⟨.dropView name, f', s₄⟩] s₄
  | made {f : Option DbError} {s₁ s₂ s₃ : σ} {sql : String}
    (dropped : (Request.dropView name).run s = (f, s₁))
    (written : statement (Database.dialect s₁) = .ok sql)
    (created : (Request.createView sql).run s₁ = (none, s₂))
    (read : (Request.tableSchema name).run s₂ = (none, s₃)) :
    Exchange name statement s .correct [⟨.dropView name, f, s₁⟩, ⟨.createView sql, none, s₂⟩,
      ⟨.tableSchema name, none, s₃⟩] s₃

lemma ask_watched {α : Type} {w w' : Connection (Watched σ)} {request : Watched σ → α × Watched σ}
    {a : α} {r : Request} {f : Option DbError} (h : w.ask request = (a, w'))
    (hr : (request w.db).2 = w.db.next r) (hf : (request w.db).1 = a → (r.run w.db.db).1 = f) :
    r.run w.db.db = (f, w'.db.db) ∧ w'.db.events = w.db.events ++ [⟨r, f, w'.db.db⟩] := by
  obtain ⟨ha, hw'⟩ := Connection.ask_eq h
  exact Watched.of_eq_next (hw'.trans hr) (hf ha)

lemma Attempt.exchange {t : ViewTree} {w : Connection (Watched σ)} {m : Made (Watched σ)}
    (h : Attempt t w m) :
    ∃ es, m.conn.db.events = w.db.events ++ es ∧
      Exchange t.view.name t.createStatement w.db.db m.tree.view.status es m.conn.db.db := by
  have hstale : (w.dropStale t.view.name).db = w.db.next (.dropView t.view.name) :=
    w.dropStale_db t.view.name
  -- `h₁` to `h₄` say what each request adds to those that were kept
  obtain ⟨hdropped, h₁⟩ := Watched.of_eq_next hstale rfl
  have hstatus : (t.withStatus .error).view.status = .error := by simp [withStatus]
  cases h with
  | unwritten written =>
    rw [hstatus]
    exact ⟨_, h₁, .unwritten hdropped written⟩
  | refused written created =>
    obtain ⟨hcreated, h₂⟩ := ask_watched created rfl (f := some _) (congrArg failure?)
    rw [Connection.debug_db] at hcreated h₂
    rw [hstatus, h₂, h₁, List.append_assoc]
    exact ⟨_, rfl, .refused hdropped written hcreated⟩
  | @unread sql e c' c'' written created read =>
    obtain ⟨hcreated, h₂⟩ := ask_watched created rfl (f := none) (congrArg failure?)
    obtain ⟨hread, h₃⟩ := ask_watched read rfl (f := some _) (congrArg failure?)
    have hbroken : (c''.dropBroken t.view.name).db = c''.db.next (.dropView t.view.name) :=
      c''.dropBroken_db t.view.name
    obtain ⟨hbroken, h₄⟩ := Watched.of_eq_next hbroken rfl
    rw [Connection.debug_db] at hcreated h₂
    rw [hstatus, h₄, h₃, h₂, h₁, List.append_assoc, List.append_assoc, List.append_assoc]
    exact ⟨_, rfl, .unread hdropped written hcreated hread hbroken⟩
  | made written created read =>
    obtain ⟨hcreated, h₂⟩ := ask_watched created rfl (f := none) (congrArg failure?)
    obtain ⟨hread, h₃⟩ := ask_watched read rfl (f := none) (congrArg failure?)
    rw [Connection.debug_db] at hcreated h₂
    rw [view_withView, h₃, h₂, h₁, List.append_assoc, List.append_assoc]
    exact ⟨_, rfl, .made hdropped written hcreated hread⟩

lemma exchange_makeRoot (t : ViewTree) (w : Connection (Watched σ)) :
    ∃ es, (t.makeRoot w).conn.db.events = w.db.events ++ es ∧
      Exchange (t.makeRoot w).tree.view.name (t.makeRoot w).tree.createStatement w.db.db
        (t.makeRoot w).tree.view.status es (t.makeRoot w).conn.db.db := by
  obtain ⟨htree, hname⟩ := makeRoot_tree t w
  have hstatement (d : Dialect) :
      (t.makeRoot w).tree.createStatement d = t.createStatement d := by
    rw [htree, createStatement_withView hname]
  simp only [hname, hstatement]
  exact (attempt_makeRoot t w).exchange

lemma Exchange.attempted {name : String} {statement : Dialect → Except Error String} {s s' : σ}
    {status : Status} {es : List (Event σ)} (h : Exchange name statement s status es s') :
    status ≠ .unchecked := by
  cases h <;> simp

/-! ### One view after the other -/

/-- The exchanges over the views of some nodes, one after the other. -/
inductive Exchanges : List ViewTree → σ → List (Event σ) → σ → Prop
  | nil (s : σ) : Exchanges [] s [] s
  | cons {n : ViewTree} {ns : List ViewTree} {s s' s'' : σ} {es es' : List (Event σ)}
    (first : Exchange n.view.name n.createStatement s n.view.status es s')
    (rest : Exchanges ns s' es' s'') : Exchanges (n :: ns) s (es ++ es') s''

lemma Exchanges.attempted {ns : List ViewTree} {s s' : σ} {es : List (Event σ)}
    (h : Exchanges ns s es s') : ∀ n ∈ ns, n.view.status ≠ .unchecked := by
  induction h with
  | nil => simp
  | cons first _ ih => exact List.forall_mem_cons.mpr ⟨first.attempted, ih⟩

lemma Pass.exchanges {xs : List ViewTree} {w w' : Connection (Watched σ)} {vs : List View}
    {r : Except Error Unit} (h : Pass xs w vs r w') :
    ∃ es, w'.db.events = w.db.events ++ es ∧
      Exchanges (List.zipWith withView xs vs) w.db.db es w'.db.db := by
  induction h with
  | done w => exact ⟨[], by simp, .nil _⟩
  | @made x xs w w' vs r _ _ ih =>
    obtain ⟨es, hes, hex⟩ := exchange_makeRoot x w
    obtain ⟨es', hes', hrest⟩ := ih
    refine ⟨es ++ es', by rw [hes', hes, List.append_assoc], ?_⟩
    rw [List.zipWith_cons_cons, ← (makeRoot_tree x w).1]
    exact .cons hex hrest
  | @stopped x w err _ =>
    obtain ⟨es, hes, hex⟩ := exchange_makeRoot x w
    refine ⟨es ++ [], by rw [hes, List.append_nil], ?_⟩
    rw [List.zipWith_cons_cons, ← (makeRoot_tree x w).1]
    exact .cons hex (.nil _)

/-! ### The first failure -/

/-- Making the views stopped at the node that has the number `k`, counted from zero in the order in
which the views are made. -/
structure StoppedAt (m : Made σ) (k : ℕ) : Prop where
  correct : ∀ n ∈ m.tree.subtrees.take k, n.view.status = .correct
  failed : ∃ n, m.tree.subtrees[k]? = some n ∧ n.view.status = .error ∧
    ∃ reason source, m.result = .error (.validation n.view.name n.label reason source)
  unchecked : ∀ n ∈ m.tree.subtrees.drop (k + 1),
    n.view.status = .unchecked ∧ n.view.schema = none

omit [Database σ] in
lemma StoppedAt.le {m : Made σ} {j k : ℕ} (hj : StoppedAt m j) (hk : StoppedAt m k) : k ≤ j := by
  by_contra hlt
  obtain ⟨n, hn, herror, -⟩ := hj.failed
  have hmem : n ∈ m.tree.subtrees.take k := by
    rw [List.mem_take_iff_getElem]
    obtain ⟨hlen, rfl⟩ := List.getElem?_eq_some_iff.mp hn
    exact ⟨j, by omega, rfl⟩
  rw [hk.correct n hmem] at herror
  cases herror

omit [Database σ] in
lemma stoppedAt_of_split {m : Made σ} {before after : List ViewTree} {n : ViewTree}
    (hsplit : m.tree.subtrees = before ++ n :: after)
    (hbefore : ∀ b ∈ before, b.view.status = .correct) (hn : n.view.status = .error)
    (hm : ∃ reason source, m.result = .error (.validation n.view.name n.label reason source))
    (hafter : ∀ a ∈ after, a.view.status = .unchecked ∧ a.view.schema = none) :
    StoppedAt m before.length := by
  refine ⟨?_, ⟨n, ?_, hn, hm⟩, ?_⟩
  · rw [hsplit, List.take_left]
    exact hbefore
  · rw [hsplit, List.getElem?_append_right (Nat.le_refl _), Nat.sub_self]
    rfl
  · have hdrop : m.tree.subtrees.drop (before.length + 1) = after := by
      rw [hsplit, ← List.drop_drop, List.drop_left]
      rfl
    rw [hdrop]
    exact hafter

lemma map_view_zipWith {xs : List ViewTree} {vs : List View} (h : xs.length = vs.length) :
    (List.zipWith withView xs vs).map view = vs := by
  refine List.ext_getElem (by simp [h]) fun i _ _ => ?_
  simp

lemma label_withView (t : ViewTree) (v : View) : (t.withView v).label = t.label := by
  cases t <;> rfl

section

variable {t : ViewTree} {c : Connection σ} {m : Made σ} {xs : List ViewTree} {vs later : List View}

lemma Passes.correct (h : Passes t c m xs vs later) (hm : m.result = .ok ()) :
    ∀ n ∈ m.tree.subtrees, n.view.status = .correct := by
  intro n hn
  have hv : n.view ∈ m.tree.postorder := by
    rw [← map_view_subtrees]
    exact List.mem_map_of_mem hn
  exact (h.known hm _ hv).1

lemma Passes.stoppedAt (h : Passes t c m xs vs later) {err : Error} (hm : m.result = .error err)
    (hlater : ∀ v ∈ later, v.status = .unchecked ∧ v.schema = none) : ∃ k, StoppedAt m k := by
  obtain ⟨rest, hnodes, hrest⟩ := h.nodes
  have hpass := h.pass
  rw [hm] at hpass
  obtain ⟨ys, us, c₁, x, rfl, hys, hx, rfl, -⟩ := hpass.of_error
  obtain ⟨htree, hname⟩ := makeRoot_tree x c₁
  obtain ⟨reason, source, herr⟩ := makeRoot_error (h.ready x (by simp)) hx
  have hlabel : (x.makeRoot c₁).tree.label = x.label := by rw [htree, label_withView]
  have hsplit : m.tree.subtrees =
      List.zipWith withView ys us ++ (x.makeRoot c₁).tree :: rest := by
    rw [hnodes, List.zipWith_append hys.length_eq, List.append_assoc, List.zipWith_cons_cons,
      ← htree]
    rfl
  refine ⟨_, stoppedAt_of_split hsplit (fun n hn => ?_) (makeRoot_failed hx) ?_ fun n hn => ?_⟩
  · have hv : n.view ∈ us := by
      rw [← map_view_zipWith hys.length_eq]
      exact List.mem_map_of_mem hn
    exact (hys.known _ hv).1
  · exact ⟨reason, source, by rw [hm, herr, hname, hlabel]; rfl⟩
  · exact hlater _ (hrest ▸ List.mem_map_of_mem hn)

lemma Passes.attempted {w : Connection (Watched σ)} {m : Made (Watched σ)}
    (h : Passes t w m xs vs later) (hlater : ∀ v ∈ later, v.status = .unchecked) :
    ∃ es, m.conn.db.events = w.db.events ++ es ∧
      Exchanges (m.tree.subtrees.filter fun n => n.view.status ≠ .unchecked) w.db.db es
        m.conn.db.db := by
  obtain ⟨es, hes, hex⟩ := h.pass.exchanges
  obtain ⟨rest, hnodes, hrest⟩ := h.nodes
  have hunchecked (n : ViewTree) (hn : n ∈ rest) : n.view.status = .unchecked :=
    hlater _ (hrest ▸ List.mem_map_of_mem hn)
  have hfilter : (m.tree.subtrees.filter fun n => n.view.status ≠ .unchecked) =
      List.zipWith withView xs vs := by
    have hall : (List.zipWith withView xs vs).filter (fun n => n.view.status ≠ .unchecked) =
        List.zipWith withView xs vs :=
      List.filter_eq_self.mpr fun n hn => by simpa using hex.attempted n hn
    have hnone : rest.filter (fun n => n.view.status ≠ .unchecked) = [] :=
      List.filter_eq_nil_iff.mpr fun n hn => by simpa using hunchecked n hn
    rw [hnodes, List.filter_append, hall, hnone, List.append_nil]
  exact ⟨es, hes, hfilter ▸ hex⟩

end

lemma validate_ofExpr_passes (e : Expr) (names : View.NameSupply) (c : Connection σ) :
    ∃ xs vs later, Passes (ofExpr e names).1 c ((ofExpr e names).1.validate c) xs vs later ∧
      ∀ v ∈ later, v.status = .unchecked ∧ v.schema = none := by
  obtain ⟨xs, vs, later, hp⟩ := validate_passes (ofExpr e names).1 c
  refine ⟨xs, vs, later, hp, fun v hv => unchecked_ofExpr e names v ?_⟩
  rw [hp.before]
  exact List.mem_append_right _ hv

/-- **Making the views of a new tree succeeds with all nodes correct, or stops at one node**: those
before it are correct, those after it untouched, and its view and operator are told. One exchange
with the database is made over each view that was attempted, in order, and nothing else is asked. -/
theorem validate_ofExpr (e : Expr) (names : View.NameSupply) (c : Connection σ) :
    ((ofExpr e names).1.validate (c.map Watched.start)).map Watched.db =
        (ofExpr e names).1.validate c ∧
      ((ofExpr e names).1.validate c).tree.reset = (ofExpr e names).1 ∧
      ((((ofExpr e names).1.validate c).result = .ok () ∧
          ∀ n ∈ ((ofExpr e names).1.validate c).tree.subtrees, n.view.status = .correct) ∨
        ∃! k, StoppedAt ((ofExpr e names).1.validate c) k) ∧
      Exchanges
        (((ofExpr e names).1.validate c).tree.subtrees.filter fun n => n.view.status ≠ .unchecked)
        c.db ((ofExpr e names).1.validate (c.map Watched.start)).conn.db.events
        ((ofExpr e names).1.validate c).conn.db := by
  have hwatched : ((ofExpr e names).1.validate (c.map Watched.start)).map Watched.db =
      (ofExpr e names).1.validate c := (validate_map Watched.morphism _ _).symm
  refine ⟨hwatched, ?_, ?_, ?_⟩
  · rw [reset_validate, reset_ofExpr]
  · obtain ⟨xs, vs, later, hp, hlater⟩ := validate_ofExpr_passes e names c
    cases h : ((ofExpr e names).1.validate c).result with
    | ok u => exact .inl ⟨rfl, hp.correct h⟩
    | error err =>
      obtain ⟨k, hk⟩ := hp.stoppedAt h hlater
      exact .inr ⟨k, hk, fun j hj => Nat.le_antisymm (hk.le hj) (hj.le hk)⟩
  · obtain ⟨xs, vs, later, hp, hlater⟩ := validate_ofExpr_passes e names (c.map Watched.start)
    obtain ⟨es, hes, hex⟩ := hp.attempted fun v hv => (hlater v hv).1
    have hevents : ((ofExpr e names).1.validate (c.map Watched.start)).conn.db.events = es := hes
    rw [← hwatched, hevents]
    exact hex

end ViewTree

end RelAlgebra
