import RelAlgebra.Proofs.View.Generators
import RelAlgebra.Proofs.View.Numbering
import RelAlgebra.View.Cycle

/-!
Making the views of a tree as a pass over its nodes.

The recursion over the tree makes one view after the other, operands first, and stops at the
first that cannot be made. What one attempt can do is said once, for any database; a pass is a
sequence of attempts, and what holds of all trees is proved by induction on the pass.
-/

namespace RelAlgebra

variable {σ : Type} [Database σ]

namespace Connection

@[simp] lemma debug_db {σ : Type} (c : Connection σ) (text : String) :
    (c.debug text).db = c.db := rfl

@[simp] lemma info_db {σ : Type} (c : Connection σ) (text : String) : (c.info text).db = c.db := rfl

@[simp] lemma warn_db {σ : Type} (c : Connection σ) (text : String) : (c.warn text).db = c.db := rfl

lemma ask_eq {σ α : Type} {c c' : Connection σ} {request : σ → α × σ} {a : α}
    (h : c.ask request = (a, c')) : (request c.db).1 = a ∧ c'.db = (request c.db).2 := by
  cases h; exact ⟨rfl, rfl⟩

lemma dropStale_db (c : Connection σ) (name : String) :
    (c.dropStale name).db = (Database.dropView name c.db).2 := by
  unfold dropStale
  split
  · next h => exact (ask_eq h).2
  · next h => rw [debug_db]; exact (ask_eq h).2

lemma dropBroken_db (c : Connection σ) (name : String) :
    (c.dropBroken name).db = (Database.dropView name c.db).2 := by
  unfold dropBroken
  split
  · next h => exact (ask_eq h).2
  · next h => rw [warn_db]; exact (ask_eq h).2

lemma release_db (c : Connection σ) (v : View) :
    (c.release v).2.db =
      if v.status = .correct then (Database.dropView v.name c.db).2 else c.db := by
  unfold release
  split
  · split
    · next h => exact (ask_eq h).2
    · next h => exact (ask_eq h).2
  · rfl

lemma release_failure (c : Connection σ) (v : View) :
    (c.release v).1 = if v.status = .correct then
      match (Database.dropView v.name c.db).1 with
      | .ok () => none
      | .error e => some (.cleanup v.name e)
    else none := by
  unfold release
  split
  · split
    · next h => rw [← debug_db c, (ask_eq h).1]
    · next h => rw [← debug_db c, (ask_eq h).1]
  · rfl

end Connection

/-- The view is there and its columns are known. -/
def View.Known (v : View) : Prop := v.status = .correct ∧ v.schema.isSome

namespace ViewTree

@[simp] lemma view_withView (t : ViewTree) (v : View) : (t.withView v).view = v := by
  cases t <;> rfl

lemma view_mem_postorder (t : ViewTree) : t.view ∈ t.postorder := by
  cases t <;> simp [view, postorder]

/-! ### One attempt -/

/-- The views of the operands are there. -/
def Ready (t : ViewTree) : Prop := ∀ o ∈ t.operands, o.view.Known

lemma knownSchema_of_known {t : ViewTree} (h : t.view.Known) : ∃ s, t.knownSchema = .ok s := by
  obtain ⟨hs, hc⟩ := h
  obtain ⟨s, hc⟩ := Option.isSome_iff_exists.mp hc
  exact ⟨s, by simp [knownSchema, hs, hc]⟩

lemma createStatement_error {d : Dialect} {t : ViewTree} {e : Error} (ht : t.Ready)
    (h : t.createStatement d = .error e) : ∃ reason, e = t.refuse reason none := by
  rcases query_error (createStatement_eq_error_iff.mp h) with hreason | ⟨o, ho, hunknown⟩
  · exact hreason
  · obtain ⟨schema, hknown⟩ := knownSchema_of_known (ht o ho)
    rw [hknown] at hunknown
    cases hunknown

/-- Why the columns of a view that was made could not be read. -/
def unreadable (e : DbError) : String := "cannot read schema of created view: " ++ e.message

/-- All that an attempt to make the view of a root can do. A view may stand under the name already,
so the attempt begins with dropping it. -/
inductive Attempt (t : ViewTree) (c : Connection σ) : Made σ → Prop
  | unwritten {e : Error}
    (written : t.createStatement (Database.dialect (c.dropStale t.view.name).db) = .error e) :
    Attempt t c ⟨t.withStatus .error, .error e, c.dropStale t.view.name⟩
  | refused {sql : String} {e : DbError} {c' : Connection σ}
    (written : t.createStatement (Database.dialect (c.dropStale t.view.name).db) = .ok sql)
    (created : ((c.dropStale t.view.name).debug sql).ask (Database.createView sql) =
      (.error e, c')) :
    Attempt t c ⟨t.withStatus .error, .error (t.refuse e.message (some e)), c'⟩
  | unread {sql : String} {e : DbError} {c' c'' : Connection σ}
    (written : t.createStatement (Database.dialect (c.dropStale t.view.name).db) = .ok sql)
    (created : ((c.dropStale t.view.name).debug sql).ask (Database.createView sql) = (.ok (), c'))
    (read : c'.ask (Database.tableSchema t.view.name) = (.error e, c'')) :
    Attempt t c ⟨t.withStatus .error, .error (t.refuse (unreadable e) (some e)),
      c''.dropBroken t.view.name⟩
  | made {sql : String} {s : Schema} {c' c'' : Connection σ}
    (written : t.createStatement (Database.dialect (c.dropStale t.view.name).db) = .ok sql)
    (created : ((c.dropStale t.view.name).debug sql).ask (Database.createView sql) = (.ok (), c'))
    (read : c'.ask (Database.tableSchema t.view.name) = (.ok s, c'')) :
    Attempt t c ⟨t.withView { t.view with status := .correct, schema := some s }, .ok (), c''⟩

lemma attempt_makeRoot (t : ViewTree) (c : Connection σ) : Attempt t c (t.makeRoot c) := by
  simp only [makeRoot]
  split
  · next h => exact .unwritten h
  · next h =>
    split
    · next hc => exact .refused h hc
    · next hc =>
      split
      · next hr => exact .made h hc hr
      · next hr => exact .unread h hc hr

lemma makeRoot_tree (t : ViewTree) (c : Connection σ) :
    (t.makeRoot c).tree = t.withView (t.makeRoot c).tree.view ∧
      (t.makeRoot c).tree.view.name = t.view.name := by
  have ha := attempt_makeRoot t c
  generalize t.makeRoot c = m at ha ⊢
  cases ha <;> simp [withStatus]

lemma makeRoot_known {t : ViewTree} {c : Connection σ} (h : (t.makeRoot c).result = .ok ()) :
    (t.makeRoot c).tree.view.Known := by
  have ha := attempt_makeRoot t c
  generalize t.makeRoot c = m at ha h ⊢
  cases ha with
  | made => simp [View.Known]
  | _ => cases h

lemma makeRoot_failed {t : ViewTree} {c : Connection σ} {e : Error}
    (h : (t.makeRoot c).result = .error e) : (t.makeRoot c).tree.view.status = .error := by
  have ha := attempt_makeRoot t c
  generalize t.makeRoot c = m at ha h ⊢
  cases ha with
  | made => cases h
  | _ => simp [withStatus]

lemma makeRoot_error {t : ViewTree} {c : Connection σ} {e : Error} (ht : t.Ready)
    (h : (t.makeRoot c).result = .error e) : ∃ reason source, e = t.refuse reason source := by
  have ha := attempt_makeRoot t c
  generalize t.makeRoot c = m at ha h
  cases ha with
  | unwritten written =>
    cases h
    obtain ⟨reason, he⟩ := createStatement_error ht written
    exact ⟨reason, none, he⟩
  | made => cases h
  | _ => cases h; exact ⟨_, _, rfl⟩

lemma reset_withView {t : ViewTree} {v : View} (h : v.name = t.view.name) :
    (t.withView v).reset = t.reset := by
  cases t <;> simp_all [withView, reset, View.reset, view]

lemma reset_validate (t : ViewTree) (c : Connection σ) : (t.validate c).tree.reset = t.reset := by
  have hroot (t : ViewTree) (c : Connection σ) : (t.makeRoot c).tree.reset = t.reset := by
    obtain ⟨htree, hname⟩ := makeRoot_tree t c
    rw [htree, reset_withView hname]
  induction t generalizing c with
  | relation name v => exact hroot _ c
  | unary op t v ih =>
    have ht := ih c
    rw [validate]
    generalize t.validate c = m at ht ⊢
    obtain ⟨t', _ | _, c'⟩ := m
    · simp only [reset, ht]
    · simp only [hroot, reset, ht]
  | binary op l r v ihl ihr =>
    have hl := ihl c
    rw [validate]
    generalize l.validate c = m at hl ⊢
    obtain ⟨l', _ | _, c'⟩ := m
    · simp only [reset, hl]
    · have hr := ihr c'
      simp only
      generalize r.validate c' = m at hr ⊢
      obtain ⟨r', _ | _, c''⟩ := m
      · simp only [reset, hl, hr]
      · simp only [hroot, reset, hl, hr]

/-! ### The pass -/

/-- `Pass xs c vs r c'`: the views of the nodes `xs` are attempted in order, from the connection
`c` to `c'`; the result is `r`, and `vs` are the views afterwards. -/
inductive Pass : List ViewTree → Connection σ → List View → Except Error Unit →
    Connection σ → Prop
  | done (c : Connection σ) : Pass [] c [] (.ok ()) c
  | made {x : ViewTree} {xs : List ViewTree} {c c' : Connection σ} {vs : List View}
    {r : Except Error Unit} (h : (x.makeRoot c).result = .ok ())
    (rest : Pass xs (x.makeRoot c).conn vs r c') :
    Pass (x :: xs) c ((x.makeRoot c).tree.view :: vs) r c'
  | stopped {x : ViewTree} {c : Connection σ} {e : Error}
    (h : (x.makeRoot c).result = .error e) :
    Pass [x] c [(x.makeRoot c).tree.view] (.error e) (x.makeRoot c).conn

namespace Pass

variable {xs ys : List ViewTree} {c c' c'' : Connection σ} {vs ws : List View}
  {r : Except Error Unit}

lemma append (h : Pass xs c vs (.ok ()) c') (h' : Pass ys c' ws r c'') :
    Pass (xs ++ ys) c (vs ++ ws) r c'' := by
  generalize ho : (.ok () : Except Error Unit) = o at h
  induction h with
  | done => exact h'
  | made hx _ ih => exact .made hx (ih h' ho)
  | stopped => cases ho

lemma single (x : ViewTree) (c : Connection σ) :
    Pass [x] c [(x.makeRoot c).tree.view] (x.makeRoot c).result (x.makeRoot c).conn := by
  cases h : (x.makeRoot c).result with
  | ok u => exact .made h (.done _)
  | error e => exact .stopped h

lemma names (h : Pass xs c vs r c') : vs.map View.name = xs.map (·.view.name) := by
  induction h with
  | done => rfl
  | made _ _ ih => simp [ih, (makeRoot_tree _ _).2]
  | stopped => simp [(makeRoot_tree _ _).2]

lemma length_eq (h : Pass xs c vs r c') : xs.length = vs.length := by
  simpa using (congrArg List.length h.names).symm

lemma known (h : Pass xs c vs (.ok ()) c') : ∀ v ∈ vs, v.Known := by
  generalize ho : (.ok () : Except Error Unit) = o at h
  induction h with
  | done => simp
  | made hx _ ih => exact List.forall_mem_cons.mpr ⟨makeRoot_known hx, ih ho⟩
  | stopped => cases ho

/-- A pass that fails is a pass to the end, over the nodes before the last, and a failed
attempt. -/
lemma of_error {e : Error} (h : Pass xs c vs (.error e) c') :
    ∃ ys us c₁ x, xs = ys ++ [x] ∧ Pass ys c us (.ok ()) c₁ ∧
      (x.makeRoot c₁).result = .error e ∧ vs = us ++ [(x.makeRoot c₁).tree.view] ∧
      c' = (x.makeRoot c₁).conn := by
  generalize ho : (.error e : Except Error Unit) = o at h
  induction h with
  | done => cases ho
  | @made y xs c c' vs r hy _ ih =>
    obtain ⟨ys, us, c₁, x, rfl, hys, hx, rfl, rfl⟩ := ih ho
    exact ⟨y :: ys, _ :: us, c₁, x, rfl, .made hy hys, hx, rfl, rfl⟩
  | @stopped x c e' hx =>
    cases ho
    exact ⟨[], [], c, x, rfl, .done c, hx, rfl, rfl⟩

end Pass

/-- The pass that making the views of `t` over `c` amounts to: over the nodes `xs`, each with its
operands as they are by then, with the views `later` left as they were. -/
structure Passes (t : ViewTree) (c : Connection σ) (m : Made σ) (xs : List ViewTree)
    (vs later : List View) : Prop where
  pass : Pass xs c vs m.result m.conn
  ready : ∀ x ∈ xs, x.Ready
  before : t.postorder = xs.map view ++ later
  after : m.tree.postorder = vs ++ later
  nodes : ∃ rest, m.tree.subtrees = List.zipWith withView xs vs ++ rest ∧ rest.map view = later
  complete : m.result = .ok () → later = []

lemma Passes.known {t : ViewTree} {c : Connection σ} {m : Made σ} {xs : List ViewTree}
    {vs later : List View} (h : Passes t c m xs vs later) (hm : m.result = .ok ()) :
    ∀ v ∈ m.tree.postorder, v.Known := by
  have hp := h.pass
  rw [hm] at hp
  rw [h.after, h.complete hm, List.append_nil]
  exact hp.known

lemma Passes.viewNames_eq {t : ViewTree} {c : Connection σ} {m : Made σ} {xs : List ViewTree}
    {vs later : List View} (h : Passes t c m xs vs later) :
    t.viewNames = xs.map (·.view.name) ++ later.map View.name := by
  unfold viewNames
  rw [h.before, List.map_append, List.map_map]
  rfl

lemma Passes.viewNames_made {t : ViewTree} {c : Connection σ} {m : Made σ} {xs : List ViewTree}
    {vs later : List View} (h : Passes t c m xs vs later) : m.tree.viewNames = t.viewNames := by
  rw [h.viewNames_eq, viewNames, h.after, List.map_append, h.pass.names]

lemma validate_passes (t : ViewTree) (c : Connection σ) :
    ∃ xs vs later, Passes t c (t.validate c) xs vs later := by
  induction t generalizing c with
  | relation name v =>
    refine ⟨[relation name v], _, [], ⟨Pass.single _ c, ?_, rfl, ?_, ⟨[], ?_, rfl⟩, fun _ => rfl⟩⟩
    · simp [Ready, operands]
    · rw [validate, (makeRoot_tree _ _).1]; rfl
    · rw [validate, (makeRoot_tree _ _).1]; rfl
  | unary op t v ih =>
    obtain ⟨xs, vs, later, hp⟩ := ih c
    have hk := hp.known
    obtain ⟨hpass, hready, hbefore, hafter, ⟨rest, hnodes, hrest⟩, hcomplete⟩ := hp
    rw [validate]
    generalize t.validate c = m at hk hpass hafter hnodes hcomplete ⊢
    -- after a failure below, the views above stay as they were; else the root is attempted last
    obtain ⟨t', _ | _, c'⟩ := m
    · exact ⟨xs, vs, later ++ [v], ⟨hpass, hready, by simp [postorder, hbefore],
        by simp only [postorder, hafter, List.append_assoc],
        ⟨rest ++ [unary op t' v], by simp only [subtrees, hnodes, List.append_assoc],
          by simp [hrest, view]⟩, by rintro ⟨⟩⟩⟩
    · obtain rfl := hcomplete rfl
      obtain rfl := List.map_eq_nil_iff.mp hrest
      refine ⟨xs ++ [unary op t' v], _, [], ⟨hpass.append (Pass.single _ c'), ?_, ?_, ?_,
        ⟨[], ?_, rfl⟩, fun _ => rfl⟩⟩
      · rw [List.forall_mem_append]
        exact ⟨hready, by simpa [Ready, operands] using hk rfl _ t'.view_mem_postorder⟩
      · simp [postorder, hbefore, view]
      · rw [(makeRoot_tree _ _).1]
        simp only [withView, postorder, hafter, view, List.append_nil]
      · rw [(makeRoot_tree _ _).1, List.zipWith_append hpass.length_eq]
        simp only [withView, subtrees, hnodes, view, List.append_nil, List.zipWith_cons_cons,
          List.zipWith_nil_right]
  | binary op l r v ihl ihr =>
    obtain ⟨xs, vs, later, hp⟩ := ihl c
    have hk := hp.known
    obtain ⟨hpass, hready, hbefore, hafter, ⟨rest, hnodes, hrest⟩, hcomplete⟩ := hp
    rw [validate]
    generalize l.validate c = m at hk hpass hafter hnodes hcomplete ⊢
    obtain ⟨l', _ | _, c'⟩ := m
    · exact ⟨xs, vs, later ++ (r.postorder ++ [v]), ⟨hpass, hready, by simp [postorder, hbefore],
        by simp only [postorder, hafter, List.append_assoc],
        ⟨rest ++ (r.subtrees ++ [binary op l' r v]),
          by simp only [subtrees, hnodes, List.append_assoc],
          by simp [hrest, map_view_subtrees, view]⟩, by rintro ⟨⟩⟩⟩
    · obtain rfl := hcomplete rfl
      obtain rfl := List.map_eq_nil_iff.mp hrest
      -- nothing is left of the left operand, so the pass goes on with the right one
      obtain ⟨ys, ws, later, hq⟩ := ihr c'
      have hk' := hq.known
      obtain ⟨hpass', hready', hbefore', hafter', ⟨rest, hnodes', hrest'⟩, hcomplete'⟩ := hq
      simp only
      generalize r.validate c' = m at hk' hpass' hafter' hnodes' hcomplete' ⊢
      obtain ⟨r', _ | _, c''⟩ := m
      · exact ⟨xs ++ ys, vs ++ ws, later ++ [v], ⟨hpass.append hpass',
          List.forall_mem_append.mpr ⟨hready, hready'⟩, by simp [postorder, hbefore, hbefore'],
          by simp only [postorder, hafter, hafter', List.append_nil, List.append_assoc],
          ⟨rest ++ [binary op l' r' v], by
            rw [List.zipWith_append hpass.length_eq]
            simp only [subtrees, hnodes, hnodes', List.append_nil, List.append_assoc],
            by simp [hrest', view]⟩, by rintro ⟨⟩⟩⟩
      · obtain rfl := hcomplete' rfl
        obtain rfl := List.map_eq_nil_iff.mp hrest'
        refine ⟨xs ++ ys ++ [binary op l' r' v], _, [], ⟨(hpass.append hpass').append
          (Pass.single _ c''), ?_, ?_, ?_, ⟨[], ?_, rfl⟩, fun _ => rfl⟩⟩
        · rw [List.forall_mem_append, List.forall_mem_append]
          refine ⟨⟨hready, hready'⟩, ?_⟩
          have hl := hk rfl _ l'.view_mem_postorder
          have hr := hk' rfl _ r'.view_mem_postorder
          simpa [Ready, operands] using ⟨hl, hr⟩
        · simp [postorder, hbefore, hbefore', view]
        · rw [(makeRoot_tree _ _).1]
          simp only [withView, postorder, hafter, hafter', view, List.append_nil]
        · rw [(makeRoot_tree _ _).1, List.zipWith_append (hpass.append hpass').length_eq,
            List.zipWith_append hpass.length_eq]
          simp only [withView, subtrees, hnodes, hnodes', view, List.append_nil,
            List.zipWith_cons_cons, List.zipWith_nil_right]

lemma validate_known {t : ViewTree} {c : Connection σ} (h : (t.validate c).result = .ok ()) :
    ∀ v ∈ (t.validate c).tree.postorder, v.Known := by
  obtain ⟨xs, vs, later, hp⟩ := validate_passes t c
  exact hp.known h

end ViewTree

end RelAlgebra
