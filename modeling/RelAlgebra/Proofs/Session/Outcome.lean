import RelAlgebra.Proofs.Session.History

/-!
How an evaluation comes out.

Some calls are answered with a fault of the program if they are made out of order: a generator on a
node that it is not for, the columns of a view that is not there, the query of such a view. The
calls of an evaluation are listed along the recursion that makes them. A node comes to its turn only
when the views of its operands are there, so each of them is in order, whatever the database
answers, and an evaluation gives a table, or tells of a view that could not be made or of a query
that failed.
-/

namespace RelAlgebra

/-- A call that is answered with a fault of the program if it is made out of order. -/
inductive Call where
  /-- The generator of an operator is called on a node. -/
  | generate (o : Operator) (t : ViewTree)
  /-- The statement that creates the view of a node is asked for as that of a renaming. -/
  | renameView (t : ViewTree)
  /-- The columns of the view of a node are asked for. -/
  | knownSchema (t : ViewTree)
  /-- The view of a node is queried. -/
  | execute (t : ViewTree)

/-- A generator does not turn away the node it is called on, the view whose columns are asked for
has been made, and so has the one that is queried. -/
def Call.InOrder : Call → Prop
  | generate o t => ∀ d, t.generate o d ≠ .error o.misused
  | renameView t => ∀ d, t.renameView d ≠ .error ViewTree.misusedRenaming
  | knownSchema t => t.view.Known
  | execute t => t.view.status = .correct

/-- The error tells of a view that could not be made, unless one of the calls was out of order. -/
def Error.Explained (calls : List Call) (err : Error) : Prop :=
  (∃ view operator reason source, err = .validation view operator reason source) ∨
    ∃ call ∈ calls, ¬ call.InOrder

lemma Error.Explained.mono {calls calls' : List Call} {err : Error} (h : err.Explained calls)
    (hsub : calls ⊆ calls') : err.Explained calls' := by
  refine h.imp_right ?_
  rintro ⟨call, hcall, hout⟩
  exact ⟨call, hsub hcall, hout⟩

namespace ViewTree

/-! ### The statement of one node -/

/-- The calls made to write the statement of a node. Not all operators ask for the columns of their
operands. -/
def statementCalls (t : ViewTree) : List Call :=
  (match t.operator with
    | .rename => [.renameView t]
    | _ => []) ++ .generate t.operator t :: t.operands.map .knownSchema

lemma mem_statementCalls {t : ViewTree} {call : Call} :
    call ∈ t.statementCalls ↔ t.operator = .rename ∧ call = .renameView t ∨
      call = .generate t.operator t ∨ ∃ o ∈ t.operands, call = .knownSchema o := by
  have hrenaming : (call ∈ match t.operator with
      | .rename => [Call.renameView t]
      | _ => []) ↔ t.operator = .rename ∧ call = .renameView t := by
    cases t.operator <;> simp
  rw [statementCalls, List.mem_append, List.mem_cons, hrenaming, List.mem_map]
  simp only [eq_comm]

lemma Ready.statementCalls_inOrder {t : ViewTree} (h : t.Ready) :
    ∀ call ∈ t.statementCalls, call.InOrder := by
  intro call hcall
  rcases mem_statementCalls.mp hcall with ⟨hrename, rfl⟩ | rfl | ⟨o, ho, rfl⟩
  · exact fun d hmisused => renameView_eq_misused_iff.mp hmisused hrename
  · exact fun d hmisused => generate_eq_misused_iff.mp hmisused rfl
  · exact h o ho

lemma createStatement_explained {t : ViewTree} {d : Dialect} {err : Error}
    (h : t.createStatement d = .error err) : err.Explained t.statementCalls := by
  rcases query_error (createStatement_eq_error_iff.mp h) with ⟨reason, rfl⟩ | ⟨o, ho, hunknown⟩
  · exact .inl ⟨_, _, _, _, rfl⟩
  · refine .inr ⟨.knownSchema o, mem_statementCalls.mpr (.inr (.inr ⟨o, ho, rfl⟩)), ?_⟩
    intro hknown
    obtain ⟨schema, hschema⟩ := knownSchema_of_known hknown
    rw [hschema] at hunknown
    cases hunknown

variable {σ : Type} [Database σ]

lemma makeRoot_explained {t : ViewTree} {c : Connection σ} {err : Error}
    (h : (t.makeRoot c).result = .error err) : err.Explained t.statementCalls := by
  have hattempt := attempt_makeRoot t c
  generalize t.makeRoot c = m at hattempt h
  cases hattempt with
  | unwritten written =>
    cases h
    exact createStatement_explained written
  | made => cases h
  | _ =>
    cases h
    exact .inl ⟨_, _, _, _, rfl⟩

/-! ### All nodes -/

/-- The calls made while the views of a tree are made, in order. -/
def calls : ViewTree → Connection σ → List Call
  | relation name v, _ => (relation name v).statementCalls
  | unary op t v, c =>
    t.calls c ++
      match t.validate c with
      | ⟨t, .ok (), _⟩ => (unary op t v).statementCalls
      | ⟨_, .error _, _⟩ => []
  | binary op l r v, c =>
    l.calls c ++
      match l.validate c with
      | ⟨l, .ok (), c⟩ =>
        r.calls c ++
          match r.validate c with
          | ⟨r, .ok (), _⟩ => (binary op l r v).statementCalls
          | ⟨_, .error _, _⟩ => []
      | ⟨_, .error _, _⟩ => []

lemma validate_explained {t : ViewTree} {c : Connection σ} {err : Error}
    (h : (t.validate c).result = .error err) : err.Explained (t.calls c) := by
  induction t generalizing c with
  | relation name v => exact makeRoot_explained h
  | unary op t v ih =>
    have ht := ih (c := c)
    rw [validate] at h
    rw [calls]
    generalize t.validate c = m at ht h ⊢
    -- the error is that of the operand, or the operand was made and the root has failed
    obtain ⟨t', _ | _, c'⟩ := m
    · exact (ht h).mono (List.subset_append_left _ _)
    · exact (makeRoot_explained h).mono (List.subset_append_right _ _)
  | binary op l r v ihl ihr =>
    have hl := ihl (c := c)
    rw [validate] at h
    rw [calls]
    generalize l.validate c = m at hl h ⊢
    obtain ⟨l', _ | _, c'⟩ := m
    · exact (hl h).mono (List.subset_append_left _ _)
    · have hr := ihr (c := c')
      simp only at h ⊢
      generalize r.validate c' = m at hr h ⊢
      obtain ⟨r', _ | _, c''⟩ := m
      · refine (hr h).mono ?_
        exact List.subset_append_of_subset_right _ (List.subset_append_left _ _)
      · refine (makeRoot_explained h).mono ?_
        exact List.subset_append_of_subset_right _ (List.subset_append_right _ _)

lemma validate_root_known {t : ViewTree} {c : Connection σ} (h : (t.validate c).result = .ok ()) :
    (t.validate c).tree.view.Known :=
  validate_known h _ (view_mem_postorder _)

lemma calls_inOrder (t : ViewTree) (c : Connection σ) : ∀ call ∈ t.calls c, call.InOrder := by
  induction t generalizing c with
  | relation name v => exact Ready.statementCalls_inOrder (by simp [Ready, operands])
  | unary op t v ih =>
    rw [calls, List.forall_mem_append]
    refine ⟨ih c, ?_⟩
    -- the statement of the root is written only when the operand has been made
    have hknown := validate_root_known (t := t) (c := c)
    generalize t.validate c = m at hknown ⊢
    obtain ⟨t', _ | _, c'⟩ := m
    · simp
    · exact Ready.statementCalls_inOrder (by simpa [Ready, operands] using hknown rfl)
  | binary op l r v ihl ihr =>
    rw [calls, List.forall_mem_append]
    refine ⟨ihl c, ?_⟩
    have hleft := validate_root_known (t := l) (c := c)
    generalize l.validate c = m at hleft ⊢
    obtain ⟨l', _ | _, c'⟩ := m
    · simp
    · simp only
      rw [List.forall_mem_append]
      refine ⟨ihr c', ?_⟩
      have hright := validate_root_known (t := r) (c := c')
      generalize r.validate c' = m at hright ⊢
      obtain ⟨r', _ | _, c''⟩ := m
      · simp
      · exact Ready.statementCalls_inOrder
          (by simpa [Ready, operands] using ⟨hleft rfl, hright rfl⟩)

lemma execute_of_correct {t : ViewTree} (h : t.view.status = .correct) (c : Connection σ) :
    (∃ table, (t.execute c).1 = .ok table) ∨
      ∃ source, (t.execute c).1 = .error (.execution source) := by
  simp only [execute, if_pos h]
  split
  · exact .inl ⟨_, rfl⟩
  · exact .inr ⟨_, rfl⟩

end ViewTree

namespace Connection

variable {σ : Type} [Database σ]

lemma releaseAll_cleanup (c : Connection σ) (vs : List View) :
    ∀ err ∈ (c.releaseAll vs).1, ∃ view source, err = .cleanup view source := by
  induction vs generalizing c with
  | nil => simp [releaseAll]
  | cons v vs ih =>
    intro err herr
    rw [releaseAll, List.mem_append, Option.mem_toList, release_failure] at herr
    rcases herr with hv | hvs
    · split at hv
      · split at hv
        · cases hv
        · cases hv
          exact ⟨_, _, rfl⟩
      · cases hv
    · exact ih _ err hvs

end Connection

def Evaluation.Refused (r : Evaluation) : Prop :=
  ∃ view operator reason source, r.result = .error (.validation view operator reason source)

/-- All that an evaluation may come out as. -/
structure Evaluation.Settled (r : Evaluation) : Prop where
  result : (∃ table, r.result = .ok table) ∨ r.Refused ∨
    ∃ source, r.result = .error (.execution source)
  cleanup : ∀ err ∈ r.cleanupErrors, ∃ view source, err = .cleanup view source
  validated_iff : r.validatedTree.isSome ↔ ¬ r.Refused
  failed_iff : r.errorTree.isSome ↔ r.Refused

namespace Session

open ViewTree

variable {σ : Type} [Database σ] (s : Session σ) (e : Expr)

/-- The calls made in an evaluation, in order: those that make the views, and the query of the root
if all of them were made. -/
def calls : List Call :=
  (s.tree e).calls (s.opened e) ++
    match (s.made e).result with
    | .ok () => [.execute (s.made e).tree]
    | .error _ => []

lemma calls_inOrder : ∀ call ∈ s.calls e, call.InOrder := by
  rw [calls, List.forall_mem_append]
  refine ⟨ViewTree.calls_inOrder _ _, ?_⟩
  cases h : (s.made e).result with
  | ok u =>
    have hcorrect : (s.made e).tree.view.status = .correct := (validate_root_known h).1
    simpa [Call.InOrder] using hcorrect
  | error err => simp

/-- An error made of the calls of an evaluation tells of a view, since all of them are in order. -/
lemma evaluate_settled : (s.evaluate e).1.Settled := by
  have hcleanup := (s.queried e).releaseAll_cleanup (s.made e).tree.views
  have horder := s.calls_inOrder e
  rw [evaluate_eq]
  rw [calls, List.forall_mem_append] at horder
  cases h : (s.made e).result with
  | ok u =>
    rw [h] at horder
    have hcorrect : (s.made e).tree.view.status = .correct :=
      horder.2 (.execute (s.made e).tree) (List.mem_singleton_self _)
    have hexecuted := execute_of_correct hcorrect (s.made e).conn
    have hunrefused : ¬ ∃ view operator reason source,
        ((s.made e).tree.execute (s.made e).conn).1 =
          .error (.validation view operator reason source) := by
      rintro ⟨view, operator, reason, source, hv⟩
      exact execute_ne_validation _ _ _ _ _ _ hv
    exact ⟨hexecuted.imp_right .inr, hcleanup, by simpa [Evaluation.Refused] using hunrefused,
      by simpa [Evaluation.Refused] using hunrefused⟩
  | error err =>
    rcases validate_explained h with ⟨view, operator, reason, source, rfl⟩ | ⟨call, hcall, hout⟩
    · exact ⟨.inr (.inl ⟨_, _, _, _, rfl⟩), hcleanup, by simp [Evaluation.Refused],
        by simp [Evaluation.Refused]⟩
    · exact absurd (horder.1 call hcall) hout

/-- **No call of an evaluation is made out of order**, whatever the database answers. No generator
is called on a node of another operator, no columns are asked of a view that has not been made, and
the root is queried only when its view is there. So the result is a table, a view that could not be
made or a query that failed, and the trees that are shown tell which. -/
theorem evaluate_in_order :
    (s.evaluate e).1.Settled ∧
      (∀ fault, (s.evaluate e).1.result ≠ .error (.internal fault)) ∧
      ∀ call ∈ s.calls e, call.InOrder := by
  have hsettled := evaluate_settled s e
  refine ⟨hsettled, fun fault hfault => ?_, calls_inOrder s e⟩
  rcases hsettled.result with ⟨table, h⟩ | ⟨view, operator, reason, source, h⟩ | ⟨source, h⟩ <;>
    rw [hfault] at h <;> cases h

end Session

end RelAlgebra
