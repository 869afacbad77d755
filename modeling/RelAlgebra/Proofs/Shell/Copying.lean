import RelAlgebra.Proofs.Shell.Writing

/-!
What a tee has written after any number of writes.

The primary sink stores a first part of what is offered, and the copy a first part of what the
primary sink stores. A write that fails on the way breaks neither: what the primary sink took
without a copy only follows bytes that the copy had no room for.
-/

namespace RelAlgebra.Shell

/-! ### How much of a text a limit leaves -/

def upTo : Option ℕ → List UInt8 → List UInt8
  | none, bs => bs
  | some n, bs => bs.take n

lemma Sink.push_fitting {s : Sink} {before : List UInt8} (h : s.held.toList = upTo s.limit before)
    (data : List UInt8) :
    (s.push (data.take (s.fitting data.length))).held.toList = upTo s.limit (before ++ data) := by
  rw [Sink.toList_held_push, h, Sink.fitting]
  have hsize : s.held.size = (upTo s.limit before).length := by rw [← h, Array.length_toList]
  cases hlimit : s.limit with
  | none => simp [upTo]
  | some n =>
    rw [hlimit, upTo, List.length_take] at hsize
    simp only [upTo, List.take_append, List.append_cancel_left_eq]
    rw [List.take_eq_take_iff]
    omega

lemma Sink.fitting_fitting (s : Sink) (n : ℕ) : s.fitting (s.fitting n) = s.fitting n := by
  unfold Sink.fitting
  cases s.limit with
  | none => rfl
  | some limit =>
    simp only
    omega

namespace Tee

/-! ### One write -/

def push (t : Tee) (data : List UInt8) : Tee := ⟨t.primary.push data, t.copy.push data⟩

@[simp] lemma push_nil (t : Tee) : t.push [] = t := by simp [push]

lemma push_push (t : Tee) (as bs : List UInt8) : (t.push as).push bs = t.push (as ++ bs) := by
  simp [push, Sink.push_push]

/-- What the primary sink takes of some data. -/
def taken (t : Tee) (data : List UInt8) : List UInt8 := data.take (t.primary.fitting data.length)

/-- The tee with what the primary sink takes stored there, and what fits of that in the copy. -/
def storing (t : Tee) (data : List UInt8) : Tee :=
  ⟨t.primary.push (t.taken data),
    t.copy.push ((t.taken data).take (t.copy.fitting (t.taken data).length))⟩

lemma storing_taken (t : Tee) (data : List UInt8) : t.storing (t.taken data) = t.storing data := by
  have hlength : (t.taken data).length = t.primary.fitting data.length := by
    rw [taken, List.length_take]
    exact min_eq_left (t.primary.fitting_le _)
  have htaken : t.taken (t.taken data) = t.taken data := by
    rw [taken, hlength, Sink.fitting_fitting, ← hlength, List.take_length]
  rw [storing, htaken, ← storing]

/-- A write stores the same bytes whether it fails or not. If not, they are the ones it reports, and
the copy had room for all of them. -/
lemma write_cases (data : List UInt8) (t : Tee) :
    (∃ e, Writer.write data t = (.error e, t.storing data)) ∨
      ∃ n, Writer.write data t = (.ok n, t.storing data) ∧ t.taken data = data.take n ∧
        t.storing data = t.push (data.take n) := by
  have hwrite : Writer.write data t = Tee.write data t := rfl
  rw [Tee.write, Sink.write_eq] at hwrite
  by_cases hfull : t.primary.fitting data.length = 0 ∧ data ≠ []
  · refine .inl ⟨.writerFull, ?_⟩
    rw [hwrite, if_pos hfull]
    simp [storing, taken, hfull.1]
  · rw [if_neg hfull] at hwrite
    simp only [writeAll_sink] at hwrite
    by_cases hfits : t.copy.fitting (t.taken data).length = (t.taken data).length
    · have hstoring : t.storing data = t.push (t.taken data) := by
        rw [storing, hfits, List.take_length, push]
      refine .inr ⟨t.primary.fitting data.length, ?_, rfl, hstoring⟩
      rw [hstoring, push, taken]
      rw [taken] at hfits
      rw [hwrite, if_pos hfits, hfits, List.take_length]
    · refine .inl ⟨.writerFull, ?_⟩
      rw [taken] at hfits
      rw [hwrite, if_neg hfits]
      rfl

/-! ### What every write keeps -/

/-- The primary sink, with limit `p`, holds a first part of all that was offered, and the copy, with
limit `c`, a first part of what the primary sink holds. -/
structure Follows (p c : Option ℕ) (t : Tee) (offered : List UInt8) : Prop where
  limits : t.primary.limit = p ∧ t.copy.limit = c
  primary : t.primary.held.toList = upTo p offered
  copy : t.copy.held.toList = upTo c t.primary.held.toList

lemma Follows.storing {p c : Option ℕ} {t : Tee} {offered : List UInt8}
    (h : Follows p c t offered) (data : List UInt8) :
    Follows p c (t.storing data) (offered ++ data) := by
  obtain ⟨⟨rfl, rfl⟩, hprimary, hcopy⟩ := h
  have hstored := Sink.push_fitting hcopy (t.taken data)
  rw [← Sink.toList_held_push] at hstored
  exact ⟨⟨rfl, rfl⟩, Sink.push_fitting hprimary data, hstored⟩

/-- Some data was offered to a tee and a part of it reported as written. -/
structure Offered (t : Tee) (data : List UInt8) (reported : Except IoFault (List UInt8))
    (t' : Tee) : Prop where
  follows : ∀ {p c : Option ℕ} {offered : List UInt8}, Follows p c t offered →
    Follows p c t' (offered ++ data)
  /-- What is reported is stored in both sinks. -/
  stored : ∀ bs, reported = .ok bs → t' = t.push bs

lemma offered_failed (t : Tee) (data : List UInt8) (e : IoFault) :
    t.Offered data (.error e) (t.storing data) :=
  ⟨fun h => h.storing data, by rintro bs ⟨⟩⟩

lemma offered_reported {data : List UInt8} {t t' : Tee} {n : ℕ}
    (h : Writer.write data t = (.ok n, t')) :
    t' = t.storing data ∧ t.Offered (data.take n) (.ok (data.take n)) t' := by
  rcases write_cases data t with ⟨e, hwrite⟩ | ⟨m, hwrite, htaken, hpush⟩
  · rw [h] at hwrite
    cases hwrite
  · rw [h] at hwrite
    cases hwrite
    refine ⟨rfl, fun hfollows => ?_, ?_⟩
    · rw [← htaken, ← storing_taken]
      exact hfollows.storing _
    · rintro bs ⟨⟩
      exact hpush

lemma write_state (data : List UInt8) (t : Tee) : (Writer.write data t).2 = t.storing data := by
  rcases write_cases data t with ⟨e, hwrite⟩ | ⟨n, hwrite, -, -⟩ <;> rw [hwrite]

lemma Offered.append {t t₁ t₂ : Tee} {as bs : List UInt8} {r : Except IoFault (List UInt8)}
    (h₁ : t.Offered as (.ok as) t₁) (h₂ : t₁.Offered bs r t₂) :
    t.Offered (as ++ bs) (r.map (as ++ ·)) t₂ where
  follows h := by
    rw [← List.append_assoc]
    exact h₂.follows (h₁.follows h)
  stored cs hcs := by
    cases r with
    | error e => cases hcs
    | ok ds =>
      cases hcs
      rw [h₂.stored ds rfl, h₁.stored as rfl, push_push]

lemma offered_writeAll (data : List UInt8) (t : Tee) :
    t.Offered data ((Shell.writeAll data t).1.map fun _ => data) (Shell.writeAll data t).2 := by
  fun_induction Shell.writeAll data t with
  | case1 t =>
    refine ⟨fun h => by simpa using h, ?_⟩
    rintro bs ⟨⟩
    simp
  | case2 t b bs e t' hwrite =>
    have hstate := write_state (b :: bs) t
    rw [hwrite] at hstate
    subst hstate
    exact offered_failed t (b :: bs) e
  | case3 t b bs t' hwrite =>
    obtain ⟨rfl, -⟩ := offered_reported hwrite
    exact offered_failed t (b :: bs) .nothingWritten
  | case4 t b bs n t' hwrite ih =>
    -- the next write is offered what this one has not reported
    have hfirst := (offered_reported hwrite).2
    have hsplit : (b :: bs).take (n + 1) ++ bs.drop n = b :: bs := by simp
    have hall := hfirst.append ih
    rw [hsplit] at hall
    cases hresult : (Shell.writeAll (bs.drop n) t').1 with
    | error e => rwa [hresult] at hall
    | ok u =>
      rw [hresult] at hall
      simpa [Except.map, hsplit] using hall

/-! ### Any number of writes -/

inductive Op where
  | write (data : List UInt8)
  | writeAll (data : List UInt8)

def Op.data : Op → List UInt8
  | write data => data
  | writeAll data => data

/-- Does what the operation says. A success tells which bytes are reported as written. -/
def perform (t : Tee) : Op → Except IoFault (List UInt8) × Tee
  | .write data =>
    let (result, t') := Writer.write data t
    (result.map data.take, t')
  | .writeAll data =>
    let (result, t') := Shell.writeAll data t
    (result.map fun _ => data, t')

def performAll (t : Tee) : List Op → List (Except IoFault (List UInt8)) × Tee
  | [] => ([], t)
  | op :: ops =>
    let (report, t') := t.perform op
    let (reports, t'') := t'.performAll ops
    (report :: reports, t'')

lemma offered_perform (t : Tee) (op : Op) :
    t.Offered op.data (t.perform op).1 (t.perform op).2 := by
  cases op with
  | write data =>
    rcases hwrite : Writer.write data t with ⟨result, t'⟩
    have hstate := write_state data t
    rw [hwrite] at hstate
    subst hstate
    rw [perform, hwrite]
    cases result with
    | error e => exact offered_failed t data e
    | ok n => exact ⟨fun h => h.storing data, (offered_reported hwrite).2.stored⟩
  | writeAll data => exact offered_writeAll data t

lemma performAll_follows {p c : Option ℕ} {t : Tee} {offered : List UInt8}
    (h : Follows p c t offered) (ops : List Op) :
    Follows p c (t.performAll ops).2 (offered ++ ops.flatMap Op.data) := by
  induction ops generalizing t offered with
  | nil => simpa [performAll] using h
  | cons op ops ih =>
    rw [List.flatMap_cons, ← List.append_assoc]
    exact ih ((offered_perform t op).follows h)

lemma performAll_stored {t : Tee} {ops : List Op} {reported : List (List UInt8)}
    (h : (t.performAll ops).1 = reported.map .ok) :
    (t.performAll ops).2 = t.push reported.flatten := by
  induction ops generalizing t reported with
  | nil =>
    obtain rfl := List.map_eq_nil_iff.mp h.symm
    simp [performAll]
  | cons op ops ih =>
    obtain ⟨bs, rest, rfl, hbs, hrest⟩ := List.map_eq_cons_iff.mp h.symm
    have hfirst := (offered_perform t op).stored bs hbs.symm
    rw [List.flatten_cons, ← push_push, ← hfirst]
    exact ih hrest.symm

/-- **After any writes the copy holds the first bytes of what the primary sink holds**, as many as
its limit allows, and the primary sink the first bytes of what was offered. As long as no write has
failed, both hold all that was reported as written. -/
theorem performAll_copies (p c : Option ℕ) (ops : List Op) :
    let run := Tee.performAll ⟨{ limit := p }, { limit := c }⟩ ops
    run.2.copy.held.toList = upTo c run.2.primary.held.toList ∧
      run.2.primary.held.toList = upTo p (ops.flatMap Op.data) ∧
      ∀ reported : List (List UInt8), run.1 = reported.map .ok →
        run.2.primary.held.toList = reported.flatten ∧
          run.2.copy.held.toList = reported.flatten := by
  intro run
  have hempty (limit : Option ℕ) : upTo limit [] = [] := by cases limit <;> simp [upTo]
  have hstart : Follows p c ⟨{ limit := p }, { limit := c }⟩ [] :=
    ⟨⟨rfl, rfl⟩, (hempty p).symm, (hempty c).symm⟩
  have hend := performAll_follows hstart ops
  refine ⟨hend.copy, hend.primary, fun reported hreported => ?_⟩
  rw [performAll_stored hreported]
  simp [push]

-- The copy is full in the middle of the second write; what the third one stores is not copied.
example :
    let run := Tee.performAll ⟨{ limit := some 5 }, { limit := some 3 }⟩
      [.write [1, 2], .writeAll [3, 4], .write [5, 6]]
    run.2.primary.held.toList = [1, 2, 3, 4, 5] ∧ run.2.copy.held.toList = [1, 2, 3] ∧
      run.1.map Except.isOk = [true, false, false] := by
  decide +kernel

end Tee

end RelAlgebra.Shell
