import RelAlgebra.Proofs.Database.Batches
import RelAlgebra.Proofs.Database.Patterns
import RelAlgebra.Proofs.Database.Watched
import RelAlgebra.Proofs.Text.Order

/-!
The relations that there are after requests of an engine.

The engine itself is not described here. What is known of it are a few laws: how it names its
objects, that its catalogue describes them all, what a pattern means to it and how it sorts. A
creation then adds the name of its relation unless it is there, and a drop takes it away, so the
names in the catalogue can be told from the statements that were run.
-/

namespace RelAlgebra

def SameName (a b : String) : Prop := a.toList.map Char.toLower = b.toList.map Char.toLower

instance (a b : String) : Decidable (SameName a b) := inferInstanceAs (Decidable (_ = _))

lemma Reserved.congr {a b : String} (h : SameName a b) (ha : Reserved a) : Reserved b := by
  unfold Reserved at ha ⊢
  rwa [← h]

inductive Change where
  | create (name : String)
  | drop (name : String)
  /-- It neither creates nor drops a relation. -/
  | keep
  deriving DecidableEq, Repr

namespace Change

/-- The names after a change. One that is there already is not created again. -/
def apply (names : List String) : Change → List String
  | create name => if ∃ n ∈ names, SameName n name then names else names ++ [name]
  | drop name => names.filter fun n => ¬ SameName n name
  | keep => names

/-- Nothing is created under a reserved name. -/
def Allowed : Change → Prop
  | create name => ¬ Reserved name
  | drop _ | keep => True

variable {names : List String} {c : Change}

lemma unreserved_apply (hc : c.Allowed) (h : ∀ n ∈ names, ¬ Reserved n) :
    ∀ n ∈ c.apply names, ¬ Reserved n := by
  cases c with
  | create name =>
    rw [apply]
    split
    · exact h
    · exact List.forall_mem_append.mpr ⟨h, by simpa [Allowed] using hc⟩
  | drop name => exact fun n hn => h n (List.mem_of_mem_filter hn)
  | keep => exact h

lemma distinct_apply (c : Change) (h : names.Pairwise fun a b => ¬ SameName a b) :
    (c.apply names).Pairwise fun a b => ¬ SameName a b := by
  cases c with
  | create name =>
    rw [apply]
    split
    · exact h
    · next hnone =>
      refine List.pairwise_append.mpr ⟨h, List.pairwise_singleton _ _, fun a ha b hb hsame => ?_⟩
      rw [List.mem_singleton.mp hb] at hsame
      exact hnone ⟨a, ha, hsame⟩
  | drop name => exact h.sublist List.filter_sublist
  | keep => exact h

lemma exists_apply_perm {all kept : List String} (hc : c.Allowed) (hkept : ∀ n ∈ kept, Reserved n)
    (h : all.Perm (names ++ kept)) :
    ∃ kept', (∀ n ∈ kept', Reserved n) ∧ (c.apply all).Perm (c.apply names ++ kept') := by
  cases c with
  | create name =>
    -- no name that is kept apart can be that of the new relation, which is not reserved
    have hiff : (∃ n ∈ all, SameName n name) ↔ ∃ n ∈ names, SameName n name := by
      constructor
      · rintro ⟨n, hn, hsame⟩
        rcases List.mem_append.mp (h.subset hn) with hnames | hreserved
        · exact ⟨n, hnames, hsame⟩
        · exact absurd ((hkept n hreserved).congr hsame) hc
      · rintro ⟨n, hn, hsame⟩
        exact ⟨n, h.symm.subset (List.mem_append_left _ hn), hsame⟩
    refine ⟨kept, hkept, ?_⟩
    rw [apply, apply]
    simp only [hiff]
    split
    · exact h
    · refine (h.append_right [name]).trans ?_
      rw [List.append_assoc, List.append_assoc]
      exact List.perm_append_comm.append_left names
  | drop name =>
    refine ⟨kept.filter fun n => ¬ SameName n name,
      fun n hn => hkept n (List.mem_of_mem_filter hn), ?_⟩
    rw [apply, apply, ← List.filter_append]
    exact h.filter _
  | keep => exact ⟨kept, hkept, h⟩

end Change

/-- The names of the relations that exist after changes, with none before them. -/
def existing (changes : List Change) : List String := changes.foldl Change.apply []

/-! ### What is known of an engine -/

namespace Engine

variable {σ : Type} [Engine σ] {p : Prepared σ} {db db' : σ}

lemma collect_ok {result : QueryResult} (h : collect p db = (.ok result, db')) :
    ∃ rows, Engine.rows p db = (.ok rows, db') := by
  unfold collect at h
  split at h
  · next rows _ hrows =>
    cases h
    exact ⟨rows, hrows⟩
  · cases h

/-- The statement has been run without a failure, for its rows or for the number of changes. -/
def Passes (s : Source σ) (db db' : σ) : Prop :=
  ∃ p, prepare s db = .ok p ∧
    ((∃ rows, Engine.rows p db = (.ok rows, db')) ∨ ∃ n, Engine.changes p db = (.ok n, db'))

lemma passes_of_execute {s : Source σ} {r : CommandResult} (h : execute s db = (.ok r, db')) :
    Passes s db db' := by
  unfold execute at h
  split at h
  · next p hp =>
    refine ⟨p, hp, ?_⟩
    unfold run at h
    split at h
    · split at h
      · next hcollect =>
        cases h
        exact .inl (collect_ok hcollect)
      · cases h
    · split at h
      · next n _ hchanges =>
        cases h
        exact .inr ⟨n, hchanges⟩
      · cases h
  · cases h

/-- The statements have been run one after the other, each without a failure. -/
inductive Runs : List (Source σ) → σ → σ → Prop
  | nil (db : σ) : Runs [] db db
  | cons {s : Source σ} {ss : List (Source σ)} {db db₁ db₂ : σ} (first : Passes s db db₁)
    (rest : Runs ss db₁ db₂) : Runs (s :: ss) db db₂

lemma Runs.append {xs ys : List (Source σ)} {db₁ db₂ db₃ : σ} (hx : Runs xs db₁ db₂)
    (hy : Runs ys db₂ db₃) : Runs (xs ++ ys) db₁ db₃ := by
  induction hx with
  | nil => exact hy
  | cons first _ ih => exact .cons first (ih hy)

lemma runs_executeAll {ss : List (Source σ)} (h : ∀ e, .error e ∉ (executeAll ss db).1) :
    Runs ss db (executeAll ss db).2 := by
  induction ss generalizing db with
  | nil => exact .nil db
  | cons s ss ih =>
    rcases hs : execute s db with ⟨e | r, db₁⟩
    · rw [executeAll_of_error hs] at h
      exact absurd List.mem_cons_self (h e)
    · rw [executeAll_of_ok hs] at h ⊢
      have hrest : ∀ e, .error e ∉ (executeAll ss db₁).1 := fun e he =>
        h e (List.mem_cons_of_mem _ he)
      exact .cons (passes_of_execute hs) (ih hrest)

lemma getLast?_of_error {ss : List (Source σ)} {e : DbError}
    (h : .error e ∈ (executeAll ss db).1) :
    (executeAll ss db).1.getLast? = some (.error e) := by
  induction ss generalizing db with
  | nil => cases h
  | cons s ss ih =>
    rcases hs : execute s db with ⟨f | r, db₁⟩
    · rw [executeAll_of_error hs] at h ⊢
      rw [List.mem_singleton.mp h]
      rfl
    · rw [executeAll_of_ok hs] at h ⊢
      have htail : .error e ∈ (executeAll ss db₁).1 := by simpa using h
      rw [List.getLast?_cons, ih htail]
      rfl

end Engine

namespace SqlEngine

open Engine

variable {σ : Type} [SqlEngine σ]

def relationNames (objects : List CatalogueObject) : List String :=
  (objects.filter fun o => relationKinds.contains o.kind).map CatalogueObject.name

/-- The catalogue describes a relation for each of the names, and besides them only such as the
engine keeps for itself. -/
def Describes (db : σ) (names : List String) : Prop :=
  ∃ objects kept, catalogue db = .ok objects ∧ (relationNames objects).Perm (names ++ kept) ∧
    ∀ n ∈ kept, Reserved n

/-- What is known of an engine whose statements do to the relations what `change?` says, as far as
it tells. -/
structure Laws (change? : Source σ → Option Change) : Prop where
  /-- No relation is created under a reserved name. -/
  reserves : ∀ {s : Source σ} {name : String} {db db' : σ},
    change? s = some (.create name) → Passes s db db' → ¬ Reserved name
  /-- The catalogue describes every relation, also after a statement. -/
  describes : ∀ {s : Source σ} {c : Change} {db db' : σ} {names : List String},
    change? s = some c → Passes s db db' → Describes db names → Describes db' (c.apply names)
  /-- What a pattern means. -/
  like_iff : ∀ pattern text, like σ pattern text = true ↔ Fits pattern.toList text.toList
  /-- Texts are sorted by their bytes. -/
  ordered : ∀ texts, (ordered σ texts).Perm texts ∧
    (ordered σ texts).Pairwise fun a b => Text.bytes a ≤ Text.bytes b

/-! ### Histories -/

/-- The relations of the engine have just these names, which are all allowed and different. -/
structure Holds (names : List String) (db : σ) : Prop where
  describes : Describes db names
  unreserved : ∀ n ∈ names, ¬ Reserved n
  distinct : names.Pairwise fun a b => ¬ SameName a b

lemma Describes.holds {db : σ} (h : Describes db []) : Holds [] db :=
  ⟨h, by simp, List.Pairwise.nil⟩

variable {change? : Source σ → Option Change} {names : List String} {db db' : σ}

lemma Holds.nodup (h : Holds names db) : names.Nodup := by
  refine h.distinct.imp ?_
  rintro a b hdiffer rfl
  exact hdiffer rfl

lemma Laws.allowed (laws : Laws change?) {s : Source σ} {c : Change} (hc : change? s = some c)
    (hs : Passes s db db') : c.Allowed := by
  cases c with
  | create name => exact laws.reserves hc hs
  | drop name => trivial
  | keep => trivial

lemma Laws.holds_apply (laws : Laws change?) {s : Source σ} {c : Change}
    (hc : change? s = some c) (hs : Passes s db db') (hdb : Holds names db) :
    Holds (c.apply names) db' where
  describes := laws.describes hc hs hdb.describes
  unreserved := Change.unreserved_apply (laws.allowed hc hs) hdb.unreserved
  distinct := Change.distinct_apply c hdb.distinct

lemma Laws.holds_of_runs (laws : Laws change?) {ss : List (Source σ)} {changes : List Change}
    (hruns : Runs ss db db') (hchanges : ss.map change? = changes.map some)
    (hdb : Holds names db) : Holds (changes.foldl Change.apply names) db' := by
  induction hruns generalizing names changes with
  | nil db =>
    obtain rfl := List.map_eq_nil_iff.mp hchanges.symm
    exact hdb
  | cons first _ ih =>
    cases changes with
    | nil => cases hchanges
    | cons c changes =>
      obtain ⟨hc, hrest⟩ := List.cons.inj hchanges
      have hheld := ih hrest (laws.holds_apply hc first hdb)
      exact hheld

/-! ### Requests -/

lemma runs_executeText {sql : String} (h : (executeText sql db).1 = .ok ()) :
    Runs (statements sql) db (executeText sql db).2 := by
  have hstate : (executeText sql db).2 = (executeAll (statements sql) db).2 := by
    unfold executeText executeBatch
    dsimp only
    split <;> rfl
  rw [hstate]
  refine runs_executeAll fun e he => ?_
  have hlast : (executeBatch sql db).1.getLast? = some (.error e) := getLast?_of_error he
  rw [executeText] at h
  simp only [hlast] at h
  cases h

lemma runs_query {sql : String} {result : QueryResult} (h : (query sql db).1 = .ok result) :
    Runs ((statements sql).take 1) db (query sql db).2 := by
  rw [query, prepareFirst] at h ⊢
  cases hsources : statements (σ := σ) sql with
  | nil =>
    rw [hsources] at h
    cases h
  | cons s rest =>
    simp only [hsources] at h ⊢
    cases hp : Engine.prepare s db with
    | error e =>
      rw [hp] at h
      cases h
    | ok p =>
      simp only [hp] at h ⊢
      obtain ⟨rows, hrows⟩ := collect_ok (Prod.ext h rfl)
      exact .cons ⟨p, hp, .inl ⟨rows, hrows⟩⟩ (.nil _)

end SqlEngine

namespace Request

open Engine SqlEngine

/-- The statements that a request runs if it does not fail. -/
def sources (σ : Type) [SqlEngine σ] : Request → List (Source σ)
  | createView sql | execCommands sql => statements sql
  | dropView name => statements (Sql.dropView name)
  | query sql => (statements sql).take 1
  | tableSchema _ | listRelations => []

variable {σ : Type} [SqlEngine σ] {db : σ}

lemma runs_sources {r : Request} (h : (r.run db).1 = none) :
    Runs (r.sources σ) db (r.run db).2 := by
  cases r with
  | createView sql =>
    obtain ⟨⟨⟩, hok⟩ := failure?_eq_none_iff.mp h
    exact runs_executeText hok
  | dropView name =>
    obtain ⟨⟨⟩, hok⟩ := failure?_eq_none_iff.mp h
    exact runs_executeText hok
  | query sql =>
    obtain ⟨result, hok⟩ := failure?_eq_none_iff.mp h
    exact runs_query hok
  | execCommands sql =>
    refine runs_executeAll fun e he => ?_
    have hnone : failure? (Except.error e : Except DbError CommandResult) = none :=
      List.findSome?_eq_none_iff.mp h _ he
    cases hnone
  | tableSchema name => exact .nil db
  | listRelations => exact .nil db

def afterAll (requests : List Request) (db : σ) : σ :=
  requests.foldl (fun db r => (r.run db).2) db

/-- The failures that requests are answered with, in order. -/
def failures : List Request → σ → List DbError
  | [], _ => []
  | r :: rest, db => (r.run db).1.toList ++ failures rest (r.run db).2

lemma runs_requests {requests : List Request} (h : failures requests db = []) :
    Runs (requests.flatMap (sources σ)) db (afterAll requests db) := by
  induction requests generalizing db with
  | nil => exact .nil db
  | cons r rest ih =>
    obtain ⟨hr, hrest⟩ := List.append_eq_nil_iff.mp h
    exact (runs_sources (Option.toList_eq_nil_iff.mp hr)).append (ih hrest)

end Request

end RelAlgebra
