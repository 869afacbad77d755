import RelAlgebra.Proofs.Store.Laws

/-!
Which relations are listed.

The names that an engine keeps for itself are left out of the listing by a pattern that fits some
other names too. Those are overlooked, and all other relations are listed, each once and in the
order of the bytes of their names.
-/

namespace RelAlgebra

/-- The names that have a property, each once and in the order of their bytes. -/
structure Listing (names : List String) (p : String → Prop) : Prop where
  ascending : names.Pairwise fun a b => Text.bytes a < Text.bytes b
  mem : ∀ name, name ∈ names ↔ p name

lemma Listing.unique {names names' : List String} {p : String → Prop} (h : Listing names p)
    (h' : Listing names' p) : names = names' := by
  have hnodup {l : List String} (hl : l.Pairwise fun a b => Text.bytes a < Text.bytes b) :
      l.Nodup := by
    refine hl.imp ?_
    rintro a b hlt rfl
    exact List.lt_irrefl _ hlt
  have hperm : names.Perm names' :=
    (List.perm_ext_iff_of_nodup (hnodup h.ascending) (hnodup h'.ascending)).mpr fun name =>
      (h.mem name).trans (h'.mem name).symm
  refine hperm.eq_of_pairwise (fun a b _ _ hab hba => ?_) h.ascending h'.ascending
  exact absurd (List.lt_trans hab hba) (List.lt_irrefl _)

namespace SqlEngine

open Engine

variable {σ : Type} [SqlEngine σ] {change? : Source σ → Option Change} {names : List String}
  {db : σ}

lemma listRelations_eq {objects : List CatalogueObject} (h : catalogue db = .ok objects) :
    Database.listRelations db = (.ok (SqlEngine.ordered σ
      ((relationNames objects).filter fun name => !like σ hiddenNames name)), db) := by
  have hshown : (objects.filter fun o =>
      relationKinds.contains o.kind && !like σ hiddenNames o.name).map CatalogueObject.name =
      (relationNames objects).filter fun name => !like σ hiddenNames name := by
    simp only [relationNames, List.filter_map, List.filter_filter, Function.comp_def,
      Bool.and_comm]
  change (SqlEngine.listRelations db, db) = _
  rw [SqlEngine.listRelations, h]
  simp only [Except.map, hshown]

lemma Laws.filter_append_kept (laws : Laws change?) {kept : List String}
    (hkept : ∀ n ∈ kept, Reserved n) :
    ((names ++ kept).filter fun name => !like σ hiddenNames name) =
      names.filter fun name => !like σ hiddenNames name := by
  have hnone : (kept.filter fun name => !like σ hiddenNames name) = [] := by
    rw [List.filter_eq_nil_iff]
    intro name hname
    simpa using (laws.like_iff _ _).mpr (hkept name hname).fits
  rw [List.filter_append, hnone, List.append_nil]

lemma Laws.listRelations (laws : Laws change?) (hdb : Holds names db) :
    ∃ listed, Database.listRelations db = (.ok listed, db) ∧
      Listing listed fun name => name ∈ names ∧ ¬ Overlooked name := by
  obtain ⟨objects, kept, hcatalogue, hperm, hkept⟩ := hdb.describes
  refine ⟨_, listRelations_eq hcatalogue, ?_⟩
  obtain ⟨hsorted, hascending⟩ :=
    laws.ordered ((relationNames objects).filter fun name => !like σ hiddenNames name)
  generalize SqlEngine.ordered σ _ = listed at hsorted hascending ⊢
  -- what the engine keeps for itself is fitted by the pattern, so it can be left aside
  have hlisted : listed.Perm (names.filter fun name => !like σ hiddenNames name) := by
    rw [← laws.filter_append_kept hkept]
    exact hsorted.trans (hperm.filter _)
  refine ⟨?_, fun name => ?_⟩
  · have hnodup : listed.Nodup := hlisted.nodup_iff.mpr (hdb.nodup.filter _)
    refine (hascending.and hnodup).imp ?_
    rintro a b ⟨hle, hne⟩
    exact (List.le_iff_lt_or_eq.mp hle).resolve_right fun h => hne (Text.bytes_injective h)
  · rw [hlisted.mem_iff, List.mem_filter]
    refine and_congr_right fun hname => ?_
    rw [← fits_iff_overlooked (hdb.unreserved name hname), ← laws.like_iff]
    simp

/-- **The relations that exist are listed, but for those that are overlooked.** So the listing is
complete exactly if there is none of them. -/
theorem listing_complete_iff (laws : Laws change?) (hnew : Describes db [])
    (requests : List Request) (hpass : Request.failures requests db = [])
    (changes : List Change)
    (hchanges : (requests.flatMap (Request.sources σ)).map change? = changes.map some) :
    let after := Request.afterAll requests db
    ∃ names, Database.listRelations after = (.ok names, after) ∧
      Listing names (fun name => name ∈ existing changes ∧ ¬ Overlooked name) ∧
      (Listing names (fun name => name ∈ existing changes) ↔
        ∀ name ∈ existing changes, ¬ Overlooked name) := by
  intro after
  have hafter : Holds (existing changes) after :=
    laws.holds_of_runs (Request.runs_requests hpass) hchanges hnew.holds
  obtain ⟨names, hnames, hlisting⟩ := laws.listRelations hafter
  refine ⟨names, hnames, hlisting, ?_, ?_⟩
  · rintro ⟨-, hmem⟩ name hname
    exact ((hlisting.mem name).mp ((hmem name).mpr hname)).2
  · intro hnone
    refine ⟨hlisting.ascending, fun name => (hlisting.mem name).trans ?_⟩
    exact and_iff_left_of_imp (hnone name)

end SqlEngine

namespace Store

/-- Requests that create four relations, one of them overlooked, and drop one again. -/
def comings : List Request :=
  [.execCommands "CREATE TABLE a(x);CREATE TABLE Sqlite3(x)",
    .createView "CREATE VIEW B AS SELECT * FROM a", .execCommands "CREATE TABLE c(x)",
    .execCommands "DROP TABLE C"]

def comingChanges : List Change :=
  [.create "a", .create "Sqlite3", .create "B", .create "c", .drop "C"]

theorem comings_listed :
    SqlEngine.Laws change? ∧ SqlEngine.Describes ({} : Store) [] ∧
      Request.failures comings ({} : Store) = [] ∧
      (comings.flatMap (Request.sources Store)).map change? = comingChanges.map some ∧
      existing comingChanges = ["a", "Sqlite3", "B"] ∧
      (Database.listRelations (Request.afterAll comings ({} : Store))).1 = .ok ["B", "a"] := by
  have hnew : SqlEngine.Describes ({} : Store) [] := describes_empty .sqlite
  have hpass : Request.failures comings ({} : Store) = [] := by decide +kernel
  have hchanges : (comings.flatMap (Request.sources Store)).map change? =
      comingChanges.map some := by decide +kernel
  have hexisting : existing comingChanges = ["a", "Sqlite3", "B"] := by decide +kernel
  have hlisted : Listing ["B", "a"] fun name =>
      name ∈ existing comingChanges ∧ ¬ Overlooked name := by
    have hshort {name : String} (h : name.toList.length < 7) : ¬ Overlooked name := by
      rintro ⟨start, c, rest, hname, hstart, -⟩
      have hlength : start.length = 6 := by simpa using congrArg List.length hstart
      rw [hname, List.length_append, List.length_cons, hlength] at h
      omega
    have hoverlooked : Overlooked "Sqlite3" :=
      ⟨"Sqlite".toList, '3', [], by decide, by decide, by decide⟩
    refine ⟨by decide +kernel, fun name => ?_⟩
    rw [hexisting]
    constructor
    · intro hname
      rcases List.mem_pair.mp hname with rfl | rfl
      · exact ⟨by decide, hshort (by decide)⟩
      · exact ⟨by decide, hshort (by decide)⟩
    · rintro ⟨hname, hseen⟩
      simp only [List.mem_cons, List.not_mem_nil, or_false] at hname ⊢
      rcases hname with rfl | rfl | rfl
      · exact .inr rfl
      · exact absurd hoverlooked hseen
      · exact .inl rfl
  refine ⟨laws, hnew, hpass, hchanges, hexisting, ?_⟩
  obtain ⟨names, hnames, hlisting, -⟩ :=
    SqlEngine.listing_complete_iff laws hnew comings hpass comingChanges hchanges
  rw [hnames, hlisting.unique hlisted]

/-- A table that is created and not listed. -/
theorem sqlitex_unlisted :
    let requests := [Request.execCommands "CREATE TABLE sqlitex (a INTEGER)"]
    Request.failures requests ({} : Store) = [] ∧
      (requests.flatMap (Request.sources Store)).map change? = [some (.create "sqlitex")] ∧
      (Database.listRelations (Request.afterAll requests ({} : Store))).1 = .ok [] ∧
      ¬ Listing [] fun name => name ∈ existing [.create "sqlitex"] := by
  refine ⟨by decide +kernel, by decide +kernel, by decide +kernel, fun h => ?_⟩
  have hexisting : existing [.create "sqlitex"] = ["sqlitex"] := by decide +kernel
  have hmem := (h.mem "sqlitex").mpr (by rw [hexisting]; exact List.mem_singleton_self _)
  cases hmem

end Store

end RelAlgebra
