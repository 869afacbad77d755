import RelAlgebra.Proofs.Database.Relations
import RelAlgebra.Proofs.Token.Spelling

/-!
A store is an engine of which the laws hold.

Only a statement that passes changes anything, and what it does to the entries can be told from the
statement. All entries are relations and are described, and none has a reserved name.
-/

namespace RelAlgebra

namespace Store

def names (db : Store) : List String := db.entries.map Entry.name

/-- What a statement does to the relations if it passes. There is no relation in any other
database. -/
def Statement.change : Statement → Change
  | .createTable target _ _ | .createView target _ => .create target.name
  | .dropTable target | .dropView target =>
    if target.name.isMain then .drop target.name.name else .keep
  | .select _ | .insert _ _ | .delete _ => .keep

def change? : Engine.Source Store → Option Change
  | Except.ok s => some s.change
  | Except.error _ => none

variable {db db' : Store}

/-! ### What a change does to the names -/

lemma sameName_iff {a b : String} : sameName a b = true ↔ SameName a b := by
  rw [sameName, beq_iff_eq, SameName]

lemma isReservedName_iff {name : String} : isReservedName name = true ↔ Reserved name := by
  rw [isReservedName, List.isPrefixOf_iff_prefix, Reserved]

lemma apply_drop (names : List String) (name : String) :
    (Change.drop name).apply names = names.filter (!sameName · name) := by
  rw [Change.apply]
  refine List.filter_congr fun n _ => ?_
  simp [← sameName_iff]

lemma names_remove (name : String) :
    (db.remove name).names = db.names.filter (!sameName · name) := by
  rw [names, names, remove, List.partition_eq_filter_filter, List.filter_map]
  rfl

lemma names_setRows (name : String) (rows : List (List Value)) :
    (db.setRows name rows).names = db.names := by
  rw [names, names, setRows, List.map_map]
  refine List.map_congr_left fun e _ => ?_
  simp only [Function.comp_apply]
  split
  · split <;> rfl
  · rfl

lemma isWanted_ok {target : NewName} {wanted : Bool} (h : db.isWanted target = .ok wanted) :
    ¬ Reserved target.name ∧ (wanted = true ↔ ¬ ∃ n ∈ db.names, SameName n target.name) := by
  have hfound : (db.find? target.name).isSome = true ↔ ∃ n ∈ db.names, SameName n target.name := by
    simp [find?, names, sameName_iff]
  obtain ⟨-, -, h⟩ := Except.bind_eq_ok_iff.mp h
  split at h
  · cases h
  · next hreserved =>
    refine ⟨fun hname => hreserved (isReservedName_iff.mpr hname), ?_⟩
    rw [← hfound]
    split at h
    · next hfind =>
      cases h
      simp [hfind]
    · next hfind =>
      split at h
      · cases h
        simp [hfind]
      · cases h

lemma dropped?_ok {target : OldName} {kind : String} {gone : Option Entry}
    (h : db.dropped? target kind = .ok gone) :
    gone = if target.name.isMain then db.find? target.name.name else none := by
  cases hcatalogue : Catalogue.of? target.name with
  | some c =>
    rw [dropped?, lookup?, hcatalogue] at h
    cases h
  | none =>
    have hlookup : db.lookup? target.name =
        (if target.name.isMain then db.find? target.name.name else none).map .inr := by
      rw [lookup?, hcatalogue]
      split <;> rfl
    rw [dropped?, hlookup] at h
    generalize (if target.name.isMain then db.find? target.name.name else none) = found at h ⊢
    cases found with
    | some e =>
      cases h
      rfl
    | none =>
      change (if target.ifPresent = true then _ else _) = _ at h
      split at h
      · cases h
        rfl
      · cases h

/-- A change leaves the store with the names that it says. -/
structure Renewed (db : Store) (c : Change) (db' : Store) : Prop where
  names : db'.names = c.apply db.names
  isForeign : db'.isForeign = db.isForeign
  allowed : c.Allowed

namespace Renewed

lemma of_keep (h : db'.names = db.names) (hforeign : db'.isForeign = db.isForeign) :
    Renewed db .keep db' :=
  ⟨h, hforeign, trivial⟩

lemma of_wanted {target : NewName} {wanted : Bool} (hwanted : db.isWanted target = .ok wanted)
    (hnames : db'.names = if wanted then db.names ++ [target.name] else db.names)
    (hforeign : db'.isForeign = db.isForeign) : Renewed db (.create target.name) db' := by
  obtain ⟨hreserved, hiff⟩ := isWanted_ok hwanted
  refine ⟨?_, hforeign, hreserved⟩
  rw [hnames, Change.apply]
  cases wanted with
  | true => rw [if_pos rfl, if_neg (hiff.mp rfl)]
  | false =>
    have hthere : ∃ n ∈ db.names, SameName n target.name := by simpa using hiff
    rw [if_pos hthere]
    rfl

lemma of_dropped {target : OldName} {kind : String} {gone : Option Entry}
    (hgone : db.dropped? target kind = .ok gone) :
    Renewed db (if target.name.isMain then .drop target.name.name else .keep)
      (gone.elim db fun e => db.remove e.name) := by
  obtain rfl := dropped?_ok hgone
  split
  · cases hfind : db.find? target.name.name with
    | some e =>
      have hsame : sameName e.name target.name.name = true := (List.find?_some hfind :)
      refine ⟨?_, rfl, trivial⟩
      rw [Option.elim_some, names_remove, apply_drop]
      simp only [sameName, beq_iff_eq.mp hsame]
    | none =>
      refine ⟨?_, rfl, trivial⟩
      rw [apply_drop, eq_comm, Option.elim_none, List.filter_eq_self]
      simpa [find?, Store.names] using hfind
  · exact .of_keep rfl rfl

end Renewed

lemma change_ok {s : Statement} (h : db.change s = .ok db') : Renewed db s.change db' := by
  cases s with
  | select query =>
    cases h
    exact .of_keep rfl rfl
  | createTable target columns fault =>
    obtain ⟨wanted, hwanted, h⟩ := Except.bind_eq_ok_iff.mp h
    split at h
    · cases h
    · cases h
    · cases h
      cases wanted with
      | false => exact .of_wanted hwanted rfl rfl
      | true => exact .of_wanted hwanted List.map_append rfl
  | createView target query =>
    obtain ⟨wanted, hwanted, h⟩ := Except.bind_eq_ok_iff.mp h
    cases wanted with
    | false =>
      cases h
      exact .of_wanted hwanted rfl rfl
    | true =>
      rw [if_pos rfl] at h
      split at h
      · cases h
      · cases h
        exact .of_wanted hwanted List.map_append rfl
  | insert name rows =>
    change (if _ then _ else _) = _ at h
    split at h
    · cases h
    · obtain ⟨t, -, h⟩ := Except.bind_eq_ok_iff.mp h
      change (if _ then _ else _) = _ at h
      split at h
      · cases h
      · cases h
        exact .of_keep (names_setRows _ _) rfl
  | delete name =>
    obtain ⟨t, -, h⟩ := Except.bind_eq_ok_iff.mp h
    cases h
    exact .of_keep (names_setRows _ _) rfl
  | dropTable target =>
    -- a view is not dropped as a table, nor a table as a view
    obtain ⟨_ | ⟨name, _ | _, sql, page⟩, hgone, h⟩ := Except.bind_eq_ok_iff.mp h <;> cases h <;>
      exact .of_dropped hgone
  | dropView target =>
    obtain ⟨_ | ⟨name, _ | _, sql, page⟩, hgone, h⟩ := Except.bind_eq_ok_iff.mp h <;> cases h <;>
      exact .of_dropped hgone

lemma changed_ok {α : Type} {s : Statement} {answer : Store → α} {a : α}
    (h : db.changed s answer = (.ok a, db')) : db.change s = .ok db' := by
  unfold changed at h
  split at h
  · next hchange =>
    cases h
    exact hchange
  · cases h

lemma rowsOf_ok {p : Prepared} {rows : List Row} (h : rowsOf p db = (.ok rows, db')) :
    db.change p.statement = .ok db' := by
  unfold rowsOf at h
  split at h
  · next hselect =>
    rw [hselect]
    exact congrArg Except.ok (congrArg Prod.snd h)
  · exact changed_ok h

lemma ready_ok {s : Statement} {p : Prepared} (h : db.ready s = .ok p) : p.statement = s := by
  obtain ⟨-, -, h⟩ := Except.bind_eq_ok_iff.mp h
  split at h
  · obtain ⟨t, -, h⟩ := Except.bind_eq_ok_iff.mp h
    cases h
    rfl
  · cases h
    rfl

lemma renewed_of_passes {s : Engine.Source Store} {c : Change} (hc : change? s = some c)
    (h : Engine.Passes s db db') : Renewed db c db' := by
  obtain ⟨p, hready, hrun⟩ := h
  cases s with
  | error e => cases hc
  | ok s =>
    cases hc
    obtain rfl := ready_ok hready
    rcases hrun with ⟨rows, hrows⟩ | ⟨n, hn⟩
    · exact change_ok (rowsOf_ok hrows)
    · exact change_ok (changed_ok hn)

/-! ### The catalogue -/

lemma relationNames_described (entries : List Entry) :
    SqlEngine.relationNames (entries.map Entry.described) = entries.map Entry.name := by
  have hkind (e : Entry) : SqlEngine.relationKinds.contains e.described.kind = true := by
    rcases e with ⟨name, _ | _, sql, page⟩ <;> rfl
  rw [SqlEngine.relationNames, List.filter_eq_self.mpr, List.map_map]
  · rfl
  · intro o ho
    obtain ⟨e, -, rfl⟩ := List.mem_map.mp ho
    exact hkind e

lemma describes_iff {names : List String} :
    SqlEngine.Describes db names ↔ db.isForeign = false ∧
      ∃ kept, db.names.Perm (names ++ kept) ∧ ∀ n ∈ kept, Reserved n := by
  have hcatalogue : SqlEngine.catalogue db =
      db.checkFile.map fun () => db.entries.map Entry.described := rfl
  rw [SqlEngine.Describes, hcatalogue, checkFile]
  cases hforeign : db.isForeign with
  | true => simp [Except.map]
  | false => simp [Except.map, relationNames_described, Store.names]

lemma describes_empty (dialect : Dialect) :
    SqlEngine.Describes ({ dialect } : Store) [] :=
  describes_iff.mpr ⟨rfl, [], List.Perm.refl _, by simp⟩

/-! ### Patterns -/

lemma mem_suffixes {bs cs : List Char} : bs ∈ suffixes cs ↔ ∃ as, cs = as ++ bs := by
  induction cs with
  | nil => simp [suffixes]
  | cons c cs ih =>
    rw [suffixes, List.mem_cons, ih]
    constructor
    · rintro (rfl | ⟨as, rfl⟩)
      · exact ⟨[], rfl⟩
      · exact ⟨c :: as, rfl⟩
    · rintro ⟨_ | ⟨a, as⟩, h⟩
      · exact .inl h.symm
      · cases h
        exact .inr ⟨as, rfl⟩

lemma like_percent {ps cs : List Char} :
    like ('%' :: ps) cs = true ↔ ∃ start rest, cs = start ++ rest ∧ like ps rest = true := by
  have hlike : like ('%' :: ps) cs = (suffixes cs).any (like ps) := by
    cases cs <;> rfl
  rw [hlike, List.any_eq_true]
  constructor
  · rintro ⟨rest, hmem, hrest⟩
    obtain ⟨start, rfl⟩ := mem_suffixes.mp hmem
    exact ⟨start, rest, rfl, hrest⟩
  · rintro ⟨start, rest, rfl, hrest⟩
    exact ⟨rest, mem_suffixes.mpr ⟨start, rfl⟩, hrest⟩

lemma like_cons {p : Char} {ps cs : List Char} (hp : p ≠ '%') :
    like (p :: ps) cs = true ↔
      ∃ c rest, cs = c :: rest ∧ (p = '_' ∨ p.toLower = c.toLower) ∧ like ps rest = true := by
  cases cs with
  | nil => simp [like, hp]
  | cons c cs => simp [like, hp]

lemma like_iff_fits {ps cs : List Char} : like ps cs = true ↔ Fits ps cs := by
  induction ps generalizing cs with
  | nil =>
    cases cs with
    | nil => exact ⟨fun _ => .nil, fun _ => rfl⟩
    | cons c cs => exact ⟨by rintro ⟨⟩, by rintro ⟨⟩⟩
  | cons p ps ih =>
    by_cases hpercent : p = '%'
    · rw [hpercent, like_percent, fits_percent]
      simp only [ih]
    · rw [like_cons hpercent]
      simp only [ih]
      by_cases hunderscore : p = '_'
      · rw [hunderscore, fits_underscore]
        simp
      · rw [fits_char ⟨hunderscore, hpercent⟩]
        simp only [hunderscore, false_or]

/-! ### The laws -/

lemma laws : SqlEngine.Laws change? where
  reserves hc hs := (renewed_of_passes hc hs).allowed
  describes {s c db db' names} hc hs hdb := by
    obtain ⟨hnames, hforeign, hallowed⟩ := renewed_of_passes hc hs
    obtain ⟨hfile, kept, hperm, hkept⟩ := describes_iff.mp hdb
    obtain ⟨kept', hkept', hperm'⟩ := Change.exists_apply_perm hallowed hkept hperm
    exact describes_iff.mpr ⟨hforeign.trans hfile, kept', hnames ▸ hperm', hkept'⟩
  like_iff _ _ := like_iff_fits
  ordered texts := ⟨Text.perm_sorted texts, Text.pairwise_sorted texts⟩

end Store

end RelAlgebra
