import RelAlgebra.Database.Scripted
import RelAlgebra.Proofs.View.Making

/-!
What each request does to the views of a scripted database.

Dropping a view takes it off the list unless a rule forbids it, creating one puts it at the end,
and no other request touches the list. A name is looked at through `names`, and `left` is what
dropping some views leaves.
-/

namespace RelAlgebra

namespace Scripted

def names (db : Scripted) : List String := db.live.map Prod.fst

/-- A rule forbids to drop the view. -/
def sticks (db : Scripted) (name : String) : Bool :=
  (db.script.failDrop.answer? (· == name)).isSome

def left (db : Scripted) (dropped : List String) : List (String × String) :=
  db.live.filter fun v => decide (v.1 ∉ dropped) || db.sticks v.1

lemma mem_liveNames {db : Scripted} {name : String} : name ∈ db.liveNames ↔ name ∈ db.names := by
  simp [liveNames, names, Text.sorted]

lemma statement?_eq_none_iff {db : Scripted} {name : String} :
    db.statement? name = none ↔ name ∉ db.names := by
  simp only [statement?, names, Option.map_eq_none_iff, List.find?_eq_none, List.mem_map,
    beq_iff_eq, not_exists, not_and]

lemma sticks_congr {db db' : Scripted} (h : db'.script = db.script) : db'.sticks = db.sticks := by
  funext name
  unfold sticks
  rw [h]

lemma mem_left {db : Scripted} {dropped : List String} {v : String × String} :
    v ∈ db.left dropped ↔ v ∈ db.live ∧ (v.1 ∉ dropped ∨ db.sticks v.1 = true) := by
  simp [left]

lemma name_mem_left {db : Scripted} {dropped : List String} {name : String} :
    name ∈ (db.left dropped).map Prod.fst ↔
      name ∈ db.names ∧ (name ∉ dropped ∨ db.sticks name = true) := by
  constructor
  · intro h
    obtain ⟨v, hv, rfl⟩ := List.mem_map.mp h
    rw [mem_left] at hv
    exact ⟨List.mem_map_of_mem hv.1, hv.2⟩
  · rintro ⟨h, hd⟩
    obtain ⟨v, hv, rfl⟩ := List.mem_map.mp h
    exact List.mem_map_of_mem (mem_left.mpr ⟨hv, hd⟩)

lemma name_mem_left_of_subset {db : Scripted} {as bs : List String} {name : String} (h : as ⊆ bs)
    (hn : name ∈ (db.left bs).map Prod.fst) : name ∈ (db.left as).map Prod.fst := by
  rw [name_mem_left] at hn ⊢
  exact ⟨hn.1, hn.2.imp_left fun hb ha => hb (h ha)⟩

@[simp] lemma left_nil (db : Scripted) : db.left [] = db.live := by
  simp [left]

lemma left_left {db db' : Scripted} {as bs : List String} {vs : List (String × String)}
    (hs : db'.script = db.script) (hl : db'.live = db.left as ++ vs) :
    db'.left bs = db.left (as ++ bs) ++
      vs.filter fun v => decide (v.1 ∉ bs) || db.sticks v.1 := by
  unfold left at hl ⊢
  rw [hl, List.filter_append, List.filter_filter, sticks_congr hs]
  congr 1
  refine List.filter_congr fun v _ => ?_
  by_cases ha : v.1 ∈ as <;> by_cases hb : v.1 ∈ bs <;> simp [ha, hb]

/-! ### Requests -/

lemma sticks_eq_true {db : Scripted} {name : String} {e : DbError}
    (h : db.script.failDrop.answer? (· == name) = some e) : db.sticks name = true := by
  unfold sticks; rw [h]; rfl

lemma sticks_eq_false {db : Scripted} {name : String}
    (h : db.script.failDrop.answer? (· == name) = none) : db.sticks name = false := by
  unfold sticks; rw [h]; rfl

lemma filter_ne_eq_self {db : Scripted} {name : String} (h : name ∉ db.names) :
    db.live.filter (fun v => v.1 != name) = db.live := by
  refine List.filter_eq_self.mpr fun v hv => ?_
  have : v.1 ≠ name := by rintro rfl; exact h (List.mem_map_of_mem hv)
  simpa using this

lemma dropView_eq (name : String) (db : Scripted) :
    dropView name db = match db.script.failDrop.answer? (· == name) with
      | some e => (.error e, db.send (Sql.dropView name))
      | none =>
        match db.statement? name with
        | some _ => (.ok (), (db.send (Sql.dropView name)).remove name)
        | none => (.error { message := "no such view: " ++ name },
            db.send (Sql.dropView name)) := rfl

@[simp] lemma dropView_script (name : String) (db : Scripted) :
    (dropView name db).2.script = db.script := by
  rw [dropView_eq]
  split
  · rfl
  · split <;> rfl

lemma dropView_live (name : String) (db : Scripted) :
    (dropView name db).2.live = db.left [name] := by
  rw [dropView_eq]
  split
  · next e he =>
    refine (List.filter_eq_self.mpr fun v _ => ?_).symm
    by_cases hv : v.1 = name <;> simp [hv, sticks_eq_true he]
  · next he =>
    have hleft : db.left [name] = db.live.filter fun v => v.1 != name := by
      refine List.filter_congr fun v _ => ?_
      by_cases hv : v.1 = name <;> simp [hv, sticks_eq_false he]
    rw [hleft]
    split
    · rfl
    · next hn => exact (filter_ne_eq_self (statement?_eq_none_iff.mp hn)).symm

lemma dropView_answer {name : String} {db : Scripted} (h : name ∈ db.names) :
    (dropView name db).1 = match db.script.failDrop.answer? (· == name) with
      | some e => .error e
      | none => .ok () := by
  rw [dropView_eq]
  cases db.script.failDrop.answer? (· == name) with
  | some e => rfl
  | none =>
    cases hn : db.statement? name with
    | some sql => rfl
    | none => exact absurd h (statement?_eq_none_iff.mp hn)

lemma createView_eq (sql : String) (db : Scripted) :
    createView sql db = match db.script.failCreate.answer? (contains sql) with
      | some e => (.error e, db.send sql)
      | none =>
        match db.statement? (createdName sql) with
        | some _ => (.error { message := "view " ++ createdName sql ++ " already exists" },
            db.send sql)
        | none => (.ok (), (db.send sql).insert (createdName sql) sql) := rfl

@[simp] lemma createView_script (sql : String) (db : Scripted) :
    (createView sql db).2.script = db.script := by
  rw [createView_eq]
  split
  · rfl
  · split <;> rfl

lemma createView_error {sql : String} {db : Scripted} {e : DbError}
    (h : (createView sql db).1 = .error e) : (createView sql db).2.live = db.live := by
  rw [createView_eq] at h ⊢
  cases hf : db.script.failCreate.answer? (contains sql) with
  | some e' => rfl
  | none =>
    cases hs : db.statement? (createdName sql) with
    | some sql' => rfl
    | none => simp [hf, hs] at h

lemma createView_ok {sql : String} {db : Scripted} (h : (createView sql db).1 = .ok ()) :
    createdName sql ∉ db.names ∧
      (createView sql db).2.live = db.live ++ [(createdName sql, sql)] := by
  rw [createView_eq] at h ⊢
  cases hf : db.script.failCreate.answer? (contains sql) with
  | some e => simp [hf] at h
  | none =>
    cases hs : db.statement? (createdName sql) with
    | some sql' => simp [hf, hs] at h
    | none =>
      have hn := statement?_eq_none_iff.mp hs
      exact ⟨hn, congrArg (· ++ _) (filter_ne_eq_self hn)⟩

@[simp] lemma query_script (sql : String) (db : Scripted) :
    (query sql db).2.script = db.script := by
  simp only [query]
  split <;> rfl

@[simp] lemma query_live (sql : String) (db : Scripted) : (query sql db).2.live = db.live := by
  simp only [query]
  split <;> rfl

/-! ### Names in statements -/

/-- A name that ends where the statement that creates its view goes on. -/
def Plain (name : String) : Prop := ∀ c ∈ name.toList, c ≠ '(' ∧ c ≠ ' '

lemma plain_nameOf (n : ℕ) : Plain (View.nameOf n) := by
  intro c hc
  rw [View.toList_nameOf, List.mem_append] at hc
  rcases hc with hc | hc
  · have hall : "RA_TMP_VIEW_".toList.all (fun c => c != '(' && c != ' ') = true := by decide
    simpa using List.all_eq_true.mp hall c hc
  · have hd := Nat.isDigit_of_mem_toDigits (by decide) (by decide) hc
    constructor <;> rintro rfl <;> exact absurd hd (by decide)

lemma createdName_text {s : Sql.CreateView} (h : Plain s.view) : createdName s.text = s.view := by
  obtain ⟨name, columns, query⟩ := s
  have hw (c : Char) (hc : c ∈ name.toList) : (c != '(' && c != ' ') = true := by
    simpa using h c hc
  have ht : ∃ d rest, (d = '(' ∨ d = ' ') ∧ (Sql.CreateView.text ⟨name, columns, query⟩).toList =
      "CREATE VIEW ".toList ++ (name.toList ++ d :: rest) := by
    cases columns with
    | none => exact ⟨' ', _, .inr rfl, by simp [Sql.CreateView.text]; rfl⟩
    | some cols => exact ⟨'(', _, .inl rfl, by simp [Sql.CreateView.text]; rfl⟩
  obtain ⟨d, rest, hd, ht⟩ := ht
  have hlen : "CREATE VIEW ".length = "CREATE VIEW ".toList.length := rfl
  simp only [createdName]
  rw [ht, hlen, List.drop_left, List.takeWhile_append_of_pos hw]
  rcases hd with rfl | rfl <;> simp

lemma createdName_createStatement {t : ViewTree} {d : Dialect} {sql : String}
    (hp : Plain t.view.name) (h : t.createStatement d = .ok sql) :
    createdName sql = t.view.name := by
  rw [ViewTree.createStatement, ViewTree.createView_eq] at h
  cases hq : t.query d with
  | error e => rw [hq] at h; cases h
  | ok q => rw [hq] at h; cases h; exact createdName_text hp

end Scripted

end RelAlgebra
