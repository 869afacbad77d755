import RelAlgebra.Proofs.Token.Spelling

/-!
Reading tokens part of the way.

`Reaches` is a layout that breaks off. The tokens of a first text are those that are read when the
second text follows it, since a name or a word may run on into what follows. Reading fails after
such a part, at the character where no token starts. Text that follows a blank can take the place
of the second text.
-/

namespace RelAlgebra.Lexer

/-- The tokens that stand in a text from the byte offset on, where `rest` follows the text. -/
inductive Reaches : Nat → List Lexeme → List Char → List Char → Prop
  | nil (offset : Nat) (rest : List Char) : Reaches offset [] [] rest
  | blank {offset : Nat} {ts : List Lexeme} {c : Char} {cs rest : List Char}
      (hc : Text.isBlank c = true) (h : Reaches (offset + c.utf8Size) ts cs rest) :
      Reaches offset ts (c :: cs) rest
  | token {offset : Nat} {t : Token} {ts : List Lexeme} {w cs rest : List Char}
      (hw : Spells t w (cs ++ rest)) (h : Reaches (offset + Text.width w) ts cs rest) :
      Reaches offset (⟨offset, t⟩ :: ts) (w ++ cs) rest

lemma Layout.reaches {offset : Nat} {ts : List Lexeme} {cs : List Char} (h : Layout offset ts cs) :
    Reaches offset ts cs [] := by
  induction h with
  | nil offset => exact .nil offset []
  | blank hc _ ih => exact .blank hc ih
  | token hw _ ih => exact .token (by rwa [List.append_nil]) ih

lemma Layout.exists_reaches {offset : Nat} {as bs : List Lexeme} {l : Lexeme} {cs : List Char}
    (h : Layout offset (as ++ l :: bs) cs) :
    ∃ w rest, cs = w ++ rest ∧ Reaches offset as w rest ∧ l.offset = offset + Text.width w := by
  generalize hts : as ++ l :: bs = ts at h
  induction h generalizing as with
  | nil => simp at hts
  | @blank offset _ c cs hc _ ih =>
    obtain ⟨w, rest, rfl, hw, hoffset⟩ := ih hts
    refine ⟨c :: w, rest, rfl, .blank hc hw, ?_⟩
    rw [hoffset, Text.width_cons, Nat.add_assoc]
  | @token offset t ts v cs hv h ih =>
    cases as with
    | nil =>
      obtain ⟨rfl, -⟩ := List.cons.inj hts
      exact ⟨[], v ++ cs, rfl, .nil _ _, rfl⟩
    | cons a as =>
      obtain ⟨rfl, hrest⟩ := List.cons.inj hts
      obtain ⟨w, rest, rfl, hw, hoffset⟩ := ih hrest
      refine ⟨v ++ w, rest, by rw [List.append_assoc], .token hv hw, ?_⟩
      rw [hoffset, Text.width_append, Nat.add_assoc]

lemma Reaches.layout {offset : Nat} {ts us : List Lexeme} {w rest : List Char}
    (h : Reaches offset ts w rest) (hrest : Layout (offset + Text.width w) us rest) :
    Layout offset (ts ++ us) (w ++ rest) := by
  induction h with
  | nil => simpa using hrest
  | blank hc _ ih =>
    rw [Text.width_cons, ← Nat.add_assoc] at hrest
    exact .blank hc (ih hrest)
  | token hw _ ih =>
    rw [Text.width_append, ← Nat.add_assoc] at hrest
    rw [List.append_assoc, List.cons_append]
    exact .token hw (ih hrest)

lemma Spells.before_space {t : Token} {w cs rest : List Char} (h : Spells t w (cs ++ rest))
    (more : List Char) : Spells t w (cs ++ ' ' :: more) := by
  have hstops {p : Char → Bool} (hp : p ' ' = false) (hrest : Stops p (cs ++ rest)) :
      Stops p (cs ++ ' ' :: more) := by
    cases cs with
    | nil => exact stops_cons.mpr hp
    | cons c cs => exact stops_cons.mpr (stops_cons.mp hrest)
  cases h with
  | lparen => exact .lparen _
  | rparen => exact .rparen _
  | ident hne hname hrest => exact .ident hne hname (hstops (by decide) hrest)
  | plain hword hk ht hrest hbrace =>
    refine .plain hword hk ht (hstops (by decide) hrest) ?_
    rcases cs with _ | ⟨c, _ | ⟨d, cs⟩⟩
    · simp
    · simp
    · simpa using hbrace
  | parameter _ hword hk hbody ht => exact .parameter _ hword hk hbody ht

lemma Reaches.before_space {offset : Nat} {ts : List Lexeme} {w rest : List Char}
    (h : Reaches offset ts w rest) (more : List Char) : Reaches offset ts w (' ' :: more) := by
  induction h with
  | nil offset => exact .nil offset _
  | blank hc _ ih => exact .blank hc ih
  | token hw _ ih => exact .token (hw.before_space more) ih

/-- Reading fails at a character where no token starts, and what stands before it was read. -/
lemma exists_reaches_of_error {offset : Nat} {cs : List Char} {e : SyntaxError}
    (h : lexFrom offset cs = .error e) :
    ∃ ts w c rest, cs = w ++ c :: rest ∧ Reaches offset ts w (c :: rest) ∧
      e.offset = offset + Text.width w ∧ take c rest = .error e.fault := by
  fun_induction lexFrom offset cs with
  | case1 => cases h
  | case2 offset c cs hc ih =>
    obtain ⟨ts, w, d, rest, rfl, hw, hoffset, htake⟩ := ih h
    refine ⟨ts, c :: w, d, rest, rfl, .blank hc hw, ?_, htake⟩
    rw [hoffset, Text.width_cons, Nat.add_assoc]
  | case3 offset c cs hc fault htake =>
    cases h
    exact ⟨[], [], c, cs, rfl, .nil _ _, rfl, htake⟩
  | case4 offset c cs hc taken htake ih =>
    obtain ⟨v, hcs, hv, hwidth⟩ := take_eq_ok_iff.mp htake
    have herror : lexFrom (offset + taken.width) taken.rest = .error e := by
      generalize lexFrom (offset + taken.width) taken.rest = r at h
      cases r with
      | error e' => cases h; rfl
      | ok us => cases h
    obtain ⟨ts, w, d, rest, hrest, hw, hoffset, hd⟩ := ih herror
    rw [hrest] at hcs hv
    rw [hwidth] at hw hoffset
    refine ⟨⟨offset, taken.token⟩ :: ts, v ++ w, d, rest, ?_, .token hv hw, ?_, hd⟩
    · rw [hcs, List.append_assoc]
    · rw [hoffset, Text.width_append, Nat.add_assoc]

end RelAlgebra.Lexer
