import RelAlgebra.Proofs.Shell.Writing
import RelAlgebra.Proofs.Text.Encoding
import RelAlgebra.Shell.Source

/-!
Reading lines and writing them again.

A text is a number of stretches that each end with a newline, and a last one without. The reader
delivers each stretch less the newlines and carriage returns at its end. So lines of which none
holds a newline or ends with a carriage return are delivered as they are, whichever way they were
ended, and only such lines are ever delivered; a transcript of them reads as they do.
-/

namespace RelAlgebra.Shell

/-! ### One stretch -/

lemma firstLine_append {bs : List UInt8} (h : 10 ∉ bs) (rest : List UInt8) :
    firstLine (bs ++ rest) = (bs ++ (firstLine rest).1, (firstLine rest).2) := by
  induction bs with
  | nil => rfl
  | cons b bs ih =>
    obtain ⟨hb, hbs⟩ := not_or.mp (mt List.mem_cons.mpr h)
    rw [List.cons_append, firstLine, if_neg (Ne.symm hb), ih hbs]
    rfl

lemma readsOf_of_ne_nil (ends : LineEnds) {bs : List UInt8} (h : bs ≠ []) :
    readsOf ends bs = readOf ends (firstLine bs).1 :: readsOf ends (firstLine bs).2 := by
  obtain ⟨b, bs, rfl⟩ := List.exists_cons_of_ne_nil h
  rw [readsOf]

lemma readOf_bytes (ends : LineEnds) (cs : List Char) :
    readOf ends (Text.bytes (String.ofList cs)) = .line (String.ofList (ends.line cs)) := by
  rw [readOf, Text.ofBytes?_eq_some_iff.mpr rfl]
  simp

lemma bytes_ended (cs : List Char) :
    Text.bytes (String.ofList (cs ++ ['\n'])) = Text.bytes (String.ofList cs) ++ [10] := by
  rw [Text.bytes_ofList, Text.bytes_ofList, List.flatMap_append]
  rfl

lemma readsOf_ended {cs : List Char} (h : '\n' ∉ cs) (ends : LineEnds) (rest : List UInt8) :
    readsOf ends (Text.bytes (String.ofList (cs ++ ['\n'])) ++ rest) =
      .line (String.ofList (ends.line (cs ++ ['\n']))) :: readsOf ends rest := by
  have hfirst : firstLine (Text.bytes (String.ofList (cs ++ ['\n'])) ++ rest) =
      (Text.bytes (String.ofList (cs ++ ['\n'])), rest) := by
    rw [bytes_ended, List.append_assoc, firstLine_append (mt Text.newline_mem_bytes.mp h)]
    rfl
  have hne : Text.bytes (String.ofList (cs ++ ['\n'])) ++ rest ≠ [] := by
    rw [bytes_ended]
    simp
  rw [readsOf_of_ne_nil ends hne, hfirst, readOf_bytes]

lemma readsOf_unended {cs : List Char} (h : '\n' ∉ cs) (hne : cs ≠ []) (ends : LineEnds) :
    readsOf ends (Text.bytes (String.ofList cs)) = [.line (String.ofList (ends.line cs))] := by
  have hfirst := firstLine_append (mt Text.newline_mem_bytes.mp h) []
  rw [List.append_nil, firstLine, List.append_nil] at hfirst
  have hbytes : Text.bytes (String.ofList cs) ≠ [] := by
    intro hnil
    have hempty : String.ofList cs = String.ofList [] := Text.bytes_injective hnil
    exact hne (String.ofList_injective hempty)
  rw [readsOf_of_ne_nil ends hbytes, hfirst, readOf_bytes, readsOf]

/-! ### What is delivered of a stretch -/

/-- No newline stands in the text, and no carriage return at its end. -/
def IsLine (cs : List Char) : Prop := '\n' ∉ cs ∧ cs.getLast? ≠ some '\r'

lemma IsLine.line_append {cs ends : List Char} (h : IsLine cs)
    (hends : ∀ c ∈ ends, c = '\n' ∨ c = '\r') : LineEnds.all.line (cs ++ ends) = cs := by
  have hdrop : (ends.reverse ++ cs.reverse).dropWhile (fun c => c == '\n' || c == '\r') =
      cs.reverse := by
    rw [List.dropWhile_append_of_pos (by simpa using hends)]
    rcases List.eq_nil_or_concat cs with rfl | ⟨init, c, rfl⟩
    · rfl
    · have hnewline : c ≠ '\n' := by rintro rfl; exact h.1 (by simp)
      have hreturn : c ≠ '\r' := by rintro rfl; exact h.2 (by simp)
      simp [hnewline, hreturn]
  rw [LineEnds.line, LineEnds.strip, List.reverse_append, hdrop, List.reverse_reverse]

lemma IsLine.line_eq {cs : List Char} (h : IsLine cs) : LineEnds.all.line cs = cs := by
  have hline : LineEnds.all.line (cs ++ []) = cs := h.line_append (by simp)
  rwa [List.append_nil] at hline

lemma exists_line (cs : List Char) (h : '\n' ∉ cs) :
    IsLine (LineEnds.all.line cs) ∧
      ∃ ends, cs = LineEnds.all.line cs ++ ends ∧ ∀ c ∈ ends, c = '\n' ∨ c = '\r' := by
  set isEnd : Char → Bool := fun c => c == '\n' || c == '\r' with hisEnd
  have hsplit : cs = LineEnds.all.line cs ++ (cs.reverse.takeWhile isEnd).reverse := by
    rw [LineEnds.line, LineEnds.strip, ← List.reverse_append, List.takeWhile_append_dropWhile,
      List.reverse_reverse]
  refine ⟨⟨fun hmem => ?_, fun hlast => ?_⟩, _, hsplit, fun c hc => ?_⟩
  · rw [hsplit] at h
    exact h (List.mem_append_left _ hmem)
  · rw [LineEnds.line, LineEnds.strip, List.getLast?_reverse] at hlast
    have := List.head?_dropWhile_not isEnd cs.reverse
    rw [hlast] at this
    simp [hisEnd] at this
  · have := List.mem_takeWhile_imp (List.mem_reverse.mp hc)
    simpa [hisEnd] using this

lemma line_ended {cs : List Char} (h : '\n' ∉ cs) :
    LineEnds.all.line (cs ++ ['\n']) = LineEnds.all.line cs := by
  obtain ⟨hline, ends, hcs, hends⟩ := exists_line cs h
  nth_rewrite 1 [hcs]
  rw [List.append_assoc]
  refine hline.line_append fun c hc => ?_
  rcases List.mem_append.mp hc with hc | hc
  · exact hends c hc
  · exact .inl (List.mem_singleton.mp hc)

/-! ### Many stretches -/

/-- The text of stretches that end with a newline, and of a last one that does not. -/
def ofStretches (ended : List (List Char)) (last : List Char) : List Char :=
  ended.flatMap (· ++ ['\n']) ++ last

lemma bytes_ofStretches_cons (l : List Char) (ls : List (List Char)) (last : List Char) :
    Text.bytes (String.ofList (ofStretches (l :: ls) last)) =
      Text.bytes (String.ofList (l ++ ['\n'])) ++
        Text.bytes (String.ofList (ofStretches ls last)) := by
  rw [← Text.bytes_append, ← String.ofList_append, ofStretches, ofStretches, List.flatMap_cons,
    List.append_assoc]

lemma exists_ofStretches (cs : List Char) :
    ∃ ended last, cs = ofStretches ended last ∧ (∀ l ∈ ended, '\n' ∉ l) ∧ '\n' ∉ last := by
  induction cs with
  | nil => exact ⟨[], [], rfl, by simp, by simp⟩
  | cons c cs ih =>
    obtain ⟨ended, last, rfl, hended, hlast⟩ := ih
    by_cases hc : c = '\n'
    · subst hc
      exact ⟨[] :: ended, last, by simp [ofStretches], by simpa using hended, hlast⟩
    · cases ended with
      | nil => exact ⟨[], c :: last, rfl, by simp, by simp [Ne.symm hc, hlast]⟩
      | cons l ls =>
        obtain ⟨hl, hls⟩ := List.forall_mem_cons.mp hended
        refine ⟨(c :: l) :: ls, last, rfl, List.forall_mem_cons.mpr ⟨?_, hls⟩, hlast⟩
        simp [Ne.symm hc, hl]

lemma readsOf_ofStretches {ended : List (List Char)} {last : List Char}
    (hended : ∀ l ∈ ended, '\n' ∉ l) (hlast : '\n' ∉ last) :
    readsOf .all (Text.bytes (String.ofList (ofStretches ended last))) =
      (ended ++ if last = [] then [] else [last]).map fun cs =>
        .line (String.ofList (LineEnds.all.line cs)) := by
  induction ended with
  | nil =>
    by_cases hempty : last = []
    · subst hempty
      rw [if_pos rfl]
      exact readsOf.eq_1 .all
    · rw [if_neg hempty]
      exact readsOf_unended hlast hempty .all
  | cons l ls ih =>
    obtain ⟨hl, hls⟩ := List.forall_mem_cons.mp hended
    rw [bytes_ofStretches_cons, readsOf_ended hl, ih hls, line_ended hl]
    rfl

/-! ### Asking again and again -/

/-- What the reader answers when it has been asked `n` times before. -/
def LineReader.reading (r : LineReader) : ℕ → Read
  | 0 => r.next.1
  | n + 1 => r.next.2.reading n

lemma LineReader.reading_eq (r : LineReader) (n : ℕ) :
    r.reading n = (readsOf r.ends r.left)[n]?.getD .endOfInput := by
  induction n generalizing r with
  | zero =>
    obtain ⟨ends, left⟩ := r
    cases left with
    | nil => simp [reading, next, readsOf]
    | cons b bs => simp [reading, next, readsOf]
  | succ n ih =>
    obtain ⟨ends, left⟩ := r
    rw [reading, ih]
    cases left with
    | nil => simp [next, readsOf]
    | cons b bs => simp [next, readsOf]

/-- The reader of the bytes gives these lines and then, as often as it is asked, the end. -/
def Delivers (input : List UInt8) (lines : List String) : Prop :=
  ∀ n, (LineReader.mk .all input).reading n = lines[n]?.elim .endOfInput .line

lemma delivers_of_readsOf {input : List UInt8} {lines : List String}
    (h : readsOf .all input = lines.map .line) : Delivers input lines := by
  intro n
  rw [LineReader.reading_eq, h, List.getElem?_map]
  cases lines[n]? <;> rfl

/-! ### Transcripts -/

lemma echo_line {s : Sink} (h : s.limit = none) (prompt text : String) :
    echo prompt s (.line text) = (.line text, s.push (echoed prompt text)) := by
  rw [echo, writeAll_unlimited h]

lemma echoAll_lines {s : Sink} (h : s.limit = none) (prompt : String) (lines : List String) :
    echoAll prompt s (lines.map .line) =
      (lines.map .line ++ [.endOfInput], s.push (lines.flatMap (echoed prompt))) := by
  induction lines generalizing s with
  | nil => simp [echoAll]
  | cons line lines ih =>
    have hlimit : (s.push (echoed prompt line)).limit = none := h
    simp [echoAll, echo_line h, ih hlimit, Sink.push_push]

/-! ### Round trips -/

inductive Terminator where
  | newline
  | returnNewline

def Terminator.text : Terminator → String
  | newline => "\n"
  | returnNewline => "\r\n"

/-- The carriage return before the newline, if there is one. -/
def Terminator.returns : Terminator → List Char
  | newline => []
  | returnNewline => ['\r']

lemma Terminator.toList_text (t : Terminator) : t.text.toList = t.returns ++ ['\n'] := by
  cases t <;> rfl

lemma Terminator.eq_of_mem_returns {t : Terminator} {c : Char} (h : c ∈ t.returns) : c = '\r' := by
  cases t with
  | newline => cases h
  | returnNewline => exact List.mem_singleton.mp h

/-- The text of lines that are ended, and of a last one that is not. -/
def written (ended : List (String × Terminator)) (last : Option String) : String :=
  String.join (ended.map fun line => line.1 ++ line.2.text) ++ last.getD ""

lemma toList_written (ended : List (String × Terminator)) (last : Option String) :
    (written ended last).toList =
      ofStretches (ended.map fun line => line.1.toList ++ line.2.returns)
        (last.getD "").toList := by
  simp [written, ofStretches, List.flatMap_map, Terminator.toList_text]

lemma delivers_written {ended : List (String × Terminator)} {last : Option String}
    (hlines : ∀ line ∈ ended.map Prod.fst ++ last.toList, IsLine line.toList)
    (hne : last ≠ some "") :
    Delivers (Text.bytes (written ended last)) (ended.map Prod.fst ++ last.toList) := by
  have hended (line) (hline : line ∈ ended) : IsLine line.1.toList :=
    hlines _ (List.mem_append_left _ (List.mem_map_of_mem hline))
  have hlast (line) (hline : line ∈ last) : IsLine line.toList :=
    hlines _ (List.mem_append_right _ (Option.mem_toList.mpr hline))
  apply delivers_of_readsOf
  rw [← String.ofList_toList (s := written ended last), toList_written, readsOf_ofStretches,
    List.map_append, List.map_append, List.map_map, List.map_map]
  · congr 1
    · refine List.map_congr_left fun line hline => ?_
      have hreturns (c) (hc : c ∈ line.2.returns) : c = '\n' ∨ c = '\r' :=
        .inr (Terminator.eq_of_mem_returns hc)
      simp [(hended line hline).line_append hreturns]
    · cases last with
      | none => rfl
      | some line =>
        have hline := hlast line rfl
        have hnil : line.toList ≠ [] := by simpa using hne
        simp [hnil, hline.line_eq]
  · intro l hl
    obtain ⟨line, hline, rfl⟩ := List.mem_map.mp hl
    intro hmem
    rcases List.mem_append.mp hmem with hmem | hmem
    · exact (hended line hline).1 hmem
    · exact absurd (Terminator.eq_of_mem_returns hmem) (by decide)
  · cases last with
    | none => simp
    | some line => exact (hlast line rfl).1

lemma flatMap_echoed (lines : List String) :
    lines.flatMap (echoed "") = Text.bytes (written (lines.map (·, .newline)) none) := by
  induction lines with
  | nil => rfl
  | cons line lines ih =>
    have hline : echoed "" line = Text.bytes (line ++ Terminator.newline.text) := by
      rw [echoed, String.empty_append, Terminator.text]
    simp only [List.flatMap_cons, ih, hline, written, List.map_cons, String.join_cons,
      ← Text.bytes_append, String.append_assoc]

lemma delivers_echoed {lines : List String} (h : ∀ line ∈ lines, IsLine line.toList) :
    Delivers (lines.flatMap (echoed "")) lines := by
  have hlines : (lines.map (·, Terminator.newline)).map Prod.fst ++ (none : Option String).toList =
      lines := by
    simp [Function.comp_def]
  have hwritten : Delivers (Text.bytes (written (lines.map (·, .newline)) none))
      ((lines.map (·, Terminator.newline)).map Prod.fst ++ (none : Option String).toList) :=
    delivers_written (by rwa [hlines]) (by simp)
  rwa [hlines, ← flatMap_echoed] at hwritten

lemma exists_readsOf (text : String) :
    ∃ lines : List String, (∀ line ∈ lines, IsLine line.toList) ∧
      readsOf .all (Text.bytes text) = lines.map .line := by
  obtain ⟨ended, last, htext, hended, hlast⟩ := exists_ofStretches text.toList
  have hstretch (cs) (hcs : cs ∈ ended ++ if last = [] then [] else [last]) : '\n' ∉ cs := by
    rcases List.mem_append.mp hcs with hcs | hcs
    · exact hended cs hcs
    · split at hcs
      · cases hcs
      · rwa [List.mem_singleton.mp hcs]
  refine ⟨(ended ++ if last = [] then [] else [last]).map fun cs =>
    String.ofList (LineEnds.all.line cs), fun line hline => ?_, ?_⟩
  · obtain ⟨cs, hcs, rfl⟩ := List.mem_map.mp hline
    rw [String.toList_ofList]
    exact (exists_line cs (hstretch cs hcs)).1
  · rw [← String.ofList_toList (s := text), htext, readsOf_ofStretches hended hlast, List.map_map]
    rfl

/-- **Lines are delivered as they were written**, whichever way each was ended, and then the end of
the input for ever. Whatever text is read, what is delivered are lines, and the transcript of them
without a prompt delivers the same ones. -/
theorem lines_delivered :
    (∀ (ended : List (String × Terminator)) (last : Option String),
      (∀ line ∈ ended.map Prod.fst ++ last.toList, IsLine line.toList) → last ≠ some "" →
        Delivers (Text.bytes (written ended last)) (ended.map Prod.fst ++ last.toList)) ∧
    ∀ input : List UInt8, (Text.ofBytes? input).isSome →
      ∃ lines : List String, (∀ line ∈ lines, IsLine line.toList) ∧ Delivers input lines ∧
        ∃ transcript, echoAll "" {} (readsOf .all input) =
            (lines.map .line ++ [.endOfInput], transcript) ∧
          Delivers transcript.held.toList lines := by
  refine ⟨fun ended last hlines hne => delivers_written hlines hne, fun input hinput => ?_⟩
  obtain ⟨text, htext⟩ := Option.isSome_iff_exists.mp hinput
  obtain rfl := Text.ofBytes?_eq_some_iff.mp htext
  obtain ⟨lines, hlines, hreads⟩ := exists_readsOf text
  refine ⟨lines, hlines, delivers_of_readsOf hreads,
    Sink.push {} (lines.flatMap (echoed "")), ?_, ?_⟩
  · rw [hreads, echoAll_lines rfl]
  · rw [Sink.toList_held_push]
    exact delivers_echoed hlines

/-- Lines of both ends, one of them empty, and a last line that nothing ends. -/
theorem mixed_ends_delivered :
    (∀ line ∈ ["a\rb", "", "c", "d"], IsLine line.toList) ∧ some "d" ≠ some "" ∧
      Delivers (Text.bytes "a\rb\r\n\nc\nd") ["a\rb", "", "c", "d"] ∧
      (Text.ofBytes? (Text.bytes "a\r\r\nb\nc\r")).isSome ∧
      ∃ lines : List String, (∀ line ∈ lines, IsLine line.toList) ∧
        Delivers (Text.bytes "a\r\r\nb\nc\r") lines ∧
        ∃ transcript, echoAll "" {} (readsOf .all (Text.bytes "a\r\r\nb\nc\r")) =
            (lines.map .line ++ [.endOfInput], transcript) ∧
          Delivers transcript.held.toList lines := by
  have hlines : ∀ line ∈ ["a\rb", "", "c", "d"], IsLine line.toList := by
    simp only [IsLine]
    decide
  have hlast : some "d" ≠ some "" := by decide
  have hread : (Text.ofBytes? (Text.bytes "a\r\r\nb\nc\r")).isSome := by decide +kernel
  exact ⟨hlines, hlast,
    lines_delivered.1 [("a\rb", .returnNewline), ("", .newline), ("c", .newline)] (some "d")
      hlines hlast,
    hread, lines_delivered.2 _ hread⟩

-- All carriage returns at the end of a line are dropped, not only the one before the newline.
example : readsOf .all (Text.bytes "a\rb\r\r\n\r\nc\r") =
    [.line "a\rb", .line "", .line "c"] := by
  decide +kernel

end RelAlgebra.Shell
