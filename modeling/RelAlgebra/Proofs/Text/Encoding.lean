import Mathlib
import RelAlgebra.Text.Utf8
import RelAlgebra.Text.Width

/-!
Texts and the bytes that encode them.

A byte offset into a text stands between two characters exactly when the text can be cut there, and
then in one way only. A newline is encoded by a byte that is part of no other character, so the
bytes of a line hold none.
-/

namespace RelAlgebra.Text

/-! ### Offsets -/

lemma utf8ByteSize_ofList (cs : List Char) : (String.ofList cs).utf8ByteSize = width cs := by
  rw [String.utf8ByteSize_ofList]
  induction cs with
  | nil => rfl
  | cons c cs ih =>
    rw [String.utf8Len_cons, ih, width_cons]
    omega

lemma splitAt?_append (as bs : List Char) (n : ℕ) :
    splitAt? (width as + n) (as ++ bs) =
      (splitAt? n bs).map fun (before, after) => (as ++ before, after) := by
  induction as with
  | nil => simp
  | cons a as ih =>
    have hpos := a.utf8Size_pos
    obtain ⟨m, hm⟩ : ∃ m, width (a :: as) + n = m + 1 :=
      ⟨a.utf8Size - 1 + (width as + n), by rw [width_cons]; omega⟩
    have hle : a.utf8Size ≤ m + 1 := by rw [← hm, width_cons]; omega
    have hrest : m + 1 - a.utf8Size = width as + n := by rw [← hm, width_cons]; omega
    rw [hm, List.cons_append, splitAt?, if_pos hle, hrest, ih, Option.map_map]
    rfl

lemma splitAt?_eq_some_iff {n : ℕ} {cs as bs : List Char} :
    splitAt? n cs = some (as, bs) ↔ cs = as ++ bs ∧ width as = n := by
  constructor
  · intro h
    induction cs generalizing n as with
    | nil =>
      cases n with
      | zero => cases h; exact ⟨rfl, rfl⟩
      | succ n => cases h
    | cons c cs ih =>
      cases n with
      | zero => cases h; exact ⟨rfl, rfl⟩
      | succ n =>
        rw [splitAt?] at h
        split at h
        · next hle =>
          obtain ⟨⟨before, after⟩, hcut, heq⟩ := Option.map_eq_some_iff.mp h
          cases heq
          obtain ⟨rfl, hwidth⟩ := ih hcut
          refine ⟨rfl, ?_⟩
          rw [width_cons, hwidth]
          omega
        · cases h
  · rintro ⟨rfl, rfl⟩
    have h := splitAt?_append as bs 0
    simpa [splitAt?] using h

lemma exists_splitAt?_iff {line : String} {pos : ℕ} :
    (∃ cut, splitAt? pos line.toList = some cut) ↔ String.Pos.Raw.IsValid line ⟨pos⟩ := by
  rw [String.Pos.Raw.isValid_iff_exists_append]
  constructor
  · rintro ⟨⟨before, after⟩, h⟩
    obtain ⟨hline, hwidth⟩ := splitAt?_eq_some_iff.mp h
    refine ⟨String.ofList before, String.ofList after, ?_, ?_⟩
    · rw [← String.ofList_append, ← hline, String.ofList_toList]
    · rw [String.rawEndPos, utf8ByteSize_ofList, hwidth]
  · rintro ⟨before, after, rfl, hpos⟩
    refine ⟨(before.toList, after.toList), splitAt?_eq_some_iff.mpr ⟨String.toList_append, ?_⟩⟩
    have hsize := utf8ByteSize_ofList before.toList
    rw [String.ofList_toList] at hsize
    rw [← hsize]
    exact (congrArg String.Pos.Raw.byteIdx hpos).symm

/-! ### Bytes -/

lemma bytes_ofList (cs : List Char) :
    bytes (String.ofList cs) = cs.flatMap String.utf8EncodeChar := by
  rw [bytes, String.toUTF8_eq_toByteArray, String.toByteArray_ofList, List.utf8Encode,
    List.data_toByteArray, List.toList_toArray]

lemma bytes_append (a b : String) : bytes (a ++ b) = bytes a ++ bytes b := by
  simp [bytes]

lemma ofBytes?_eq_some_iff {bs : List UInt8} {text : String} :
    ofBytes? bs = some text ↔ bs = bytes text := by
  unfold ofBytes? String.fromUTF8?
  constructor
  · intro h
    split at h
    · cases h
      rfl
    · cases h
  · rintro rfl
    have hvalid : ByteArray.IsValidUTF8 ⟨(bytes text).toArray⟩ := text.isValidUTF8
    rw [dif_pos hvalid]
    rfl

lemma bytes_injective : Function.Injective bytes := fun a b h => by
  have ha := ofBytes?_eq_some_iff.mpr (rfl : bytes a = bytes a)
  rw [h, ofBytes?_eq_some_iff.mpr (rfl : bytes b = bytes b)] at ha
  exact (Option.some.inj ha).symm

/-- The byte of a newline is part of no other character: what goes on with a character, or starts a
longer one, is 128 or more. -/
lemma newline_mem_utf8EncodeChar {c : Char} : 10 ∈ String.utf8EncodeChar c ↔ c = '\n' := by
  have hbyte {n : ℕ} (h : (10 : UInt8) = UInt8.ofNat n) : n % 256 = 10 := by
    have := congrArg UInt8.toNat h
    simpa using this.symm
  constructor
  · intro h
    rw [String.utf8EncodeChar] at h
    split_ifs at h with h₁ h₂ h₃
    · have hten := hbyte (List.mem_singleton.mp h)
      exact Char.ext (UInt32.toNat_inj.mp (show c.val.toNat = 10 by omega))
    all_goals simp only [List.mem_cons, List.not_mem_nil, or_false] at h
    · rcases h with h | h <;> have hten := hbyte h <;> omega
    · rcases h with h | h | h <;> have hten := hbyte h <;> omega
    · rcases h with h | h | h | h <;> have hten := hbyte h <;> omega
  · rintro rfl
    decide

lemma newline_mem_bytes {cs : List Char} : 10 ∈ bytes (String.ofList cs) ↔ '\n' ∈ cs := by
  simp [bytes_ofList, newline_mem_utf8EncodeChar]

end RelAlgebra.Text
