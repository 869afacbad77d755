import RelAlgebra.Proofs.Text.Encoding
import RelAlgebra.Text.Search

/-!
The order of texts is that of the bytes that encode them.

A greater character takes more bytes, of which the first is then greater, or as many, which hold its
digits to the base 64 from the highest on. So two texts are told apart within the bytes of the first
character in which they differ.
-/

namespace RelAlgebra.Text

lemma utf8EncodeChar_append_lt {c d : Char} (h : c < d) (as bs : List UInt8) :
    String.utf8EncodeChar c ++ as < String.utf8EncodeChar d ++ bs := by
  have hbyte (n m : ℕ) : UInt8.ofNat n < UInt8.ofNat m ↔ n % 256 < m % 256 := by
    rw [UInt8.lt_iff_toNat_lt, UInt8.toNat_ofNat', UInt8.toNat_ofNat']
  have hsame (n m : ℕ) : UInt8.ofNat n = UInt8.ofNat m ↔ n % 256 = m % 256 := by
    rw [← UInt8.toNat_inj, UInt8.toNat_ofNat', UInt8.toNat_ofNat']
  have hlt : c.val.toNat < d.val.toNat := h
  have hmax : d.val.toNat < 0x110000 := by
    rcases d.valid with hd | ⟨-, hd⟩ <;> omega
  -- each byte is stated by the digits before it, so that equal bytes are equal digits
  have htwo (n : ℕ) : n / 4096 = n / 64 / 64 := by omega
  have hthree (n : ℕ) : n / 262144 = n / 64 / 64 / 64 := by omega
  rw [String.utf8EncodeChar, String.utf8EncodeChar]
  simp only [htwo, hthree]
  split_ifs <;> simp only [List.cons_append, List.nil_append, List.cons_lt_cons_iff, hbyte, hsame]
    <;> omega

lemma bytes_lt_bytes {a b : String} (h : a < b) : bytes a < bytes b := by
  have hchars {cs ds : List Char} (h : cs < ds) :
      cs.flatMap String.utf8EncodeChar < ds.flatMap String.utf8EncodeChar := by
    induction h with
    | @nil d ds =>
      obtain ⟨b, bs, hb⟩ := List.exists_cons_of_ne_nil (@String.utf8EncodeChar_ne_nil d)
      rw [List.flatMap_cons, hb]
      exact List.nil_lt_cons _ _
    | rel h =>
      rw [List.flatMap_cons, List.flatMap_cons]
      exact utf8EncodeChar_append_lt h _ _
    | cons _ ih =>
      rw [List.flatMap_cons, List.flatMap_cons]
      exact List.append_left_lt ih
  have hlists : a.toList < b.toList := h
  rw [← a.ofList_toList, ← b.ofList_toList, bytes_ofList, bytes_ofList]
  exact hchars hlists

lemma perm_sorted (texts : List String) : (sorted texts).Perm texts := List.mergeSort_perm _ _

lemma pairwise_sorted (texts : List String) :
    (sorted texts).Pairwise fun a b => bytes a ≤ bytes b := by
  have hle : (sorted texts).Pairwise fun a b => decide (a ≤ b) = true :=
    List.pairwise_mergeSort (by simpa using fun _ _ _ => String.le_trans)
      (by simpa using String.le_total) texts
  refine hle.imp fun {a b} hab => ?_
  rcases eq_or_lt_of_le (of_decide_eq_true hab) with rfl | hlt
  · exact List.le_refl _
  · exact List.le_of_lt (bytes_lt_bytes hlt)

end RelAlgebra.Text
