/-!
Texts and their UTF-8 bytes. Bytes that are no text are read with a replacement character for
each ill-formed stretch.
-/

namespace RelAlgebra.Text

def bytes (text : String) : List UInt8 := text.toUTF8.data.toList

/-- The text of the bytes, if they are well-formed. -/
def ofBytes? (bs : List UInt8) : Option String := String.fromUTF8? ⟨bs.toArray⟩

/-- How a character goes on after its first byte: the number of bytes that follow and the least
and greatest value of the next one. -/
structure Lead where
  following : Nat
  least : UInt8
  greatest : UInt8

/-- `none` for a byte that starts no character. -/
def lead? (b : UInt8) : Option Lead :=
  if b < 0x80 then some ⟨0, 0x80, 0xBF⟩
  else if b < 0xC2 then none
  else if b < 0xE0 then some ⟨1, 0x80, 0xBF⟩
  else if b = 0xE0 then some ⟨2, 0xA0, 0xBF⟩
  else if b = 0xED then some ⟨2, 0x80, 0x9F⟩
  else if b < 0xF0 then some ⟨2, 0x80, 0xBF⟩
  else if b = 0xF0 then some ⟨3, 0x90, 0xBF⟩
  else if b < 0xF4 then some ⟨3, 0x80, 0xBF⟩
  else if b = 0xF4 then some ⟨3, 0x80, 0x8F⟩
  else none

/-- The bytes that go on with a character, as far as they are well-formed. -/
def following : Nat → UInt8 → UInt8 → List UInt8 → List UInt8
  | n + 1, least, greatest, b :: bs =>
    if least ≤ b ∧ b ≤ greatest then b :: following n 0x80 0xBF bs else []
  | _, _, _, _ => []

/-- The character of a first byte and those that follow it. -/
def charOf (first : UInt8) (rest : List UInt8) : Char :=
  let mask := match rest.length with
    | 0 => 0x80
    | 1 => 0x20
    | 2 => 0x10
    | _ => 0x08
  Char.ofNat (rest.foldl (fun n b => n * 64 + b.toNat % 64) (first.toNat % mask))

/-- Stands for bytes that are no character. -/
def replacement : Char := '\uFFFD'

def decode : List UInt8 → List Char
  | [] => []
  | b :: bs =>
    match lead? b with
    | none => replacement :: decode bs
    | some l =>
      let rest := following l.following l.least l.greatest bs
      let c := if rest.length = l.following then charOf b rest else replacement
      c :: decode (bs.drop rest.length)
termination_by bs => bs.length
decreasing_by all_goals (simp only [List.length_drop, List.length_cons]; omega)

/-- The text of the bytes, with a replacement character for each ill-formed stretch. -/
def ofBytes (bs : List UInt8) : String := String.ofList (decode bs)

end RelAlgebra.Text
