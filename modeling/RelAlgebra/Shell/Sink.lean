import RelAlgebra.Error
import RelAlgebra.Text.Utf8

/-!
Where output goes. A sink may have a limit; a write that does not fit is cut, and fails when
nothing of it fits. A tee writes to a sink and copies what got there to another one.
-/

namespace RelAlgebra.Shell

class Writer (ω : Type) where
  /-- Writes the first bytes of the data and tells how many. -/
  write : List UInt8 → ω → Except IoFault Nat × ω

/-- Writes the data to its end, in as many writes as that takes. -/
def writeAll {ω : Type} [Writer ω] (data : List UInt8) (w : ω) : Except IoFault Unit × ω :=
  match data with
  | [] => (.ok (), w)
  | b :: bs =>
    match Writer.write (b :: bs) w with
    | (.error e, w) => (.error e, w)
    | (.ok 0, w) => (.error .nothingWritten, w)
    | (.ok (n + 1), w) => writeAll (bs.drop n) w
termination_by data.length
decreasing_by simp only [List.length_drop, List.length_cons]; omega

structure Sink where
  limit : Option Nat := none
  held : Array UInt8 := #[]
  deriving DecidableEq, Repr

namespace Sink

/-- How many of `n` bytes fit. -/
def fitting (s : Sink) (n : Nat) : Nat :=
  match s.limit with
  | none => n
  | some limit => min n (limit - s.held.size)

def write (data : List UInt8) (s : Sink) : Except IoFault Nat × Sink :=
  let n := s.fitting data.length
  if n = 0 ∧ data ≠ [] then (.error .writerFull, s)
  else (.ok n, { s with held := s.held ++ data.take n })

instance : Writer Sink := ⟨write⟩

/-- What the sink holds, as text. -/
def text (s : Sink) : String := Text.ofBytes s.held.toList

end Sink

structure Tee where
  primary : Sink
  copy : Sink
  deriving DecidableEq, Repr

def Tee.write (data : List UInt8) (t : Tee) : Except IoFault Nat × Tee :=
  match Writer.write data t.primary with
  | (.error e, primary) => (.error e, { t with primary })
  | (.ok n, primary) =>
    match writeAll (data.take n) t.copy with
    | (.ok (), copy) => (.ok n, ⟨primary, copy⟩)
    | (.error e, copy) => (.error e, ⟨primary, copy⟩)

instance : Writer Tee := ⟨Tee.write⟩

end RelAlgebra.Shell
