import Mathlib
import RelAlgebra.Shell.Console

/-!
What writing does to the outputs of a shell.

A sink takes what fits. So data that is written to its end is stored up to the limit, and the write
fails just when something did not fit. Without limits nothing fails and everything is stored. With
limits the same holds up to the first piece that does not fit; from then on the outputs hold a first
part of what they would hold without limits.
-/

namespace RelAlgebra.Shell

/-! ### Sinks -/

namespace Sink

def push (s : Sink) (data : List UInt8) : Sink := { s with held := s.held ++ data }

@[simp] lemma limit_push (s : Sink) (data : List UInt8) : (s.push data).limit = s.limit := rfl

@[simp] lemma toList_held_push (s : Sink) (data : List UInt8) :
    (s.push data).held.toList = s.held.toList ++ data := by
  simp [push]

@[simp] lemma size_held_push (s : Sink) (data : List UInt8) :
    (s.push data).held.size = s.held.size + data.length := by
  rw [← Array.length_toList, toList_held_push, List.length_append, Array.length_toList]

@[simp] lemma push_nil (s : Sink) : s.push [] = s := by
  simp [push]

lemma push_push (s : Sink) (as bs : List UInt8) : (s.push as).push bs = s.push (as ++ bs) := by
  have h : (s.held ++ as) ++ bs = s.held ++ (as ++ bs) := Array.toList_inj.mp (by simp)
  simp only [push, h]

lemma fitting_le (s : Sink) (n : ℕ) : s.fitting n ≤ n := by
  unfold fitting
  split
  · exact le_rfl
  · exact min_le_left _ _

lemma fitting_of_unlimited {s : Sink} (h : s.limit = none) (n : ℕ) : s.fitting n = n := by
  simp [fitting, h]

lemma fitting_push_eq_zero {s : Sink} {n : ℕ} {data : List UInt8}
    (h : s.fitting n < n) (hdata : data.length = s.fitting n) (m : ℕ) :
    (s.push data).fitting m = 0 := by
  unfold fitting at h hdata ⊢
  rw [limit_push, size_held_push]
  cases hl : s.limit with
  | none => simp [hl] at h
  | some limit =>
    simp only [hl] at h hdata ⊢
    omega

lemma write_eq (data : List UInt8) (s : Sink) :
    Writer.write data s = if s.fitting data.length = 0 ∧ data ≠ [] then (.error .writerFull, s)
      else (.ok (s.fitting data.length), s.push (data.take (s.fitting data.length))) := rfl

end Sink

lemma writeAll_sink (data : List UInt8) (s : Sink) :
    writeAll data s =
      (if s.fitting data.length = data.length then .ok () else .error .writerFull,
        s.push (data.take (s.fitting data.length))) := by
  cases data with
  | nil =>
    have h : s.fitting 0 = 0 := Nat.le_zero.mp (s.fitting_le 0)
    rw [writeAll]
    simp [h]
  | cons b bs =>
    have hle := s.fitting_le (bs.length + 1)
    rw [writeAll, Sink.write_eq, List.length_cons]
    cases hn : s.fitting (bs.length + 1) with
    | zero => simp
    | succ n =>
      simp only [Nat.succ_ne_zero, false_and, if_false]
      by_cases hall : n + 1 = bs.length + 1
      · have hdrop : bs.drop n = [] := List.drop_eq_nil_of_le (by omega)
        rw [if_pos hall, hdrop, writeAll]
      · -- the limit is reached, so the second write fails
        have hlt : s.fitting (bs.length + 1) < bs.length + 1 := by omega
        have hlen : ((b :: bs).take (n + 1)).length = s.fitting (bs.length + 1) := by
          rw [List.length_take, List.length_cons]
          omega
        obtain ⟨c, cs, hdrop⟩ : ∃ c cs, bs.drop n = c :: cs := by
          refine List.exists_cons_of_ne_nil fun hnil => ?_
          have := List.drop_eq_nil_iff.mp hnil
          omega
        rw [if_neg hall, hdrop, writeAll, Sink.write_eq, Sink.fitting_push_eq_zero hlt hlen]
        simp

lemma writeAll_unlimited {s : Sink} (h : s.limit = none) (data : List UInt8) :
    writeAll data s = (.ok (), s.push data) := by
  rw [writeAll_sink, Sink.fitting_of_unlimited h, if_pos rfl, List.take_length]

lemma writeAll_limited {s : Sink} {limit : Option ℕ} (h : ∀ n ∈ limit, s.held.size ≤ n)
    (data : List UInt8) :
    ((∀ n ∈ limit, s.held.size + data.length ≤ n) ∧
        writeAll data { s with limit } = (.ok (), { s.push data with limit })) ∨
      ∃ n ∈ limit, n < s.held.size + data.length ∧ ∃ stored, stored <+: data ∧
        s.held.size + stored.length = n ∧
        writeAll data { s with limit } = (.error .writerFull, { s.push stored with limit }) := by
  rw [writeAll_sink]
  cases limit with
  | none => exact .inl ⟨by simp, by simp [Sink.fitting, Sink.push]⟩
  | some n =>
    have hle := h n rfl
    have hfitting : Sink.fitting { s with limit := some n } data.length =
        min data.length (n - s.held.size) := rfl
    rw [hfitting]
    by_cases hfits : s.held.size + data.length ≤ n
    · have hmin : min data.length (n - s.held.size) = data.length := by omega
      refine .inl ⟨by simpa using hfits, ?_⟩
      rw [hmin, if_pos rfl, List.take_length]
      rfl
    · have hmin : min data.length (n - s.held.size) = n - s.held.size := by omega
      refine .inr ⟨n, rfl, by omega, data.take (n - s.held.size), List.take_prefix _ _, ?_, ?_⟩
      · rw [List.length_take]
        omega
      · rw [hmin, if_neg (by omega)]
        rfl

lemma writeAll_tee {t : Tee} (hp : t.primary.limit = none) (hc : t.copy.limit = none)
    (data : List UInt8) :
    writeAll data t = (.ok (), ⟨t.primary.push data, t.copy.push data⟩) := by
  cases data with
  | nil => rw [writeAll]; simp
  | cons b bs =>
    have hwrite : Writer.write (b :: bs) t =
        (.ok (bs.length + 1), ⟨t.primary.push (b :: bs), t.copy.push (b :: bs)⟩) := by
      change Tee.write (b :: bs) t = _
      rw [Tee.write, Sink.write_eq, Sink.fitting_of_unlimited hp]
      simp [writeAll_unlimited hc]
    rw [writeAll, hwrite]
    simp [writeAll]

/-! ### Both outputs -/

def bytesOn (ch : Channel) (ps : List Piece) : List UInt8 :=
  (ps.filter fun p => p.channel = ch).flatMap fun p => Text.bytes p.text

lemma bytesOn_cons (ch : Channel) (p : Piece) (ps : List Piece) :
    bytesOn ch (p :: ps) = bytesOn ch [p] ++ bytesOn ch ps := by
  by_cases h : p.channel = ch <;> simp [bytesOn, h]

lemma bytesOn_append (ch : Channel) (ps qs : List Piece) :
    bytesOn ch (ps ++ qs) = bytesOn ch ps ++ bytesOn ch qs := by
  simp [bytesOn]

namespace Console

lemma sink_withSink (c : Console) (s : Sink) (ch ch' : Channel) :
    (c.withSink s ch).sink ch' = if ch' = ch then s else c.sink ch' := by
  cases ch <;> cases ch' <;> rfl

lemma ext_sink {c c' : Console} (h : ∀ ch, c.sink ch = c'.sink ch)
    (ht : c.transcript = c'.transcript) : c = c' := by
  have ho : c.out = c'.out := h .out
  have he : c.err = c'.err := h .err
  cases c
  cases c'
  simp_all

structure Unlimited (c : Console) : Prop where
  sink : ∀ ch, (c.sink ch).limit = none
  transcript : ∀ t ∈ c.transcript, t.limit = none

lemma unlimited_default : Unlimited {} := ⟨fun ch => by cases ch <;> rfl, by simp⟩

lemma sink_transcript (c : Console) (t : Option Sink) (ch : Channel) :
    { c with transcript := t }.sink ch = c.sink ch := by
  cases ch <;> rfl

lemma transcript_withSink (c : Console) (s : Sink) (ch : Channel) :
    (c.withSink s ch).transcript = c.transcript := by
  cases ch <;> rfl

lemma push_withSink (c : Console) (p : Piece) (ch : Channel) :
    (c.withSink ((c.sink p.channel).push (Text.bytes p.text)) p.channel).sink ch =
      (c.sink ch).push (bytesOn ch [p]) := by
  rw [sink_withSink]
  split
  · next heq => subst heq; simp [bytesOn]
  · next hne => simp [bytesOn, Ne.symm hne]

lemma Unlimited.put {c : Console} (h : c.Unlimited) (p : Piece) :
    ∃ c', c.put p = (.ok (), c') ∧ c'.Unlimited ∧
      (∀ ch, c'.sink ch = (c.sink ch).push (bytesOn ch [p])) ∧
      (c.transcript = none → c'.transcript = none) := by
  unfold Console.put
  cases ht : c.transcript with
  | none =>
    simp only [writeAll_unlimited (h.sink _)]
    refine ⟨_, rfl, ⟨fun ch => ?_, ?_⟩, push_withSink c p, fun _ => ?_⟩
    · rw [push_withSink, Sink.limit_push, h.sink]
    · rw [transcript_withSink]
      exact h.transcript
    · rw [transcript_withSink, ht]
  | some t =>
    simp only [writeAll_tee (t := ⟨c.sink p.channel, t⟩) (h.sink _) (h.transcript t ht)]
    refine ⟨_, rfl, ⟨fun ch => ?_, ?_⟩, fun ch => ?_, by simp⟩
    · rw [sink_transcript, push_withSink, Sink.limit_push, h.sink]
    · simpa using h.transcript t ht
    · rw [sink_transcript, push_withSink]

lemma Unlimited.putAll {c : Console} (h : c.Unlimited) (ps : List Piece) :
    ∃ c', c.putAll ps = (.ok (), c') ∧ c'.Unlimited ∧
      (∀ ch, c'.sink ch = (c.sink ch).push (bytesOn ch ps)) ∧
      (c.transcript = none → c'.transcript = none) := by
  induction ps generalizing c with
  | nil => exact ⟨c, rfl, h, fun ch => by simp [bytesOn], id⟩
  | cons p ps ih =>
    obtain ⟨c₁, hput, h₁, hsink₁, ht₁⟩ := h.put p
    obtain ⟨c₂, hputAll, h₂, hsink₂, ht₂⟩ := ih h₁
    refine ⟨c₂, by rw [Console.putAll, hput]; exact hputAll, h₂, fun ch => ?_, ht₂ ∘ ht₁⟩
    rw [hsink₂, hsink₁, Sink.push_push, ← bytesOn_cons]

/-! ### Limits -/

def limited (limits : Channel → Option ℕ) (c : Console) : Console :=
  { c with out := { c.out with limit := limits .out }, err := { c.err with limit := limits .err } }

lemma sink_limited (limits : Channel → Option ℕ) (c : Console) (ch : Channel) :
    (c.limited limits).sink ch = { c.sink ch with limit := limits ch } := by
  cases ch <;> rfl

def Within (limits : Channel → Option ℕ) (c : Console) : Prop :=
  ∀ ch, ∀ n ∈ limits ch, (c.sink ch).held.size ≤ n

/-- What is held by `cut` is a first part of what is held by `c`, and one output of `cut` is full
before its end. -/
structure Overflow (limits : Channel → Option ℕ) (c cut : Console) : Prop where
  isPrefix : ∀ ch, (cut.sink ch).held.toList <+: (c.sink ch).held.toList
  full : ∃ ch, ∃ n ∈ limits ch, (cut.sink ch).held.size = n ∧ n < (c.sink ch).held.size

variable {limits : Channel → Option ℕ} {c c' cut : Console}

lemma Overflow.mono (h : Overflow limits c cut)
    (hc : ∀ ch, (c.sink ch).held.toList <+: (c'.sink ch).held.toList) :
    Overflow limits c' cut := by
  refine ⟨fun ch => (h.isPrefix ch).trans (hc ch), ?_⟩
  obtain ⟨ch, n, hn, hcut, hlt⟩ := h.full
  have hle := (hc ch).length_le
  rw [Array.length_toList, Array.length_toList] at hle
  exact ⟨ch, n, hn, hcut, by omega⟩

lemma Overflow.not_within (h : Overflow limits c cut) : ¬ c.Within limits := by
  obtain ⟨ch, n, hn, -, hlt⟩ := h.full
  intro hw
  have := hw ch n hn
  omega

lemma put_limited (hc : c.Unlimited) (ht : c.transcript = none) (hw : c.Within limits) (p : Piece)
    (hput : c.put p = (.ok (), c')) :
    (c'.Within limits ∧ (c.limited limits).put p = (.ok (), c'.limited limits)) ∨
      ∃ cut, (c.limited limits).put p = (.error .writerFull, cut) ∧ Overflow limits c' cut := by
  have hlimited : (c.limited limits).transcript = none := ht
  have hc' : c' = c.withSink ((c.sink p.channel).push (Text.bytes p.text)) p.channel := by
    simp only [Console.put, ht, writeAll_unlimited (hc.sink _), Prod.mk.injEq, true_and] at hput
    exact hput.symm
  have hsink (ch : Channel) : c'.sink ch = (c.sink ch).push (bytesOn ch [p]) := by
    rw [hc', push_withSink]
  have hsame : (c'.sink p.channel).held.size =
      (c.sink p.channel).held.size + (Text.bytes p.text).length := by
    simp [hsink, bytesOn]
  simp only [Console.put, hlimited, sink_limited]
  -- only the channel of the piece is written to, so its limit alone decides
  rcases writeAll_limited (hw p.channel) (Text.bytes p.text) with
    ⟨hfits, hwrite⟩ | ⟨n, hn, hlt, stored, hstored, hfull, hwrite⟩
  · refine .inl ⟨fun ch n hn => ?_, ?_⟩
    · by_cases hch : ch = p.channel
      · subst hch
        rw [hsame]
        exact hfits n hn
      · have := hw ch n hn
        rw [hsink]
        simpa [bytesOn, Ne.symm hch] using this
    · rw [hwrite]
      refine Prod.ext rfl (ext_sink (fun ch => ?_) ?_)
      · rw [sink_withSink, sink_limited, sink_limited, hc', sink_withSink]
        split
        · next heq => rw [heq]
        · rfl
      · rw [transcript_withSink, hc']
        exact (transcript_withSink c _ _).symm
  · refine .inr ⟨_, by rw [hwrite], ⟨fun ch => ?_, p.channel, n, hn, ?_, ?_⟩⟩
    · rw [sink_withSink, sink_limited, hc', sink_withSink]
      split
      · next heq =>
        simp only [Sink.toList_held_push]
        exact (List.prefix_append_right_inj _).mpr hstored
      · exact List.prefix_rfl
    · rw [sink_withSink, if_pos rfl, Sink.size_held_push, hfull]
    · rw [hsame]
      exact hlt

lemma putAll_limited (hc : c.Unlimited) (ht : c.transcript = none) (hw : c.Within limits)
    (ps : List Piece) (hputAll : c.putAll ps = (.ok (), c')) :
    (c'.Within limits ∧ (c.limited limits).putAll ps = (.ok (), c'.limited limits)) ∨
      ∃ cut, (c.limited limits).putAll ps = (.error .writerFull, cut) ∧ Overflow limits c' cut := by
  induction ps generalizing c with
  | nil =>
    cases hputAll
    exact .inl ⟨hw, rfl⟩
  | cons p ps ih =>
    obtain ⟨c₁, hput, h₁, -, ht₁⟩ := hc.put p
    have hrest : c₁.putAll ps = (.ok (), c') := by
      rw [Console.putAll, hput] at hputAll
      exact hputAll
    rcases put_limited hc ht hw p hput with ⟨hw₁, hlimited⟩ | ⟨cut, hcut, hover⟩
    · have htail := ih h₁ (ht₁ ht) hw₁ hrest
      rwa [Console.putAll, hlimited]
    · refine .inr ⟨cut, by rw [Console.putAll, hcut], hover.mono fun ch => ?_⟩
      obtain ⟨c₂, hputAll₂, -, hsink₂, -⟩ := h₁.putAll ps
      rw [hrest] at hputAll₂
      cases hputAll₂
      rw [hsink₂, Sink.toList_held_push]
      exact List.prefix_append _ _

end Console

end RelAlgebra.Shell
