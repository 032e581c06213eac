import ControlNode.Frame.Intake
import ControlNode.Proofs.Frame.Schedule

/-!
# Packets from a line that ends

A line goes on until a read returns no bytes or fails for good; what arrives before that is its
stream. An intake reads the stream lazily, in pieces that need not be those in which it arrives, and
is held up by silence and interruptions. Whatever happens, the packets that it returns are those of
one feed of the stream: `Intake.progress_next` says of each way in which taking a packet can end
what is then left of them.
-/

namespace ControlNode

namespace Line

/-! ### The stream of a line -/

/-- Whether a line goes on after an arrival: after data, an interruption, or silence until the
timeout. No data where some is asked for, and any other fault, are its end. -/
def Arrival.goesOn : Arrival → Bool
  | .data bytes => bytes ≠ []
  | .fault f => f.isInterruption || f.isPollTimeout

/-- The bytes of an arrival. -/
def Arrival.bytes : Arrival → List UInt8
  | .data bytes => bytes
  | .fault _ => []

namespace Source

/-- What arrives before a line ends. -/
def leading (s : Source) : List Arrival := s.arrivals.takeWhile Arrival.goesOn

/-- The bytes that can still be read before a line ends. -/
def stream (s : Source) : List UInt8 := s.kept ++ s.leading.flatMap Arrival.bytes

/-- Whether a line ends at all. -/
def Ends (s : Source) : Prop := s.ending = .closed ∨ ∃ a ∈ s.arrivals, a.goesOn = false

/-- What a line keeps while it is read: that it ends, and that no more arrives before that. -/
structure Later (s s' : Source) : Prop where
  ends : s.Ends → s'.Ends
  leading_le : s'.leading.length ≤ s.leading.length

lemma Later.rfl {s : Source} : Later s s := ⟨id, Nat.le_refl _⟩

lemma Later.trans {s s' s'' : Source} (h : Later s s') (h' : Later s' s'') : Later s s'' :=
  ⟨fun hends => h'.ends (h.ends hends), Nat.le_trans h'.leading_le h.leading_le⟩

/-! ### What a read leaves -/

variable {s s' : Source} {limit : Nat}

lemma leading_cons {a : Arrival} {arrivals : List Arrival} (harr : s.arrivals = a :: arrivals)
    (ha : a.goesOn = true) : s.leading = a :: arrivals.takeWhile Arrival.goesOn := by
  rw [leading, harr, List.takeWhile_cons_of_pos ha]

/-- An arrival after which a line goes on does not end it. -/
lemma ends_of_tail {a : Arrival} {arrivals : List Arrival} (harr : s.arrivals = a :: arrivals)
    (ha : a.goesOn = true) (harr' : s'.arrivals = arrivals) (hending : s'.ending = s.ending)
    (h : s.Ends) : s'.Ends := by
  rcases h with h | ⟨b, hb, hover⟩
  · exact .inl (hending.trans h)
  · rw [harr, List.mem_cons] at hb
    rcases hb with rfl | hb
    · rw [ha] at hover
      cases hover
    · exact .inr ⟨b, harr' ▸ hb, hover⟩

lemma stream_of_read_data {b : UInt8} {bytes : List UInt8}
    (h : s.read limit = (.ok (b :: bytes), s')) :
    s.stream = (b :: bytes) ++ s'.stream ∧ Later s s' := by
  unfold read at h
  split at h
  · next c kept _ hkept =>
    simp only [Prod.mk.injEq, Except.ok.injEq] at h
    obtain ⟨hbytes, rfl⟩ := h
    refine ⟨?_, ⟨id, Nat.le_refl _⟩⟩
    rw [← hbytes, stream, hkept, stream, ← List.append_assoc, List.take_append_drop]
    rfl
  · next data arrivals hkept harr =>
    simp only [Prod.mk.injEq, Except.ok.injEq] at h
    obtain ⟨hbytes, rfl⟩ := h
    have hdata : (Arrival.data data).goesOn = true := by
      cases data with
      | nil => simp at hbytes
      | cons => rfl
    refine ⟨?_, ⟨ends_of_tail harr hdata rfl rfl, ?_⟩⟩
    · rw [← hbytes, stream, hkept, leading_cons harr hdata, List.flatMap_cons, List.nil_append]
      show data ++ _ = data.take limit ++ (data.drop limit ++ _)
      rw [← List.append_assoc, List.take_append_drop]
      rfl
    · rw [leading_cons harr hdata, List.length_cons]
      exact Nat.le_succ _
  · cases h
  · split at h <;> cases h

lemma stream_of_read_nothing (hlimit : 0 < limit) (h : s.read limit = (.ok [], s')) :
    s.stream = [] := by
  unfold read at h
  split at h
  · next c kept _ hkept =>
    simp only [Prod.mk.injEq, Except.ok.injEq, List.take_eq_nil_iff, reduceCtorEq, or_false] at h
    exact absurd h.1 (Nat.ne_of_gt hlimit)
  · next data arrivals hkept harr =>
    simp only [Prod.mk.injEq, Except.ok.injEq, List.take_eq_nil_iff] at h
    obtain rfl : data = [] := h.1.resolve_left (Nat.ne_of_gt hlimit)
    rw [stream, hkept, leading, harr]
    rfl
  · cases h
  · next hkept harr =>
    rw [stream, hkept, leading, harr]
    rfl

lemma stream_of_read_fault {f : Fault} (h : s.read limit = (.error f, s'))
    (hf : f.isInterruption = false) (hf' : f.isPollTimeout = false) : s.stream = [] := by
  unfold read at h
  split at h
  · cases h
  · cases h
  · next fault arrivals hkept harr =>
    cases h
    have hover : ¬ (Arrival.fault f).goesOn = true := by simp [Arrival.goesOn, hf, hf']
    rw [stream, hkept, leading, harr, List.takeWhile_cons_of_neg hover]
    rfl
  · next hkept harr =>
    rw [stream, hkept, leading, harr]
    rfl

/-- A read that is interrupted or finds nothing in time leaves the stream as it is. -/
lemma stream_of_read_pause {f : Fault} (h : s.read limit = (.error f, s'))
    (hf : (Arrival.fault f).goesOn = true) :
    s.stream = s'.stream ∧ Later s s' ∧ (s.Ends → s'.leading.length < s.leading.length) := by
  unfold read at h
  split at h
  · cases h
  · cases h
  · next fault arrivals hkept harr =>
    cases h
    have hleading := leading_cons harr hf
    refine ⟨?_, ⟨ends_of_tail harr hf rfl rfl, ?_⟩, fun _ => ?_⟩
    · rw [stream, hleading, List.flatMap_cons]
      rfl
    · rw [hleading, List.length_cons]
      exact Nat.le_succ _
    · rw [hleading, List.length_cons]
      exact Nat.lt_succ_self _
  · next hkept harr =>
    split at h
    · cases h
    · next hending =>
      cases h
      refine ⟨rfl, ⟨id, Nat.le_refl _⟩, ?_⟩
      -- a quiet line does not end
      rintro (hclosed | ⟨a, ha, -⟩)
      · rw [hending] at hclosed
        cases hclosed
      · rw [harr] at ha
        cases ha

/-- The weight of a line bounds what arrives before it ends. -/
lemma length_stream_le (s : Source) : s.stream.length + s.leading.length ≤ s.weight := by
  obtain ⟨arrivals, kept, ending, calls⟩ := s
  simp only [stream, leading, weight, List.length_append]
  induction arrivals with
  | nil => exact Nat.le_refl _
  | cons a arrivals ih =>
    rw [List.foldr_cons]
    cases ha : a.goesOn with
    | false =>
      rw [List.takeWhile_cons_of_neg (by simp [ha])]
      exact Nat.add_le_add_left (Nat.zero_le _) _
    | true =>
      rw [List.takeWhile_cons_of_pos ha, List.flatMap_cons, List.length_append, List.length_cons]
      have hbytes : a.bytes.length + 1 = a.weight := by cases a <;> rfl
      omega

end Source

end Line

namespace Frame.Intake

open Line

/-! ### Taking a packet -/

/-- The packets of what an intake has not read or not decoded yet, and the decoder after them. -/
def outcome (x : Intake) : List Packet × Decoder := (x.decoder.feed x.source.stream).value

lemma length_outcome_le (x : Intake) :
    x.outcome.1.length ≤ x.decoder.weight + x.source.stream.length := by
  have hdrain := (x.decoder.push x.source.stream).length_drain_le
  rw [Decoder.weight, Decoder.push, List.length_append] at hdrain
  rw [Decoder.weight, Nat.add_right_comm]
  exact hdrain

/-- How taking a packet can end, and what is then left of the packets. -/
inductive Progress (x : Intake) : Except Error (Option Packet) → Intake → Prop
  /-- The first packet is returned, the others are left. -/
  | packet {p : Packet} {x' : Intake} (h : x.outcome = (p :: x'.outcome.1, x'.outcome.2))
      (hlater : x.source.Later x'.source) : Progress x (.ok (some p)) x'
  /-- All packets are left, and one silence of the line is over. -/
  | silence {x' : Intake} (h : x.outcome = x'.outcome) (hlater : x.source.Later x'.source)
      (hlt : x.source.Ends → x'.source.leading.length < x.source.leading.length) :
      Progress x (.ok none) x'
  /-- The line is over, and so are the packets. -/
  | ended (e : Error) {x' : Intake} (h : x.outcome = ([], x'.decoder)) : Progress x (.error e) x'

/-- What is read without returning a packet does not change how taking it ends. -/
lemma Progress.of_later {x y x' : Intake} {r : Except Error (Option Packet)}
    (h : x.outcome = y.outcome) (hlater : x.source.Later y.source) (hy : y.Progress r x') :
    x.Progress r x' := by
  cases hy with
  | packet h' hlater' => exact .packet (h.trans h') (hlater.trans hlater')
  | silence h' hlater' hlt =>
    refine .silence (h.trans h') (hlater.trans hlater') fun hends => ?_
    exact Nat.lt_of_lt_of_le (hlt (hlater.ends hends)) hlater.leading_le
  | ended e h' => exact .ended e (h.trans h')

/-- Each way in which taking a packet ends leaves the packets that are still to come. -/
theorem progress_next (x : Intake) : x.Progress x.next.1 x.next.2 := by
  fun_induction next x with
  | case1 x p d h => exact .packet (Decoder.feed_of_next_some h x.source.stream) .rfl
  | case2 x d h s hread =>
    refine .ended .closed ?_
    rw [outcome, Source.stream_of_read_nothing (Nat.succ_pos _) hread]
    exact Decoder.feed_nil_of_next_none h
  | case3 x d h b bytes s hread ih =>
    obtain ⟨hstream, hlater⟩ := Source.stream_of_read_data hread
    refine .of_later ?_ hlater ih
    rw [outcome, Decoder.feed_of_next_none h, hstream, Decoder.feed, Decoder.push_append]
    rfl
  | case4 x d h f s hread hf ih =>
    have hgoes : (Arrival.fault f).goesOn = true := by simp [Arrival.goesOn, hf]
    obtain ⟨hstream, hlater, -⟩ := Source.stream_of_read_pause hread hgoes
    refine .of_later ?_ hlater ih
    rw [outcome, Decoder.feed_of_next_none h, hstream]
    rfl
  | case5 x d h f s hread hf hpoll =>
    have hgoes : (Arrival.fault f).goesOn = true := by simp [Arrival.goesOn, hpoll]
    obtain ⟨hstream, hlater, hlt⟩ := Source.stream_of_read_pause hread hgoes
    refine .silence ?_ hlater hlt
    rw [outcome, Decoder.feed_of_next_none h, hstream]
    rfl
  | case6 x d h f s hread hf hpoll =>
    refine .ended (.fault f) ?_
    rw [outcome, Source.stream_of_read_fault hread (by simpa using hf) (by simpa using hpoll)]
    exact Decoder.feed_nil_of_next_none h

end Frame.Intake

end ControlNode
