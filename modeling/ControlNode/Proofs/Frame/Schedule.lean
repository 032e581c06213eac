import ControlNode.Proofs.Frame.Feed

/-!
# Schedules of a decoder

A stream can be pushed in pieces, and packets can be taken at any time in between. As the bytes
that complete no packet are read lazily, two schedules of one stream lead through decoders that
differ. What they have in common is what they come to when the rest of the stream is fed
(`Decoder.feed_stream`): so no schedule returns other packets than a single feed of the whole
stream, and once a decoder is asked for a packet in vain it is the decoder that this feed leaves
(`Decoder.follow_agrees_with_feed`).
-/

namespace ControlNode.Frame.Decoder

/-- One call on a decoder. -/
inductive Call where
  | push (bytes : List UInt8)
  | next

/-- The bytes that a call adds to the stream. -/
def Call.bytes : Call → List UInt8
  | .push bytes => bytes
  | .next => []

/-- The stream that a schedule pushes. -/
def stream (calls : List Call) : List UInt8 := calls.flatMap Call.bytes

/-- Makes one call; the packet is the one that it takes, if any. -/
def call (d : Decoder) : Call → Option Packet × Decoder
  | .push bytes => (none, d.push bytes)
  | .next => d.next.value

/-- Makes the calls of a schedule and collects the packets that they take. -/
def follow (d : Decoder) : List Call → List Packet × Decoder
  | [] => ([], d)
  | c :: calls =>
    let (p, d) := d.call c
    let (packets, d) := d.follow calls
    (p.toList ++ packets, d)

variable (d : Decoder)

@[simp] lemma stream_append (calls later : List Call) :
    stream (calls ++ later) = stream calls ++ stream later := List.flatMap_append

@[simp] lemma stream_replicate_next (n : Nat) : stream (List.replicate n .next) = [] := by
  rw [stream, List.flatMap_eq_nil_iff]
  intro c hc
  rw [List.eq_of_mem_replicate hc, Call.bytes]

lemma follow_cons (c : Call) (calls : List Call) :
    d.follow (c :: calls) =
      ((d.call c).1.toList ++ ((d.call c).2.follow calls).1, ((d.call c).2.follow calls).2) := rfl

lemma follow_append (calls later : List Call) :
    d.follow (calls ++ later) =
      ((d.follow calls).1 ++ ((d.follow calls).2.follow later).1,
        ((d.follow calls).2.follow later).2) := by
  induction calls generalizing d with
  | nil => rfl
  | cons c calls ih => rw [List.cons_append, follow_cons, follow_cons, ih, List.append_assoc]

/-! ### The rest of a stream -/

variable {d} {d' : Decoder}

/-- A packet that is taken early is the first one of the feed. -/
lemma feed_of_next_some {p : Packet} (h : d.next.value = (some p, d')) (bytes : List UInt8) :
    (d.feed bytes).value = (p :: (d'.feed bytes).value.1, (d'.feed bytes).value.2) := by
  rw [feed, drain_of_some (next_push_of_some h bytes)]
  rfl

/-- Asking in vain for a packet changes nothing that a feed returns. -/
lemma feed_of_next_none (h : d.next.value = (none, d')) (bytes : List UInt8) :
    (d.feed bytes).value = (d'.feed bytes).value := drain_congr (next_push_of_none h bytes)

/-- A decoder that has been asked in vain is fed nothing. -/
lemma feed_nil_of_next_none (h : d.next.value = (none, d')) : (d.feed []).value = ([], d') := by
  rw [feed_of_next_none h, feed_nil (isDrained_of_next h)]

/-- One call is a step on the way of a feed. -/
lemma feed_call (d : Decoder) (c : Call) (more : List UInt8) :
    (d.feed (c.bytes ++ more)).value =
      ((d.call c).1.toList ++ ((d.call c).2.feed more).value.1,
        ((d.call c).2.feed more).value.2) := by
  cases c with
  | push bytes =>
    rw [Call.bytes, feed, push_append]
    rfl
  | next =>
    rw [Call.bytes, List.nil_append, call]
    rcases h : d.next.value with ⟨_ | p, d'⟩
    · rw [feed_of_next_none h]
      rfl
    · rw [feed_of_next_some h]
      rfl

/-- Whatever the schedule, the packets that it takes and those of the rest of the stream are the
packets of one feed, and both ways end in the same decoder. -/
theorem feed_stream (d : Decoder) (calls : List Call) (more : List UInt8) :
    (d.feed (stream calls ++ more)).value =
      ((d.follow calls).1 ++ ((d.follow calls).2.feed more).value.1,
        ((d.follow calls).2.feed more).value.2) := by
  induction calls generalizing d with
  | nil => rfl
  | cons c calls ih =>
    rw [stream, List.flatMap_cons, List.append_assoc, feed_call, ← stream, ih, follow_cons,
      List.append_assoc]

/-! ### Taking packets until there are none -/

/-- A schedule that ends with asking for a packet in vain has taken all packets. -/
lemma follow_next_of_none {calls : List Call} (h : (d.follow calls).2.next.value.1 = none) :
    d.follow (calls ++ [.next]) = (d.feed (stream calls)).value := by
  have hnext : (d.follow calls).2.next.value = (none, (d.follow calls).2.next.value.2) :=
    Prod.ext h rfl
  have hfeed := feed_stream d calls []
  rw [List.append_nil, feed_nil_of_next_none hnext] at hfeed
  rw [hfeed, follow_append]
  show (_ ++ ((d.follow calls).2.next.value.1.toList ++ []), _) = _
  rw [h]
  rfl

/-- Every decoder can be asked for packets until there are none. -/
lemma exists_next_eq_none (d : Decoder) :
    ∃ n, (d.follow (List.replicate n .next)).2.next.value.1 = none := by
  rcases h : d.next.value with ⟨_ | p, d'⟩
  · exact ⟨0, congrArg Prod.fst h⟩
  · obtain ⟨n, hn⟩ := exists_next_eq_none d'
    refine ⟨n + 1, ?_⟩
    rw [List.replicate_succ, follow_cons, call, h]
    exact hn
termination_by d.weight
decreasing_by exact weight_next_lt h

/-- For any decoder, whatever has been done with it before: bytes fed in two pieces give the packets
and the decoder of these bytes fed at once. More generally, however a stream is cut and whenever
packets are taken, those taken so far are the first ones of the whole stream; taking them comes to
an end, and then packets, counts and state are those of one feed. -/
theorem follow_agrees_with_feed (d : Decoder) :
    (∀ bytes more, (d.feed (bytes ++ more)).value =
      ((d.feed bytes).value.1 ++ ((d.feed bytes).value.2.feed more).value.1,
        ((d.feed bytes).value.2.feed more).value.2)) ∧
    (∀ calls later, (d.follow calls).1 <+: (d.feed (stream (calls ++ later))).value.1) ∧
    (∀ calls, (d.follow calls).2.next.value.1 = none →
      d.follow (calls ++ [.next]) = (d.feed (stream calls)).value) ∧
    (∀ calls, ∃ n, (d.follow (calls ++ List.replicate n .next)).2.next.value.1 = none ∧
      d.follow (calls ++ List.replicate (n + 1) .next) = (d.feed (stream calls)).value) := by
  refine ⟨d.feed_append, fun calls later => ?_, fun calls => follow_next_of_none, fun calls => ?_⟩
  · rw [stream_append, feed_stream]
    exact List.prefix_append _ _
  · obtain ⟨n, hn⟩ := exists_next_eq_none (d.follow calls).2
    have hnone : (d.follow (calls ++ List.replicate n .next)).2.next.value.1 = none := by
      rw [follow_append]
      exact hn
    refine ⟨n, hnone, ?_⟩
    have hfollow := follow_next_of_none hnone
    rwa [stream_append, stream_replicate_next, List.append_nil, List.append_assoc,
      ← List.replicate_succ'] at hfollow

end ControlNode.Frame.Decoder
