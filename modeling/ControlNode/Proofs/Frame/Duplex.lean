import ControlNode.Proofs.Frame.Noise
import ControlNode.Proofs.Frame.Schedule
import ControlNode.Proofs.Trace

/-!
# Calls on an endpoint

A call that asks an endpoint for a packet hands everything in the source buffer to the decoder, but
takes one packet only: packets that arrived together wait in the decoder for later calls. To the
decoder the calls are a schedule, in which bytes are pushed and then a packet is asked for
(`follow_steps`). Hence no packet is lost, and asking with an empty source buffer brings out those
that wait, one after the other (`run_of_bare`). Packets to be sent do not pass the decoder at all.
-/

namespace ControlNode.Frame.Duplex

/-- A call on an endpoint. Before it asks for a packet, bytes can arrive. -/
inductive Call where
  | decode (bytes : List UInt8)
  | decodeEnd (bytes : List UInt8)
  | encode (p : Packet)

/-- What a call returns. -/
inductive Reply where
  | taken (r : Except Error (Option Packet))
  | encoded (r : Except Error Unit)

namespace Call

/-- The bytes that arrive before a call. -/
def bytes : Call → List UInt8
  | decode bytes => bytes
  | decodeEnd bytes => bytes
  | encode _ => []

/-- The bytes that a call is to add to those waiting to be sent. -/
def frame : Call → List UInt8
  | encode p => (Frame.encode p).toOption.getD []
  | _ => []

/-- Whether a call asks for a packet. -/
def asks : Call → Bool
  | encode _ => false
  | _ => true

/-- Whether a call asks for a packet and no bytes arrive before it. -/
def IsBare (c : Call) : Prop := c = decode [] ∨ c = decodeEnd []

lemma asks_or_encode (c : Call) : c.asks = true ∨ ∃ p, c = encode p := by
  cases c with
  | decode bytes | decodeEnd bytes => exact .inl rfl
  | encode p => exact .inr ⟨p, rfl⟩

/-- What a call does to the decoder. -/
def steps (c : Call) : List Decoder.Call :=
  if c.asks then [.push c.bytes, .next] else []

end Call

namespace Reply

/-- The packet that a call has taken, if any. -/
def packet? : Reply → Option Packet
  | taken (.ok p) => p
  | _ => none

/-- Whether a call asked for a packet. -/
def isTaken : Reply → Bool
  | taken _ => true
  | encoded _ => false

end Reply

/-- Whether a reply is one that a call can have: asking for a packet never fails, and a packet to be
sent is refused exactly if it has no frame. -/
inductive Reply.Answers : Call → Reply → Prop
  | decode (bytes : List UInt8) (p : Option Packet) : Answers (.decode bytes) (.taken (.ok p))
  | decodeEnd (bytes : List UInt8) (p : Option Packet) :
      Answers (.decodeEnd bytes) (.taken (.ok p))
  | encode (p : Packet) : Answers (.encode p) (.encoded ((Frame.encode p).map fun _ => ()))

/-- The bytes that arrive with calls. -/
def arrived (calls : List Call) : List UInt8 := calls.flatMap Call.bytes

/-- The packets that calls have taken. -/
def packets (replies : List Reply) : List Packet := replies.filterMap Reply.packet?

/-- Makes one call. -/
def call (x : Duplex) : Call → Reply × Duplex
  | .decode bytes =>
    let (p, x) := (x.arrive bytes).decode
    (.taken (.ok p), x)
  | .decodeEnd bytes =>
    let (r, x) := (x.arrive bytes).decodeEnd
    (.taken r, x)
  | .encode p =>
    let (r, x) := x.encode p
    (.encoded r, x)

/-- Makes one call after the other. -/
def run (x : Duplex) : List Call → List Reply × Duplex
  | [] => ([], x)
  | c :: calls =>
    let (r, x) := x.call c
    let (replies, x) := x.run calls
    (r :: replies, x)

variable {x : Duplex} {c : Call}

lemma run_cons (x : Duplex) (c : Call) (calls : List Call) :
    x.run (c :: calls) =
      ((x.call c).1 :: ((x.call c).2.run calls).1, ((x.call c).2.run calls).2) := rfl

lemma run_append (x : Duplex) (calls later : List Call) :
    x.run (calls ++ later) =
      ((x.run calls).1 ++ ((x.run calls).2.run later).1, ((x.run calls).2.run later).2) := by
  induction calls generalizing x with
  | nil => rfl
  | cons c calls ih => rw [List.cons_append, run_cons, run_cons, ih, List.cons_append]

/-! ### One call -/

/-- Between calls the source buffer is empty, and so a call that asks for a packet cannot fail. -/
lemma call_of_asks (hsource : x.source = []) (hc : c.asks = true) :
    x.call c =
      (.taken (.ok (x.decoder.push c.bytes).next.value.1),
        { x with decoder := (x.decoder.push c.bytes).next.value.2 }) := by
  obtain ⟨decoder, source, sink⟩ := x
  obtain rfl : source = [] := hsource
  cases c with
  | decode bytes => rfl
  | decodeEnd bytes =>
    simp only [call, arrive, decodeEnd, decode, Call.bytes, List.nil_append]
    cases (decoder.push bytes).next.value.1 <;> rfl
  | encode p => cases hc

lemma call_encode (x : Duplex) (p : Packet) :
    x.call (.encode p) =
      (.encoded ((Frame.encode p).map fun _ => ()),
        { x with sink := x.sink ++ (Call.encode p).frame }) := by
  cases h : Frame.encode p with
  | error e =>
    simp only [call, x.encode_of_error h, Call.frame, h, Except.toOption, Option.getD_none,
      List.append_nil]
    rfl
  | ok frame =>
    simp only [call, x.encode_of_ok h, Call.frame, h, Except.toOption, Option.getD_some]
    rfl

lemma source_call (hsource : x.source = []) (c : Call) : (x.call c).2.source = [] := by
  obtain hc | ⟨p, rfl⟩ := c.asks_or_encode
  · rw [call_of_asks hsource hc]
    exact hsource
  · rw [call_encode]
    exact hsource

lemma answers_call (hsource : x.source = []) (c : Call) : Reply.Answers c (x.call c).1 := by
  cases c with
  | decode bytes =>
    rw [call_of_asks hsource rfl]
    exact .decode bytes _
  | decodeEnd bytes =>
    rw [call_of_asks hsource rfl]
    exact .decodeEnd bytes _
  | encode p =>
    rw [call_encode]
    exact .encode p

/-- To the decoder a call is a push and a request for a packet, or nothing. -/
lemma follow_call (hsource : x.source = []) (c : Call) :
    x.decoder.follow c.steps = ((x.call c).1.packet?.toList, (x.call c).2.decoder) := by
  obtain hc | ⟨p, rfl⟩ := c.asks_or_encode
  · rw [call_of_asks hsource hc, Call.steps, if_pos hc]
    simp [Decoder.follow, Decoder.call, Reply.packet?]
  · rw [call_encode]
    rfl

lemma stream_steps (c : Call) : Decoder.stream c.steps = c.bytes := by
  cases c <;> simp [Call.steps, Call.asks, Call.bytes, Decoder.stream, Decoder.Call.bytes]

/-! ### Calls in order -/

lemma source_run (hsource : x.source = []) (calls : List Call) : (x.run calls).2.source = [] := by
  induction calls generalizing x with
  | nil => exact hsource
  | cons c calls ih => exact ih (source_call hsource c)

lemma answers_run (hsource : x.source = []) (calls : List Call) :
    List.Forall₂ Reply.Answers calls (x.run calls).1 := by
  induction calls generalizing x with
  | nil => exact .nil
  | cons c calls ih => exact .cons (answers_call hsource c) (ih (source_call hsource c))

/-- The calls on an endpoint are a schedule of its decoder. -/
lemma follow_steps (hsource : x.source = []) (calls : List Call) :
    x.decoder.follow (calls.flatMap Call.steps) =
      (packets (x.run calls).1, (x.run calls).2.decoder) := by
  induction calls generalizing x with
  | nil => rfl
  | cons c calls ih =>
    rw [List.flatMap_cons, Decoder.follow_append, follow_call hsource, ih (source_call hsource c),
      run_cons, packets, packets, filterMap_cons_toList]

lemma stream_flatMap_steps (calls : List Call) :
    Decoder.stream (calls.flatMap Call.steps) = arrived calls := by
  induction calls with
  | nil => rfl
  | cons c calls ih =>
    rw [List.flatMap_cons, Decoder.stream_append, stream_steps, ih]
    rfl

/-- The packets that were taken and those that the decoder still holds are the packets of all bytes
that have arrived. -/
lemma feed_arrived (hsource : x.source = []) (calls : List Call) :
    (x.decoder.feed (arrived calls)).value =
      (packets (x.run calls).1 ++ (x.run calls).2.decoder.drain.value.1,
        (x.run calls).2.decoder.drain.value.2) := by
  have hfeed := x.decoder.feed_stream (calls.flatMap Call.steps) []
  have hnil (d : Decoder) : d.feed [] = d.drain := by
    rw [Decoder.feed, Decoder.push, List.append_nil]
  rwa [follow_steps hsource, stream_flatMap_steps, List.append_nil, hnil] at hfeed

/-- Calls before which nothing arrives return the packets that the decoder holds, one each and in
order, and no packet when there are no more. -/
lemma run_of_bare (hsource : x.source = []) {calls : List Call} (hcalls : ∀ c ∈ calls, c.IsBare) :
    (x.run calls).1 =
      (List.range calls.length).map fun i => .taken (.ok x.decoder.drain.value.1[i]?) := by
  induction calls generalizing x with
  | nil => rfl
  | cons c calls ih =>
    obtain ⟨hc, hcalls⟩ := List.forall_mem_cons.1 hcalls
    have hbare : c.asks = true ∧ c.bytes = [] := by
      obtain rfl | rfl := hc <;> exact ⟨rfl, rfl⟩
    have hcall := call_of_asks hsource hbare.1
    have hpush : x.decoder.push [] = x.decoder := by rw [Decoder.push, List.append_nil]
    rw [hbare.2, hpush] at hcall
    have hlater := ih (source_call hsource c) hcalls
    rw [run_cons, hlater, hcall, List.length_cons, List.range_succ_eq_map, List.map_cons,
      List.map_map]
    rcases hnext : x.decoder.next.value with ⟨_ | p, d⟩
    · have hdrained : d.IsDrained := Decoder.isDrained_of_next hnext
      simp [Decoder.drain_of_none hnext, Decoder.drain_of_isDrained hdrained, Function.comp_def]
    · simp [Decoder.drain_of_some hnext]

/-- After a call that asked in vain the decoder holds no packet. -/
lemma isDrained_of_getLast? (hsource : x.source = []) {calls : List Call}
    (h : (x.run calls).1.getLast? = some (.taken (.ok none))) :
    (x.run calls).2.decoder.IsDrained := by
  rcases List.eq_nil_or_concat calls with rfl | ⟨before, c, rfl⟩
  · cases h
  · rw [List.concat_eq_append, run_append] at h ⊢
    simp only [run, List.getLast?_concat, Option.some.injEq] at h ⊢
    obtain hc | ⟨p, rfl⟩ := c.asks_or_encode
    · rw [call_of_asks (source_run hsource before) hc] at h ⊢
      simp only [Reply.taken.injEq, Except.ok.injEq] at h
      exact Decoder.isDrained_of_next (Prod.ext h rfl)
    · rw [call_encode] at h
      cases h

/-! ### Outgoing bytes -/

lemma sink_call (hsource : x.source = []) (c : Call) :
    (x.call c).2.sink = x.sink ++ c.frame := by
  cases c with
  | decode bytes | decodeEnd bytes =>
    rw [call_of_asks hsource rfl]
    exact (List.append_nil _).symm
  | encode p => rw [call_encode]

/-- Each packet that has a frame adds it to the outgoing bytes, and nothing else does. -/
lemma sink_run (hsource : x.source = []) (calls : List Call) :
    (x.run calls).2.sink = x.sink ++ calls.flatMap Call.frame := by
  induction calls generalizing x with
  | nil => exact (List.append_nil _).symm
  | cons c calls ih =>
    rw [run_cons, ih (source_call hsource c), sink_call hsource, List.flatMap_cons,
      List.append_assoc]

/-- The decoder and what it returns do not depend on the outgoing bytes. -/
lemma run_filter_asks {y : Duplex} (hx : x.source = []) (hy : y.source = [])
    (h : x.decoder = y.decoder) (calls : List Call) :
    (x.run calls).1.filter Reply.isTaken = (y.run (calls.filter Call.asks)).1 ∧
      (x.run calls).2.decoder = (y.run (calls.filter Call.asks)).2.decoder := by
  induction calls generalizing x y with
  | nil => exact ⟨rfl, h⟩
  | cons c calls ih =>
    obtain hc | ⟨p, rfl⟩ := c.asks_or_encode
    · have hcall : (x.call c).1 = (y.call c).1 ∧ (x.call c).2.decoder = (y.call c).2.decoder := by
        rw [call_of_asks hx hc, call_of_asks hy hc, h]
        exact ⟨rfl, rfl⟩
      have htaken : (x.call c).1.isTaken = true := by
        rw [call_of_asks hx hc]
        rfl
      obtain ⟨hreplies, hdecoder⟩ := ih (source_call hx c) (source_call hy c) hcall.2
      rw [List.filter_cons_of_pos hc, run_cons, run_cons, List.filter_cons_of_pos htaken, hreplies,
        hcall.1]
      exact ⟨rfl, hdecoder⟩
    · rw [List.filter_cons_of_neg (by simp [Call.asks]), run_cons, call_encode,
        List.filter_cons_of_neg (by simp [Reply.isTaken])]
      exact ih (x := { x with sink := x.sink ++ (Call.encode p).frame }) hx hy h

/-! ### Agreement -/

/-- What is promised of the calls on an endpoint with empty buffers but for bytes that wait to be
sent, of what they return, and of the endpoint after them. -/
structure Agrees (waiting : List UInt8) (calls : List Call) (replies : List Reply) (x : Duplex) :
    Prop where
  /-- The source buffer is empty after every call. -/
  source : x.source = []
  /-- There is one reply for each call, and asking for a packet never fails. -/
  answers : List.Forall₂ Reply.Answers calls replies
  /-- The packets that were taken, and those that calls return before which nothing arrives, are the
  packets of one feed; each such call returns the next of them, and none when there are no more. -/
  complete : ∃ rest, packets replies ++ rest = (({} : Decoder).feed (arrived calls)).value.1 ∧
    ∀ later, (∀ c ∈ later, c.IsBare) →
      (x.run later).1 = (List.range later.length).map fun i => .taken (.ok rest[i]?)
  /-- When a call has asked in vain, the packets that were taken, the counts and the state are those
  of one feed. -/
  settled : replies.getLast? = some (.taken (.ok none)) →
    (packets replies, x.decoder) = (({} : Decoder).feed (arrived calls)).value
  /-- What is added to the outgoing bytes are the frames of the packets that have one. -/
  sink : x.sink = waiting ++ calls.flatMap Call.frame
  /-- Without the packets to be sent, the calls return the same and leave the same decoder. -/
  apart : replies.filter Reply.isTaken = (run {} (calls.filter Call.asks)).1 ∧
    x.decoder = (run {} (calls.filter Call.asks)).2.decoder

/-- An endpoint is asked for packets at any times, before and after the end of its stream, with any
bytes arriving in between, and is given packets to send. It returns the packets that a decoder returns
which is fed all these bytes at once. -/
theorem run_agrees_with_feed (waiting : List UInt8) (calls : List Call) :
    Agrees waiting calls (run { sink := waiting } calls).1 (run { sink := waiting } calls).2 := by
  have hnew : ({ sink := waiting } : Duplex).source = [] := rfl
  have hfeed := feed_arrived hnew calls
  constructor
  case source => exact source_run hnew calls
  case answers => exact answers_run hnew calls
  case complete =>
    refine ⟨(run { sink := waiting } calls).2.decoder.drain.value.1, ?_, fun later hlater => ?_⟩
    · exact (congrArg Prod.fst hfeed).symm
    · exact run_of_bare (source_run hnew calls) hlater
  case settled =>
    intro hlast
    have hdrained := Decoder.drain_of_isDrained (isDrained_of_getLast? hnew hlast)
    rw [hdrained, List.append_nil] at hfeed
    exact hfeed.symm
  case sink => exact sink_run hnew calls
  case apart => exact run_filter_asks (y := {}) hnew rfl rfl calls

/-- Two packets arrive together, and the second one is still there when the stream has ended. -/
example :
    let calls : List Call := [.decode [0x80, 0x01, 0x71, 0x80, 0x01, 0x70], .encode [],
      .encode [0x72], .decodeEnd [0x44], .decodeEnd []]
    let (replies, x) := run {} calls
    packets replies = [[0x71], [0x70]] ∧ x.sink = [0x80, 0x01, 0x72] ∧
      x.decoder.tally = { frames := 2, discardedBytes := 1 } := by
  decide +kernel

end ControlNode.Frame.Duplex
