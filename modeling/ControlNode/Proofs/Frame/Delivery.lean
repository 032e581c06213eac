import ControlNode.Proofs.Frame.Intake

/-!
# Packets from any line

An intake is asked for packets again and again, whatever its line does: data can come in any
pieces, and silence, interruptions, faults and reads without data can come at any time and more than
once. One call is a sequence of reads (`Intake.Taking`), each made only when no packet is complete,
and its last read decides how it ends. So the calls return the packets of one feed of all data that
was read, each once and in order, and a call without a packet leaves nothing of them behind
(`Intake.exists_delivers`).
-/

namespace ControlNode

namespace Line

/-! ### The reads of a line -/

/-- What a read returns: bytes, or a fault. -/
abbrev Read := Except Fault (List UInt8)

/-- The bytes that a read returned. -/
def bytesOf : Read → List UInt8
  | .ok bytes => bytes
  | .error _ => []

/-- The bytes that reads returned, one read after the other. -/
def received (reads : List Read) : List UInt8 := reads.flatMap bytesOf

@[simp] lemma received_nil : received [] = [] := rfl

@[simp] lemma received_cons (o : Read) (reads : List Read) :
    received (o :: reads) = bytesOf o ++ received reads := rfl

@[simp] lemma received_append (reads later : List Read) :
    received (reads ++ later) = received reads ++ received later := List.flatMap_append

namespace Source

/-- What the next reads of a line return, and the line after them. -/
def reads (limit : Nat) (s : Source) : Nat → List Read × Source
  | 0 => ([], s)
  | n + 1 => ((s.read limit).1 :: (reads limit (s.read limit).2 n).1,
      (reads limit (s.read limit).2 n).2)

/-- All bytes that a line has still to deliver, those after a fault or an end included. -/
def remaining (s : Source) : List UInt8 := s.kept ++ s.arrivals.flatMap Arrival.bytes

variable (limit : Nat) (s : Source)

@[simp] lemma length_reads (n : Nat) : (s.reads limit n).1.length = n := by
  induction n generalizing s with
  | zero => rfl
  | succ n ih => rw [reads, List.length_cons, ih]

lemma reads_add (n m : Nat) :
    s.reads limit (n + m) =
      ((s.reads limit n).1 ++ ((s.reads limit n).2.reads limit m).1,
        ((s.reads limit n).2.reads limit m).2) := by
  induction n generalizing s with
  | zero => rw [Nat.zero_add]; rfl
  | succ n ih =>
    rw [Nat.succ_add_eq_add_succ, Nat.add_succ, reads, ih]
    rfl

@[simp] lemma calls_read : (s.read limit).2.calls = s.calls + 1 := by
  unfold read
  split
  · rfl
  · rfl
  · rfl
  · split <;> rfl

@[simp] lemma calls_reads (n : Nat) : (s.reads limit n).2.calls = s.calls + n := by
  induction n generalizing s with
  | zero => rfl
  | succ n ih => rw [reads, ih, calls_read, Nat.add_assoc, Nat.add_comm 1]

/-- A read takes from the front of what a line has to deliver. -/
lemma remaining_read : s.remaining = bytesOf (s.read limit).1 ++ (s.read limit).2.remaining := by
  unfold read
  split
  · next b kept _ hkept =>
    simp only [remaining, bytesOf, hkept, ← List.append_assoc, List.take_append_drop]
  · next bytes arrivals hkept harr =>
    simp only [remaining, bytesOf, hkept, harr, ← List.append_assoc, List.take_append_drop]
    rfl
  · next f arrivals hkept harr =>
    simp only [remaining, bytesOf, hkept, harr]
    rfl
  · next hkept harr =>
    split <;> simp [remaining, bytesOf]

/-- Reads lose nothing of what a line has to deliver. -/
lemma remaining_reads (n : Nat) :
    s.remaining = received (s.reads limit n).1 ++ (s.reads limit n).2.remaining := by
  induction n generalizing s with
  | zero => rfl
  | succ n ih => rw [reads, received_cons, List.append_assoc, ← ih, ← remaining_read]

end Source

end Line

namespace Frame

open Line

/-! ### One call -/

/-- What a read makes a call return; nothing if the call goes on, as after data and after an
interruption. -/
def verdict? : Read → Option (Except Error (Option Packet))
  | .ok [] => some (.error .closed)
  | .ok (_ :: _) => none
  | .error f =>
    if f.isInterruption then none
    else if f.isPollTimeout then some (.ok none)
    else some (.error (.fault f))

/-- The packet that a call returned, if any. -/
def packetOf : Except Error (Option Packet) → Option Packet
  | .ok p => p
  | .error _ => none

lemma packetOf_of_verdict? {o : Read} {r : Except Error (Option Packet)}
    (h : verdict? o = some r) : packetOf r = none := by
  match o with
  | .ok [] => cases h; rfl
  | .ok (b :: bytes) => cases h
  | .error f =>
    rw [verdict?] at h
    split_ifs at h <;> cases h <;> rfl

section

variable {o : Read}

lemma verdict?_eq_silence_iff :
    verdict? o = some (.ok none) ↔
      ∃ f, o = .error f ∧ (f.kind = .timedOut ∨ f.kind = .wouldBlock) := by
  match o with
  | .ok [] | .ok (b :: bytes) => simp [verdict?]
  | .error f =>
    rw [verdict?]
    grind [Fault.isInterruption, Fault.isPollTimeout]

lemma verdict?_eq_closed_iff : verdict? o = some (.error .closed) ↔ o = .ok [] := by
  match o with
  | .ok [] | .ok (b :: bytes) => simp [verdict?]
  | .error f =>
    rw [verdict?]
    split_ifs <;> simp

lemma verdict?_eq_fault_iff {f : Fault} :
    verdict? o = some (.error (.fault f)) ↔
      o = .error f ∧ f.kind ≠ .interrupted ∧ f.kind ≠ .timedOut ∧ f.kind ≠ .wouldBlock := by
  match o with
  | .ok [] | .ok (b :: bytes) => simp [verdict?]
  | .error g =>
    rw [verdict?]
    grind [Fault.isInterruption, Fault.isPollTimeout]

end

/-- A read that ends a call has returned no bytes. -/
lemma bytesOf_of_verdict? {o : Read} {r : Except Error (Option Packet)}
    (h : verdict? o = some r) : bytesOf o = [] := by
  match o with
  | .ok [] => rfl
  | .ok (b :: bytes) => cases h
  | .error f => rfl

/-- A read after which a call goes on makes the line lighter. -/
lemma weight_lt_of_goesOn {s s' : Source} {limit : Nat} {o : Read} (h : s.read limit = (o, s'))
    (ho : verdict? o = none) : s'.weight < s.weight := by
  match o with
  | .ok [] => cases ho
  | .ok (b :: bytes) => exact Source.weight_read_of_bytes h (List.cons_ne_nil b bytes)
  | .error f =>
    refine Source.weight_read_of_fault h ?_
    by_contra hpoll
    rw [verdict?] at ho
    split_ifs at ho with hf
    simp only [Fault.isInterruption, beq_iff_eq] at hf
    simp [Fault.isPollTimeout, hf] at hpoll

namespace Intake

/-- How a call leads from one intake to another: the reads that it makes, and what it returns. -/
inductive Taking : Intake → List Read → Except Error (Option Packet) → Intake → Prop
  /-- A packet is complete, and nothing is read. -/
  | complete {x : Intake} {p : Packet} {d : Decoder} (h : x.decoder.next.value = (some p, d)) :
      Taking x [] (.ok (some p)) { x with decoder := d }
  /-- No packet is complete, and the call goes on after a read. -/
  | goesOn {x y : Intake} {d : Decoder} {s : Source} {o : Read} {later : List Read}
      {r : Except Error (Option Packet)} (h : x.decoder.next.value = (none, d))
      (hread : x.source.read readLimit = (o, s)) (ho : verdict? o = none)
      (hlater : Taking ⟨d.push (bytesOf o), s⟩ later r y) : Taking x (o :: later) r y
  /-- No packet is complete, and a read ends the call. -/
  | ended {x : Intake} {d : Decoder} {s : Source} {o : Read} {r : Except Error (Option Packet)}
      (h : x.decoder.next.value = (none, d)) (hread : x.source.read readLimit = (o, s))
      (ho : verdict? o = some r) : Taking x [o] r ⟨d, s⟩

/-- Every call ends, and it goes this way. -/
lemma exists_taking (x : Intake) : ∃ reads, x.Taking reads x.next.1 x.next.2 := by
  fun_induction next x with
  | case1 x p d h => exact ⟨[], .complete h⟩
  | case2 x d h s hread => exact ⟨_, .ended h hread rfl⟩
  | case3 x d h b bytes s hread ih =>
    obtain ⟨later, hlater⟩ := ih
    exact ⟨_, .goesOn h hread rfl hlater⟩
  | case4 x d h f s hread hf ih =>
    obtain ⟨later, hlater⟩ := ih
    refine ⟨.error f :: later, .goesOn h hread (by rw [verdict?, if_pos hf]) ?_⟩
    rw [bytesOf, Decoder.push, List.append_nil]
    exact hlater
  | case5 x d h f s hread hf hpoll =>
    exact ⟨_, .ended h hread (by rw [verdict?, if_neg hf, if_pos hpoll])⟩
  | case6 x d h f s hread hf hpoll =>
    exact ⟨_, .ended h hread (by rw [verdict?, if_neg hf, if_neg hpoll])⟩

namespace Taking

variable {x y : Intake} {made : List Read} {r : Except Error (Option Packet)}

/-- The reads of a call are the next reads of its line. -/
lemma source_eq (h : x.Taking made r y) :
    x.source.reads readLimit made.length = (made, y.source) := by
  induction h with
  | complete h => rfl
  | goesOn h hread ho hlater ih => rw [List.length_cons, Source.reads, hread, ih]
  | ended h hread ho => rw [List.length_singleton, Source.reads, hread]; rfl

/-- The packet of a call and those of what is read later are those of one feed. -/
lemma feed (h : x.Taking made r y) (more : List UInt8) :
    (x.decoder.feed (received made ++ more)).value =
      ((packetOf r).toList ++ (y.decoder.feed more).value.1, (y.decoder.feed more).value.2) := by
  induction h with
  | complete h => exact Decoder.feed_of_next_some h more
  | goesOn h hread ho hlater ih =>
    rw [Decoder.feed_of_next_none h, received_cons, List.append_assoc, ← ih, Decoder.feed,
      Decoder.push_append]
    rfl
  | @ended x d s o r h hread ho =>
    have hnothing : bytesOf o = [] := bytesOf_of_verdict? ho
    rw [Decoder.feed_of_next_none h, received_cons, hnothing, packetOf_of_verdict? ho]
    rfl

/-- Whenever a call makes a read, what was read before completes no packet. -/
lemma feed_take (h : x.Taking made r y) {n : Nat} (hn : n < made.length) :
    (x.decoder.feed (received (made.take n))).value.1 = [] := by
  induction h generalizing n with
  | complete h => cases hn
  | goesOn h hread ho hlater ih =>
    cases n with
    | zero => exact congrArg Prod.fst (Decoder.feed_nil_of_next_none h)
    | succ n =>
      rw [List.take_succ_cons, received_cons, Decoder.feed_of_next_none h, Decoder.feed,
        Decoder.push_append]
      exact ih (Nat.lt_of_succ_lt_succ hn)
  | ended h hread ho =>
    obtain rfl : n = 0 := Nat.lt_one_iff.1 hn
    exact congrArg Prod.fst (Decoder.feed_nil_of_next_none h)

lemma isDrained (h : x.Taking made r y) (hr : packetOf r = none) : y.decoder.IsDrained := by
  induction h with
  | complete h => cases hr
  | goesOn h hread ho hlater ih => exact ih hr
  | ended h hread ho => exact Decoder.isDrained_of_next h

/-- A read of a call that decides anything decides how the call ends. -/
lemma verdict_of_mem (h : x.Taking made r y) {o : Read} (ho : o ∈ made)
    {r' : Except Error (Option Packet)} (hr' : verdict? o = some r') : r = r' := by
  induction h with
  | complete h => cases ho
  | goesOn h hread hnone hlater ih =>
    rcases List.mem_cons.1 ho with rfl | ho
    · rw [hnone] at hr'
      cases hr'
    · exact ih ho
  | ended h hread hsome =>
    obtain rfl := List.mem_singleton.1 ho
    exact Option.some.inj (hsome.symm.trans hr')

lemma exists_verdict (h : x.Taking made r y) (hr : packetOf r = none) :
    ∃ o ∈ made, verdict? o = some r := by
  induction h with
  | complete h => cases hr
  | goesOn h hread ho hlater ih =>
    obtain ⟨o, hmem, ho⟩ := ih hr
    exact ⟨o, List.mem_cons_of_mem _ hmem, ho⟩
  | ended h hread ho => exact ⟨_, List.mem_singleton_self _, ho⟩

/-- A call ends without a packet exactly as one of its reads decides. -/
lemma eq_iff (h : x.Taking made r y) {r' : Except Error (Option Packet)}
    (hr' : packetOf r' = none) : r = r' ↔ ∃ o ∈ made, verdict? o = some r' := by
  constructor
  · rintro rfl
    exact h.exists_verdict hr'
  · rintro ⟨o, hmem, ho⟩
    exact h.verdict_of_mem hmem ho

lemma eq_closed_or_fault {e : Error} (h : x.Taking made (.error e) y) :
    e = .closed ∨ ∃ f, e = .fault f := by
  obtain ⟨o, -, ho⟩ := h.exists_verdict rfl
  match o with
  | .ok [] => cases ho; exact .inl rfl
  | .ok (b :: bytes) => cases ho
  | .error f =>
    rw [verdict?] at ho
    split_ifs at ho <;> cases ho
    exact .inr ⟨f, rfl⟩

/-- A call makes no more reads than its line has bytes and arrivals left, and one for the end. -/
lemma length_le (h : x.Taking made r y) : made.length ≤ x.source.weight + 1 := by
  induction h with
  | complete h => exact Nat.zero_le _
  | goesOn h hread ho hlater ih =>
    rw [List.length_cons]
    exact Nat.succ_le_succ (Nat.le_trans ih (weight_lt_of_goesOn hread ho))
  | ended h hread ho => exact Nat.succ_le_succ (Nat.zero_le _)

end Taking

/-! ### Any number of calls -/

/-- Makes calls, one after the other, and collects what they return. -/
def takes (x : Intake) : Nat → List (Except Error (Option Packet)) × Intake
  | 0 => ([], x)
  | k + 1 => ((takes x k).1 ++ [(takes x k).2.next.1], (takes x k).2.next.2)

/-- The packets that the first calls return. -/
def returned (x : Intake) (k : Nat) : List Packet := (x.takes k).1.filterMap packetOf

/-- The reads that the first calls make; the line counts them. -/
def readsBy (x : Intake) (k : Nat) : List Read :=
  (x.source.reads readLimit ((x.takes k).2.source.calls - x.source.calls)).1

variable (x : Intake) (k : Nat)

lemma returned_succ :
    x.returned (k + 1) = x.returned k ++ (packetOf (x.takes k).2.next.1).toList := by
  rw [returned, takes, List.filterMap_append, returned]
  cases h : packetOf (x.takes k).2.next.1 <;> simp [h]

/-- The line is read by the calls only. -/
lemma source_takes :
    (x.takes k).2.source = (x.source.reads readLimit (x.readsBy k).length).2 := by
  obtain ⟨n, hn⟩ : ∃ n, (x.takes k).2.source = (x.source.reads readLimit n).2 := by
    induction k with
    | zero => exact ⟨0, rfl⟩
    | succ k ih =>
      obtain ⟨n, hn⟩ := ih
      obtain ⟨made, hmade⟩ := (x.takes k).2.exists_taking
      refine ⟨n + made.length, ?_⟩
      rw [Source.reads_add, ← hn, hmade.source_eq]
      rfl
  rw [readsBy, hn, Source.calls_reads, Nat.add_sub_cancel_left, Source.length_reads]

/-- The next call adds its reads to those of the calls before. -/
lemma exists_made :
    ∃ made, (x.takes k).2.Taking made (x.takes k).2.next.1 (x.takes (k + 1)).2 ∧
      x.readsBy (k + 1) = x.readsBy k ++ made := by
  obtain ⟨made, hmade⟩ := (x.takes k).2.exists_taking
  refine ⟨made, hmade, ?_⟩
  have hsource : (x.takes (k + 1)).2.source =
      (x.source.reads readLimit ((x.readsBy k).length + made.length)).2 := by
    rw [Source.reads_add, ← source_takes, hmade.source_eq]
    rfl
  have hbefore : (x.source.reads readLimit (x.readsBy k).length).1 = x.readsBy k := by
    rw [readsBy, Source.length_reads]
  rw [readsBy, hsource, Source.calls_reads, Nat.add_sub_cancel_left, Source.reads_add,
    ← source_takes, hmade.source_eq, hbefore]

/-- The packets that calls return and those of what is read later are those of one feed. -/
theorem feed_readsBy (more : List UInt8) :
    (x.decoder.feed (received (x.readsBy k) ++ more)).value =
      (x.returned k ++ ((x.takes k).2.decoder.feed more).value.1,
        ((x.takes k).2.decoder.feed more).value.2) := by
  induction k generalizing more with
  | zero => rw [readsBy]; simp [takes, returned, Source.reads]
  | succ k ih =>
    obtain ⟨made, hmade, hreads⟩ := x.exists_made k
    rw [hreads, received_append, List.append_assoc, ih, hmade.feed, returned_succ,
      List.append_assoc]

/-- What is promised of the call that follows the first `k` calls and makes the given reads. -/
structure Delivers (made : List Read) : Prop where
  /-- The reads of the call come after those of the calls before. -/
  reads : x.readsBy (k + 1) = x.readsBy k ++ made
  /-- Nothing but the calls has read the line. -/
  line : (x.takes k).2.source = (x.source.reads readLimit (x.readsBy k).length).2
  /-- No byte of the line is lost: those that were not read can still be. -/
  conserved : received (x.readsBy k) ++ (x.takes k).2.source.remaining = x.source.remaining
  /-- The call ends: it makes no more reads than the line has bytes and arrivals left, and one. -/
  ends : made.length ≤ (x.takes k).2.source.weight + 1
  /-- A read is made only when all packets of what was read before it have been returned. -/
  lazy : ∀ n, n < made.length →
    (x.decoder.feed (received (x.readsBy k ++ made.take n))).value.1 = x.returned k
  /-- The packets returned so far are the first ones of a feed of what was read so far. -/
  initial : x.returned k <+: (x.decoder.feed (received (x.readsBy k))).value.1
  /-- After a call without a packet they are all of them, and the decoder is that of the feed. -/
  complete : packetOf (x.takes k).2.next.1 = none →
    (x.decoder.feed (received (x.readsBy (k + 1)))).value =
      (x.returned (k + 1), (x.takes (k + 1)).2.decoder)
  /-- The call ends without a packet and without an error if a read found nothing in time. -/
  silence : (x.takes k).2.next.1 = .ok none ↔
    ∃ f, .error f ∈ made ∧ (f.kind = .timedOut ∨ f.kind = .wouldBlock)
  /-- The call finds the line closed if a read returned no bytes. -/
  closed : (x.takes k).2.next.1 = .error .closed ↔ .ok [] ∈ made
  /-- The call returns the fault of a read, unless the read was only interrupted or in vain. -/
  fault : ∀ f, (x.takes k).2.next.1 = .error (.fault f) ↔
    .error f ∈ made ∧ f.kind ≠ .interrupted ∧ f.kind ≠ .timedOut ∧ f.kind ≠ .wouldBlock
  /-- There are no other errors. -/
  errors : ∀ e, (x.takes k).2.next.1 = .error e → e = .closed ∨ ∃ f, e = .fault f

/-- An intake is asked for packets any number of times, on a line with any arrivals in any order:
data, reads without data, and faults of any kind. Each call ends. The packets returned are the first
ones of a feed of what was read, and all of them when a call returns none; a read is made only when
all packets before it have been returned; silence, a closed line and other faults end a call, and
nothing else but a packet does; and whatever ends a call, no byte and no frame that has begun is
lost. A new intake has a new decoder, so the feed is then that of a new decoder. -/
theorem exists_delivers (x : Intake) (k : Nat) : ∃ made, x.Delivers k made := by
  obtain ⟨made, hmade, hreads⟩ := x.exists_made k
  refine ⟨made, ?_⟩
  constructor
  case reads => exact hreads
  case line => exact x.source_takes k
  case conserved =>
    rw [x.source_takes k, x.source.remaining_reads readLimit (x.readsBy k).length, readsBy,
      Source.length_reads]
  case ends => exact hmade.length_le
  case lazy =>
    intro n hn
    rw [received_append, feed_readsBy, hmade.feed_take hn, List.append_nil]
  case initial =>
    have hfeed := x.feed_readsBy k []
    rw [List.append_nil] at hfeed
    rw [hfeed]
    exact List.prefix_append _ _
  case complete =>
    intro hnone
    have hfeed := x.feed_readsBy (k + 1) []
    rwa [List.append_nil, Decoder.feed_nil (hmade.isDrained hnone), List.append_nil] at hfeed
  case silence =>
    rw [hmade.eq_iff rfl]
    constructor
    · rintro ⟨o, hmem, ho⟩
      obtain ⟨f, rfl, hf⟩ := verdict?_eq_silence_iff.1 ho
      exact ⟨f, hmem, hf⟩
    · rintro ⟨f, hmem, hf⟩
      exact ⟨_, hmem, verdict?_eq_silence_iff.2 ⟨f, rfl, hf⟩⟩
  case closed =>
    rw [hmade.eq_iff rfl]
    simp only [verdict?_eq_closed_iff, exists_eq_right]
  case fault =>
    intro f
    rw [hmade.eq_iff rfl]
    constructor
    · rintro ⟨o, hmem, ho⟩
      obtain ⟨rfl, hf⟩ := verdict?_eq_fault_iff.1 ho
      exact ⟨hmem, hf⟩
    · rintro ⟨hmem, hf⟩
      exact ⟨_, hmem, verdict?_eq_fault_iff.2 ⟨rfl, hf⟩⟩
  case errors =>
    intro e he
    rw [he] at hmade
    exact hmade.eq_closed_or_fault

/-- The first frame is torn by silence, a read without data and an interruption; the second one has
begun when the line fails for good. -/
example :
    let arrivals := [.data [0x80, 0x02], .fault (.ofKind .wouldBlock), .data [0x72], .data [],
      .fault (.ofKind .interrupted), .data [0x0A, 0x80], .fault (.ofKind .brokenPipe)]
    (takes { source := { arrivals } } 4).1 =
      [.ok none, .error .closed, .ok (some [0x72, 0x0A]),
        .error (.fault (.ofKind .brokenPipe))] := by
  decide +kernel

end Intake

end Frame

end ControlNode
