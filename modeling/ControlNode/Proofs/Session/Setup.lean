import ControlNode.Proofs.Session.TimeReference

/-!
# The layout over a history

What a session takes for the layout of consumption samples is the setup that was acknowledged last,
and nothing else that happens to a session touches it (`Session.layout_after`). The layout and the
time reference are all that matters when a consumption packet is decoded, so sessions that agree in
both decode alike, whatever their histories were (`Session.layout_over_history`).
-/

namespace ControlNode

/-! ### Consumption packets -/

namespace Decoding

variable {d d' : Decoding} (clock clock' : Float)

lemma decodeConsumption_congr (hlayout : d.layout = d'.layout)
    (hreference : d.reference = d'.reference) (p : Packet) :
    d.decodeConsumption p = d'.decodeConsumption p := by
  rw [decodeConsumption, decodeConsumption, hlayout, hreference]

/-- A consumption packet is decoded with the layout and the reference alone. -/
lemma decode_congr (hlayout : d.layout = d'.layout) (hreference : d.reference = d'.reference)
    {p : Packet} (hp : p.tag? = some 0xFF) :
    (d.decode clock p).value.1 = (d'.decode clock' p).value.1 ∧
      (d.decode clock p).log = (d'.decode clock' p).log := by
  obtain ⟨rest, rfl⟩ := List.head?_eq_some_iff.1 hp
  have htag : 0xFF = Measure.consumptionTag := rfl
  rw [decode, decode, if_pos htag, if_pos htag, decodeConsumption_congr hlayout hreference]
  obtain ⟨result, log⟩ := d'.decodeConsumption (0xFF :: rest)
  cases result with
  | ok r => exact ⟨rfl, rfl⟩
  | error e => exact ⟨rfl, rfl⟩

/-- To become a record, no packet needs more than the layout and the reference. -/
lemma record_decode_congr (hlayout : d.layout = d'.layout) (hreference : d.reference = d'.reference)
    (p : Packet) : (d.decode clock p).value.1 = (d'.decode clock' p).value.1 := by
  by_cases hp : p.tag? = some 0xFF
  · exact (decode_congr clock clock' hlayout hreference hp).1
  · cases p with
    | nil => rfl
    | cons tag rest =>
      have htag : tag ≠ Measure.consumptionTag := fun htag => hp (congrArg some htag)
      rw [decode, decode, if_neg htag, if_neg htag]
      split_ifs
      · split <;> rfl
      · rfl
      · rfl

/-- A consumption packet is no acknowledgement. -/
lemma decode_of_consumption {p : Packet} (hp : p.tag? = some 0xFF) :
    (d.decode clock p).value.2 = d := by
  obtain ⟨rest, rfl⟩ := List.head?_eq_some_iff.1 hp
  refine d.decode_of_other clock ?_ ?_
  · rintro ⟨rest', heq⟩
    cases heq
  · cases hsetup : Packet.ackedFlags? (0xFF :: rest) with
    | none => rfl
    | some flags =>
      obtain ⟨rest', heq⟩ := Packet.ackedFlags?_eq_some_iff.1 hsetup
      cases heq

/-- Any number of consumption packets is decoded alike with the same layout and reference. -/
theorem decodeAll_congr (hlayout : d.layout = d'.layout) (hreference : d.reference = d'.reference)
    {ps : List Packet} (hps : ∀ p ∈ ps, p.tag? = some 0xFF) :
    (d.decodeAll clock ps).value.1 = (d'.decodeAll clock' ps).value.1 ∧
      (d.decodeAll clock ps).log = (d'.decodeAll clock' ps).log := by
  induction ps with
  | nil => exact ⟨rfl, rfl⟩
  | cons p ps ih =>
    have hp := hps p List.mem_cons_self
    obtain ⟨hrecord, hlog⟩ := decode_congr clock clock' hlayout hreference hp
    obtain ⟨hrecords, hlater⟩ := ih fun q hq => hps q (List.mem_cons_of_mem p hq)
    simp only [decodeAll, Logged.value_bind, Logged.log_bind, Logged.value_pure, Logged.log_pure,
      decode_of_consumption clock hp, decode_of_consumption clock' hp, hrecord, hlog, hrecords,
      hlater]
    exact ⟨trivial, trivial⟩

end Decoding

namespace Session

/-! ### Uses of a session -/

/-- What is done with a session: an event, or the decoding of a consumption packet that is not taken
from the measurement queue. -/
inductive Use (σ : Type) where
  | event (e : Event σ)
  | decodeConsumption (p : Packet)

variable {σ : Type}

/-- The flags byte of the setup that is acknowledged, if a packet does so. -/
def Use.ackedFlags? : Use σ → Option UInt8
  | .event (.decode p) => p.ackedFlags?
  | _ => none

/-- The flags byte of the setup that was acknowledged last. -/
def lastAckedFlags? (uses : List (Use σ)) : Option UInt8 :=
  (uses.filterMap Use.ackedFlags?).getLast?

lemma lastAckedFlags?_cons (u : Use σ) (uses : List (Use σ)) :
    lastAckedFlags? (u :: uses) = (lastAckedFlags? uses).or u.ackedFlags? := by
  have hcons : (u :: uses).filterMap Use.ackedFlags? =
      u.ackedFlags?.toList ++ uses.filterMap Use.ackedFlags? := by
    rw [List.filterMap_cons]
    cases u.ackedFlags? <;> rfl
  rw [lastAckedFlags?, hcons, List.getLast?_append]
  cases u.ackedFlags? <;> rfl

variable [Carrier σ]

/-- What one use leaves. -/
def apply (s : Session σ) : Use σ → Session σ
  | .event e => s.handle e
  | .decodeConsumption _ => s

/-- What uses leave, from the first to the last. -/
def after (s : Session σ) (uses : List (Use σ)) : Session σ := uses.foldl apply s

variable {s : Session σ}

/-! ### What one use changes -/

/-- A use leaves the layout that it acknowledges, or else the layout before it. -/
lemma layout_apply (u : Use σ) :
    (s.apply u).decoding.layout = (u.ackedFlags?.map Layout.mk).or s.decoding.layout := by
  cases u with
  | decodeConsumption p => rfl
  | event e =>
    cases e with
    | perform c =>
      by_cases hc : c = .resetTime
      · subst hc
        rw [apply, handle, decoding_perform_reset]
        rfl
      · rw [apply, handle, decoding_perform_of_ne hc]
        rfl
    | decode p => exact s.decoding.layout_decode s.clock p
    | setClock clock => rfl
    | carry f => rfl

/-- Only the acknowledgement of a reset moves the reference. -/
lemma reference_apply {u : Use σ} (h : ∀ p, u = .event (.decode p) → ¬ p.IsResetAck) :
    (s.apply u).decoding.reference = s.decoding.reference := by
  cases u with
  | decodeConsumption p => rfl
  | event e =>
    refine reference_handle fun rest he => ?_
    exact h _ (congrArg Use.event he) ⟨rest, rfl⟩

/-- The acknowledgements of a setup and of a reset change different things. -/
lemma handle_acks_comm (s : Session σ) (flags : UInt8) (rest rest' : List UInt8) :
    (s.handle (.decode (0xFA :: 0x79 :: flags :: rest))).handle (.decode (0xFA :: 0x72 :: rest')) =
      (s.handle (.decode (0xFA :: 0x72 :: rest'))).handle
        (.decode (0xFA :: 0x79 :: flags :: rest)) := by
  simp only [handle, value_decode, Decoding.value_decode_resetAck, Decoding.value_decode_setupAck,
    Decoding.confirm_layout]

/-! ### What any uses leave -/

/-- The layout is the setup that was acknowledged last, or the layout at the start. -/
theorem layout_after (s : Session σ) (uses : List (Use σ)) :
    (s.after uses).decoding.layout =
      ((lastAckedFlags? uses).map Layout.mk).or s.decoding.layout := by
  induction uses generalizing s with
  | nil => rfl
  | cons u uses ih =>
    rw [after, List.foldl_cons, ← after, ih, layout_apply, lastAckedFlags?_cons, Option.map_or,
      Option.or_assoc]

/-- After any uses of a new session the layout is the setup whose acknowledgement was decoded last,
and there is none if none was decoded. A use that acknowledges no setup leaves the layout, and one
that acknowledges no reset leaves the time reference; acknowledgements of a setup and of a reset can
be exchanged. So in two sessions whose last acknowledged setups and time references are the same,
whatever else was done with them, all consumption packets are decoded to the same records or errors,
with the same events. -/
theorem layout_over_history (clock : Float) (carrier : σ) (uses : List (Use σ)) :
    let s := after { clock, carrier } uses
    s.decoding.layout = (lastAckedFlags? uses).map Layout.mk ∧
    (∀ u : Use σ, u.ackedFlags? = none → (s.apply u).decoding.layout = s.decoding.layout) ∧
    (∀ u : Use σ, (∀ p, u = .event (.decode p) → ¬ p.IsResetAck) →
      (s.apply u).decoding.reference = s.decoding.reference) ∧
    (∀ flags rest rest',
      let setupAck := .event (.decode (0xFA :: 0x79 :: flags :: rest))
      let resetAck := .event (.decode (0xFA :: 0x72 :: rest'))
      (s.apply setupAck).apply resetAck = (s.apply resetAck).apply setupAck) ∧
    ∀ (σ' : Type) [Carrier σ'] (clock' : Float) (carrier' : σ') (uses' : List (Use σ')),
      let s' := after { clock := clock', carrier := carrier' } uses'
      lastAckedFlags? uses = lastAckedFlags? uses' →
      s.decoding.reference = s'.decoding.reference →
      (∀ p, s.decoding.decodeConsumption p = s'.decoding.decodeConsumption p) ∧
      ∀ ps : List Packet, (∀ p ∈ ps, p.tag? = some 0xFF) →
        (s.decoding.decodeAll s.clock ps).value.1 = (s'.decoding.decodeAll s'.clock ps).value.1 ∧
        (s.decoding.decodeAll s.clock ps).log = (s'.decoding.decodeAll s'.clock ps).log := by
  intro s
  have hlayout : s.decoding.layout = (lastAckedFlags? uses).map Layout.mk := by
    rw [layout_after]
    exact Option.or_none
  refine ⟨hlayout, fun u hu => ?_, fun u => reference_apply, fun flags rest rest' => ?_, ?_⟩
  · rw [layout_apply, hu]
    rfl
  · exact s.handle_acks_comm flags rest rest'
  · intro σ' _ clock' carrier' uses' s' hlast hreference
    have hlayout' : s'.decoding.layout = (lastAckedFlags? uses').map Layout.mk := by
      rw [layout_after]
      exact Option.or_none
    have hsame : s.decoding.layout = s'.decoding.layout := by rw [hlayout, hlayout', hlast]
    exact ⟨Decoding.decodeConsumption_congr hsame hreference,
      fun ps => Decoding.decodeAll_congr s.clock s'.clock hsame hreference⟩

end Session

end ControlNode
