import ControlNode.Proofs.Measure.Radio
import ControlNode.Proofs.Session.Decoding

/-!
# What is told of the packets of a session

No packet of the measurement queue disappears silently (`Decoding.decode_accounted`). A packet that
can be decoded becomes a record, and nothing is told of it unless it names a setup other than the
acknowledged one. Of every other packet exactly one event is told: an error if it is tagged as one
that holds samples, a message if it installs a layout or a time reference, a detail if it
acknowledges another command, and a warning otherwise.
-/

namespace ControlNode

namespace Packet

/-- The packet is tagged as one that holds samples. -/
def HoldsSamples (p : Packet) : Prop := p.head? = some 0xFF ∨ p.head? = some 0xFE

/-- The packet acknowledges a command that is neither a reset of the clock nor a setup. -/
def IsOtherAck (p : Packet) : Prop :=
  ∃ command rest, p = 0xFA :: command :: rest ∧ command ≠ 0x72 ∧ command ≠ 0x79

end Packet

namespace Decoding

/-- The record that a packet is decoded to with what is known. -/
def Yields (d : Decoding) (p : Packet) : Record → Prop
  | .consumption r =>
    p.head? = some 0xFF ∧ (Measure.decodeConsumption d.layout d.reference p).value = .ok r
  | .radio r => p.head? = some 0xFE ∧ Measure.decodeRadio p = .ok r

/-- A packet became no record: what is known after it, and the level of the one event told of it. -/
structure Drops (out : Logged (Option Record × Decoding)) (known : Decoding) (level : Log.Level) :
    Prop where
  value : out.value = (none, known)
  event : ∃ e, out.log = [e] ∧ e.level = level

/-- What becomes of a packet, and what is told of it. -/
structure Accounted (d : Decoding) (p : Packet) (out : Logged (Option Record × Decoding)) :
    Prop where
  /-- A packet becomes a record exactly if it can be decoded, and no other record than that. -/
  record (r : Record) : out.value.1 = some r ↔ d.Yields p r
  known : out.value.1.isSome → out.value.2 = d
  /-- A consumption packet that is decoded is told of exactly if it names another setup. -/
  consumption (r : ConsumptionRecord) : d.Yields p (.consumption r) →
    ∃ l config rest warning, d.layout = some l ∧ p = 0xFF :: config :: rest ∧
      warning.level = .warn ∧ out.log = if config = l.configByte then [] else [warning]
  radio (r : RadioRecord) : d.Yields p (.radio r) → out.log = []
  /-- Every other packet is told of once. -/
  dropped : (∀ r, ¬ d.Yields p r) → out.value.1 = none ∧ ∃ e, out.log = [e]
  rejected : (∀ r, ¬ d.Yields p r) → p.HoldsSamples → Drops out d .error
  layout (flags : UInt8) : p.ackedFlags? = some flags →
    Drops out { d with layout := some ⟨flags⟩ } .info
  reference (time : Float) : p.IsResetAck → d.pending = some time →
    Drops out { d with reference := some time, pending := none } .info
  otherAck : p.IsOtherAck → Drops out d .debug
  otherwise : ¬ p.HoldsSamples → p.ackedFlags? = none → (p.IsResetAck → d.pending = none) →
    ¬ p.IsOtherAck → Drops out d .warn

variable {d : Decoding} {clock : Float} {p : Packet}

/-! ### Measurements -/

private lemma radioTag_ne : (0xFE : UInt8) ≠ Measure.consumptionTag := by decide

/-- All that comes of a consumption packet that is decoded. -/
lemma Yields.decode_consumption {r : ConsumptionRecord} (h : d.Yields p (.consumption r)) :
    d.decode clock p =
      ⟨(some (.consumption r), d), Measure.setupWarnings d.layout p (.ok r)⟩ := by
  obtain ⟨htag, hdecode⟩ := h
  obtain ⟨rest, rfl⟩ := List.head?_eq_some_iff.1 htag
  show (d.decodeConsumption _ >>= _ : Logged (Option Record × Decoding)) = _
  rw [decodeConsumption, (Measure.value_decodeConsumption_eq_iff.1 hdecode).eq]
  exact congrArg (Logged.mk _) (List.append_nil _)

/-- All that comes of a radio packet that is decoded. -/
lemma Yields.decode_radio {r : RadioRecord} (h : d.Yields p (.radio r)) :
    d.decode clock p = ⟨(some (.radio r), d), []⟩ := by
  obtain ⟨htag, hdecode⟩ := h
  obtain ⟨rest, rfl⟩ := List.head?_eq_some_iff.1 htag
  rw [decode, if_neg radioTag_ne, if_pos (show 0xFE = Measure.radioTag from rfl), hdecode]
  rfl

lemma Yields.value {r : Record} (h : d.Yields p r) : (d.decode clock p).value = (some r, d) := by
  cases r with
  | consumption r => rw [h.decode_consumption]
  | radio r => rw [h.decode_radio]

/-- A consumption packet that is decoded had a layout to be decoded with. -/
lemma Yields.log_consumption {r : ConsumptionRecord} (h : d.Yields p (.consumption r)) :
    ∃ l config rest warning, d.layout = some l ∧ p = 0xFF :: config :: rest ∧
      warning.level = .warn ∧
      (d.decode clock p).log = if config = l.configByte then [] else [warning] := by
  have hverdict := Measure.value_decodeConsumption_eq_iff.1 h.2
  rw [h.decode_consumption]
  generalize hlayout : d.layout = layout at hverdict ⊢
  generalize d.reference = reference at hverdict
  cases hverdict with
  | @decoded l _ config count body =>
    exact ⟨l, config, count :: body, Measure.configMismatch config l.configByte, rfl, rfl, rfl, rfl⟩

/-! ### Packets that become no record -/

/-- A packet of samples that cannot be decoded is told of as an error. -/
lemma drops_of_holdsSamples (hyields : ∀ r, ¬ d.Yields p r) (h : p.HoldsSamples) :
    Drops (d.decode clock p) d .error := by
  rcases h with htag | htag
  · obtain ⟨rest, rfl⟩ := List.head?_eq_some_iff.1 htag
    cases hdecode : (Measure.decodeConsumption d.layout d.reference (0xFF :: rest)).value with
    | ok r => exact absurd ⟨htag, hdecode⟩ (hyields (.consumption r))
    | error e =>
      show Drops (d.decodeConsumption _ >>= _) d .error
      rw [decodeConsumption, (Measure.value_decodeConsumption_eq_iff.1 hdecode).eq]
      exact ⟨rfl, _, rfl, rfl⟩
  · obtain ⟨rest, rfl⟩ := List.head?_eq_some_iff.1 htag
    cases hdecode : Measure.decodeRadio (0xFE :: rest) with
    | ok r => exact absurd ⟨htag, hdecode⟩ (hyields (.radio r))
    | error e =>
      rw [decode, if_neg radioTag_ne, if_pos (show 0xFE = Measure.radioTag from rfl), hdecode]
      exact ⟨rfl, _, rfl, rfl⟩

lemma drops_of_ackedFlags {flags : UInt8} (h : p.ackedFlags? = some flags) :
    Drops (d.decode clock p) { d with layout := some ⟨flags⟩ } .info := by
  obtain ⟨rest, rfl⟩ := Packet.ackedFlags?_eq_some_iff.1 h
  exact ⟨rfl, _, rfl, rfl⟩

lemma drops_of_isResetAck {time : Float} (h : p.IsResetAck) (hpending : d.pending = some time) :
    Drops (d.decode clock p) { d with reference := some time, pending := none } .info := by
  obtain ⟨rest, rfl⟩ := h
  show Drops (d.installReference clock >>= _) _ .info
  rw [installReference, hpending]
  exact ⟨rfl, _, rfl, rfl⟩

lemma drops_of_isResetAck_of_none (h : p.IsResetAck) (hpending : d.pending = none) :
    Drops (d.decode clock p) d .warn := by
  obtain ⟨rest, rfl⟩ := h
  show Drops (d.installReference clock >>= _) _ .warn
  rw [installReference, hpending]
  exact ⟨rfl, _, rfl, rfl⟩

lemma drops_of_isOtherAck (h : p.IsOtherAck) : Drops (d.decode clock p) d .debug := by
  obtain ⟨command, rest, rfl, hreset, hsetup⟩ := h
  show Drops ((if command = 0x72 then _ else if command = 0x79 then _ else _) >>= _) d .debug
  rw [if_neg hreset, if_neg hsetup]
  exact ⟨rfl, _, rfl, rfl⟩

/-- A packet of no known tag, an acknowledgement without what it acknowledges, and one of a reset
that nobody waits for. -/
lemma drops_otherwise (hne : p ≠ []) (hsamples : ¬ p.HoldsSamples)
    (hsetup : p.ackedFlags? = none) (hreset : p.IsResetAck → d.pending = none)
    (hother : ¬ p.IsOtherAck) : Drops (d.decode clock p) d .warn := by
  obtain ⟨tag, rest, rfl⟩ := List.exists_cons_of_ne_nil hne
  by_cases hack : tag = 0xFA
  · subst hack
    match rest with
    | [] => exact ⟨rfl, _, rfl, rfl⟩
    | command :: rest =>
      by_cases hcommand : command = 0x72
      · subst hcommand
        have hacked : Packet.IsResetAck (0xFA :: 0x72 :: rest) := ⟨rest, rfl⟩
        exact drops_of_isResetAck_of_none hacked (hreset hacked)
      · by_cases hcommand' : command = 0x79
        · subst hcommand'
          cases rest with
          | nil => exact ⟨rfl, _, rfl, rfl⟩
          | cons flags rest => cases hsetup
        · exact absurd ⟨command, rest, rfl, hcommand, hcommand'⟩ hother
  · have hconsumption : tag ≠ 0xFF := fun h => hsamples (Or.inl (congrArg some h))
    have hradio : tag ≠ 0xFE := fun h => hsamples (Or.inr (congrArg some h))
    show Drops (if tag = 0xFF then _ else if tag = 0xFE then _ else if tag = 0xFA then _ else _) d _
    rw [if_neg hconsumption, if_neg hradio, if_neg hack]
    exact ⟨rfl, _, rfl, rfl⟩

/-- A packet that cannot be decoded is told of once, whatever it is. -/
lemma exists_drops (clock : Float) (hne : p ≠ []) (h : ∀ r, ¬ d.Yields p r) :
    ∃ known level, Drops (d.decode clock p) known level := by
  by_cases hsamples : p.HoldsSamples
  · exact ⟨_, _, drops_of_holdsSamples h hsamples⟩
  by_cases hother : p.IsOtherAck
  · exact ⟨_, _, drops_of_isOtherAck hother⟩
  cases hsetup : p.ackedFlags? with
  | some flags => exact ⟨_, _, drops_of_ackedFlags hsetup⟩
  | none =>
    by_cases hreset : p.IsResetAck
    · cases hpending : d.pending with
      | some time => exact ⟨_, _, drops_of_isResetAck hreset hpending⟩
      | none => exact ⟨_, _, drops_of_isResetAck_of_none hreset hpending⟩
    · exact ⟨_, _, drops_otherwise hne hsamples hsetup (fun h => absurd h hreset) hother⟩

/-- A packet becomes a record exactly if it can be decoded. -/
lemma record_decode_iff (hne : p ≠ []) {r : Record} :
    (d.decode clock p).value.1 = some r ↔ d.Yields p r := by
  constructor
  · intro hrecord
    by_cases h : ∃ r, d.Yields p r
    · obtain ⟨r', hyields⟩ := h
      rw [hyields.value] at hrecord
      cases hrecord
      exact hyields
    · obtain ⟨known, level, hdrops⟩ := exists_drops clock hne (not_exists.1 h)
      rw [hdrops.value] at hrecord
      cases hrecord
  · intro hyields
    rw [hyields.value]

/-- Whatever is known in a session, each of its packets is accounted for: it becomes the record that
it is decoded to, and is told of only if it names a setup other than the acknowledged one, or it
becomes no record and is told of exactly once, at a level that its kind and the pending reset
decide. -/
theorem decode_accounted (d : Decoding) (clock : Float) (tag : UInt8) (rest : List UInt8) :
    d.Accounted (tag :: rest) (d.decode clock (tag :: rest)) := by
  have hne : tag :: rest ≠ [] := List.cons_ne_nil tag rest
  constructor
  case record => exact fun r => record_decode_iff hne
  case known =>
    intro hsome
    obtain ⟨r, hr⟩ := Option.isSome_iff_exists.1 hsome
    rw [((record_decode_iff hne).1 hr).value]
  case consumption => exact fun r h => h.log_consumption
  case radio =>
    intro r h
    rw [h.decode_radio]
  case dropped =>
    intro h
    obtain ⟨known, level, hdrops⟩ := exists_drops clock hne h
    obtain ⟨e, he, -⟩ := hdrops.event
    exact ⟨congrArg Prod.fst hdrops.value, e, he⟩
  case rejected => exact drops_of_holdsSamples
  case layout => exact fun flags => drops_of_ackedFlags
  case reference => exact fun time => drops_of_isResetAck
  case otherAck => exact drops_of_isOtherAck
  case otherwise => exact drops_otherwise hne

/-- A reset is acknowledged twice, and the second time none is pending. -/
example :
    let d : Decoding := { pending := some 1000 }
    let first := d.decode 1001 [0xFA, 0x72]
    let second := first.value.2.decode 1002 [0xFA, 0x72]
    (first.log ++ second.log).map Log.Event.level = [.info, .warn] := by
  decide +kernel

end Decoding

end ControlNode
