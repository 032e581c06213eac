import ControlNode.Proofs.Measure.RoundTrip
import ControlNode.Proofs.Session.Outcome

/-!
# The table of commands

How a control node reads the packet of a command. The number of bytes and the tag tell the command;
flags, period and averaging of consumption measures share two bytes, in which each has bits of its
own, and a period in milliseconds takes two bytes, the least significant first. Reading is the
inverse of `Command.encode` on both sides (`Command.parse?_of_encode`, `Command.encode_of_parse?`),
once commands are told apart only as far as they differ for the node.
-/

namespace ControlNode

/-! ### Reading packets -/

/-- The supply that a byte names. -/
def Supply.ofByte? (b : UInt8) : Option Supply :=
  if b = 0 then some .battery else if b = 1 then some .dc else none

/-- The number in the three lowest bits. -/
def lowBits (n : Nat) : Fin 8 := ⟨n % 8, Nat.mod_lt n (by decide)⟩

/-- The setup that a flags byte and the byte after it name. The flags name one rail in bits 4 to 6
and at least one quantity in bits 0 to 2. The byte after them has the period in bits 0 to 2, the
averaging in bits 4 to 6, and bit 7 set. The other bits are not used. -/
def ConsumptionSetup.ofBytes? (flags circuit : UInt8) : Option ConsumptionSetup :=
  match Rail.ofFlags? flags with
  | none => none
  | some rail =>
    if flags &&& 0x88 = 0 ∧ flags &&& 0x07 ≠ 0 ∧ circuit &&& 0x88 = 0x80 then
      some {
        rail
        power := flags &&& 0x01 != 0
        voltage := flags &&& 0x02 != 0
        current := flags &&& 0x04 != 0
        period := ⟨lowBits circuit.toNat⟩
        averaging := ⟨lowBits (circuit.toNat / 16)⟩ }
    else none

namespace Command

/-- The period that two bytes name, the least significant first. -/
def periodOf (low high : UInt8) : UInt16 := UInt16.ofNat (low.toNat + 256 * high.toNat)

/-- The command that a packet stands for. -/
def parse? : Packet → Option Command
  | [tag] => if tag = 0x72 then some .resetTime else none
  | [tag, supply] =>
    if tag = 0x70 then (Supply.ofByte? supply).map (.power .start)
    else if tag = 0x71 then (Supply.ofByte? supply).map (.power .stop)
    else none
  | [tag, flags, circuit] =>
    if tag = 0x79 then
      if flags = 0 ∧ circuit = 0 then some (.consumption none)
      else (ConsumptionSetup.ofBytes? flags circuit).map fun setup => .consumption (some setup)
    else none
  | [tag, state, low, high] =>
    if tag = 0x75 ∧ state = 0 ∧ low = 0 ∧ high = 0 then some (.radio none)
    else if tag = 0x75 ∧ state = 1 ∧ isRadioPeriod (periodOf low high) then
      some (.radio (some (periodOf low high)))
    else none
  | _ => none

/-- Consumption measures of nothing, which are the same as none. -/
def SelectsNothing (c : Command) : Prop :=
  c = .consumption none ∨ ∃ setup, c = .consumption (some setup) ∧ setup.isEnabled = false

/-- The command, without the setup of consumption measures of nothing. -/
def canonical : Command → Command
  | .consumption (some setup) =>
    if setup.isEnabled then .consumption (some setup) else .consumption none
  | c => c

lemma canonical_of_selectsNothing {c : Command} (h : c.SelectsNothing) :
    c.canonical = .consumption none := by
  obtain rfl | ⟨setup, rfl, hsetup⟩ := h
  · rfl
  · rw [canonical, if_neg (by simp [hsetup])]

lemma canonical_of_not_selectsNothing {c : Command} (h : ¬ c.SelectsNothing) :
    c.canonical = c := by
  rw [canonical.eq_def]
  split
  · next setup =>
    refine if_pos ?_
    by_contra hsetup
    exact h (.inr ⟨setup, rfl, by simpa using hsetup⟩)
  · rfl

end Command

/-! ### Bits -/

/-- What is checked for the numbers below 256 holds for all bytes. -/
lemma forall_byte {P : UInt8 → Prop} (h : ∀ n : Fin 256, P (UInt8.ofFin n)) (b : UInt8) : P b :=
  h b.toFin

lemma Rail.flag_of_ofFlags? {flags : UInt8} {rail : Rail} (h : ofFlags? flags = some rail) :
    rail.flag = flags &&& 0x70 := by
  rw [ofFlags?] at h
  split_ifs at h with h₁ h₂ h₃
  · cases h
    exact h₁.symm
  · cases h
    exact h₂.symm
  · cases h
    exact h₃.symm

namespace ConsumptionSetup

variable {setup : ConsumptionSetup} {flags circuit : UInt8}

lemma flags_unused (setup : ConsumptionSetup) : setup.flags &&& 0x88 = 0 := by
  rw [flags_eq]
  cases setup.rail <;> cases setup.power <;> cases setup.voltage <;> cases setup.current <;> decide

lemma flags_selected (h : setup.isEnabled = true) : setup.flags &&& 0x07 ≠ 0 := by
  rw [flags_eq]
  rw [isEnabled] at h
  revert h
  cases setup.rail <;> cases setup.power <;> cases setup.voltage <;> cases setup.current <;> decide

/-- The parts of the byte after the flags do not overlap. -/
lemma circuitByte_bits (setup : ConsumptionSetup) :
    setup.circuitByte &&& 0x88 = 0x80 ∧
      lowBits setup.circuitByte.toNat = setup.period.index ∧
      lowBits (setup.circuitByte.toNat / 16) = setup.averaging.index := by
  have hall : ∀ period averaging : Fin 8,
      let b := UInt8.ofNat period ||| (UInt8.ofNat averaging <<< 4) ||| 0x80
      b &&& 0x88 = 0x80 ∧ lowBits b.toNat = period ∧
        lowBits (b.toNat / 16) = averaging := by decide
  exact hall setup.period.index setup.averaging.index

/-- Flags that use no other bits are put together from the bits that are read. -/
lemma flags_eq_of_unused : ∀ flags : UInt8, flags &&& 0x88 = 0 →
    flags &&& 0x70 ||| (if (flags &&& 0x01 != 0) = true then 1 else 0) |||
      (if (flags &&& 0x02 != 0) = true then 2 else 0) |||
        (if (flags &&& 0x04 != 0) = true then 4 else 0) = flags :=
  forall_byte (by decide +kernel)

lemma isEnabled_of_selected : ∀ flags : UInt8, flags &&& 0x07 ≠ 0 →
    ((flags &&& 0x01 != 0) || (flags &&& 0x02 != 0) || (flags &&& 0x04 != 0)) = true :=
  forall_byte (by decide +kernel)

lemma circuit_eq_of_unused : ∀ circuit : UInt8, circuit &&& 0x88 = 0x80 →
    UInt8.ofNat (lowBits circuit.toNat) |||
      (UInt8.ofNat (lowBits (circuit.toNat / 16)) <<< 4) ||| 0x80 = circuit :=
  forall_byte (by decide +kernel)

/-! ### Setups -/

/-- The two bytes of a setup name the setup. -/
lemma ofBytes?_of_isEnabled (h : setup.isEnabled = true) :
    ofBytes? setup.flags setup.circuitByte = some setup := by
  have hrail : Rail.ofFlags? setup.flags = some setup.rail := setup.rail_layout
  have hpower : (setup.flags &&& 0x01 != 0) = setup.power := setup.has_layout .power
  have hvoltage : (setup.flags &&& 0x02 != 0) = setup.voltage := setup.has_layout .voltage
  have hcurrent : (setup.flags &&& 0x04 != 0) = setup.current := setup.has_layout .current
  obtain ⟨hcircuit, hperiod, haveraging⟩ := setup.circuitByte_bits
  rw [ofBytes?, hrail]
  simp only [hpower, hvoltage, hcurrent, hperiod, haveraging]
  exact if_pos ⟨setup.flags_unused, flags_selected h, hcircuit⟩

/-- A setup that two bytes name has these two bytes. -/
lemma bytes_of_ofBytes? (h : ofBytes? flags circuit = some setup) :
    setup.isEnabled = true ∧ setup.flags = flags ∧ setup.circuitByte = circuit := by
  rw [ofBytes?] at h
  split at h
  · cases h
  · next rail hrail =>
    split_ifs at h with hbits
    obtain ⟨hflags, hselected, hcircuit⟩ := hbits
    obtain rfl := Option.some.inj h
    refine ⟨isEnabled_of_selected _ hselected, ?_, circuit_eq_of_unused _ hcircuit⟩
    rw [flags_eq, Rail.flag_of_ofFlags? hrail]
    exact flags_eq_of_unused _ hflags

end ConsumptionSetup

/-! ### Commands -/

namespace Command

variable {c : Command} {p : Packet}

lemma encode_of_isEnabled {setup : ConsumptionSetup} (h : setup.isEnabled = true) :
    (consumption (some setup)).encode = .ok [0x79, setup.flags, setup.circuitByte] := by
  rw [encode, if_pos h]
  rfl

lemma ofByte?_eq_some_iff {b : UInt8} {supply : Supply} :
    Supply.ofByte? b = some supply ↔ b = supplyByte supply := by
  rw [Supply.ofByte?]
  cases supply <;> split_ifs <;> simp_all [supplyByte]

/-- The two bytes of a period name the period. -/
lemma periodOf_bytes (ms : UInt16) :
    periodOf (UInt8.ofNat (ms.toNat % 256)) (UInt8.ofNat (ms.toNat / 256)) = ms := by
  have hlt : ms.toNat < 65536 := ms.toNat_lt
  have hsum : ms.toNat % 256 % 2 ^ 8 + 256 * (ms.toNat / 256 % 2 ^ 8) = ms.toNat := by omega
  rw [periodOf, UInt8.toNat_ofNat', UInt8.toNat_ofNat', hsum, UInt16.ofNat_toNat]

/-- Two bytes are those of the period that they name. -/
lemma bytes_periodOf (low high : UInt8) :
    UInt8.ofNat ((periodOf low high).toNat % 256) = low ∧
      UInt8.ofNat ((periodOf low high).toNat / 256) = high := by
  have hlow : low.toNat < 256 := low.toNat_lt
  have hhigh : high.toNat < 256 := high.toNat_lt
  have hperiod : (periodOf low high).toNat = low.toNat + 256 * high.toNat := by
    rw [periodOf, UInt16.toNat_ofNat']
    omega
  have hmod : (periodOf low high).toNat % 256 = low.toNat := by omega
  have hdiv : (periodOf low high).toNat / 256 = high.toNat := by omega
  rw [hmod, hdiv]
  exact ⟨UInt8.ofNat_toNat, UInt8.ofNat_toNat⟩

/-- The packet of a command stands for the command. -/
theorem parse?_of_encode (h : c.encode = .ok p) : parse? p = some c.canonical := by
  cases c with
  | power direction supply =>
    cases h
    cases direction <;> cases supply <;> rfl
  | resetTime =>
    cases h
    rfl
  | consumption setup =>
    cases setup with
    | none =>
      cases h
      rfl
    | some setup =>
      by_cases henabled : setup.isEnabled = true
      · rw [encode_of_isEnabled henabled] at h
        cases h
        have hcircuit : setup.circuitByte ≠ 0 := by
          intro hzero
          have hbits := setup.circuitByte_bits.1
          rw [hzero] at hbits
          cases hbits
        rw [parse?, if_pos rfl, if_neg (fun h => hcircuit h.2),
          ConsumptionSetup.ofBytes?_of_isEnabled henabled, canonical, if_pos henabled]
        rfl
      · rw [encode, if_neg henabled] at h
        cases h
        rw [canonical, if_neg henabled]
        rfl
  | radio period =>
    cases period with
    | none =>
      cases h
      rfl
    | some ms =>
      rw [encode] at h
      split_ifs at h with hms
      cases h
      rw [parse?, periodOf_bytes, if_neg (fun h => absurd h.2.1 (by decide)),
        if_pos ⟨rfl, rfl, hms⟩]
      rfl

/-- A packet that stands for a command is the packet of the command. -/
theorem encode_of_parse? (h : parse? p = some c) : c.encode = .ok p ∧ c.canonical = c := by
  match p with
  | [] => cases h
  | [tag] =>
    rw [parse?] at h
    split_ifs at h with htag
    cases h
    rw [htag]
    exact ⟨rfl, rfl⟩
  | [tag, byte] =>
    rw [parse?] at h
    split_ifs at h with htag htag
    all_goals
      obtain ⟨supply, hsupply, rfl⟩ := Option.map_eq_some_iff.1 h
      rw [htag, ofByte?_eq_some_iff.1 hsupply]
      exact ⟨rfl, rfl⟩
  | [tag, flags, circuit] =>
    rw [parse?] at h
    split_ifs at h with htag hzero
    · cases h
      rw [htag, hzero.1, hzero.2]
      exact ⟨rfl, rfl⟩
    · obtain ⟨setup, hsetup, rfl⟩ := Option.map_eq_some_iff.1 h
      obtain ⟨henabled, hflags, hcircuit⟩ := ConsumptionSetup.bytes_of_ofBytes? hsetup
      rw [encode_of_isEnabled henabled, hflags, hcircuit, htag, canonical, if_pos henabled]
      exact ⟨rfl, rfl⟩
  | [tag, state, low, high] =>
    rw [parse?] at h
    split_ifs at h with hstop hstart
    · cases h
      obtain ⟨rfl, rfl, rfl, rfl⟩ := hstop
      exact ⟨rfl, rfl⟩
    · cases h
      obtain ⟨rfl, rfl, hperiod⟩ := hstart
      rw [encode, if_pos hperiod, (bytes_periodOf low high).1, (bytes_periodOf low high).2]
      exact ⟨rfl, rfl⟩
  | _ :: _ :: _ :: _ :: _ :: _ => cases h

/-- The packets of commands stand for the commands that have a packet, in their order. -/
lemma map_parse?_packets (cs : List Command) :
    (packets cs).map parse? = (cs.filter fun c => c.encode.isOk).map fun c => some c.canonical := by
  induction cs with
  | nil => rfl
  | cons c cs ih =>
    rw [packets_cons, List.map_append, ih, List.filter_cons]
    cases hc : c.encode with
    | error e => rfl
    | ok p => exact congrArg (· :: _) (parse?_of_encode hc)

end Command

end ControlNode
