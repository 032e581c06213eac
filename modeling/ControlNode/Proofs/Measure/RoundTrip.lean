import ControlNode.Command.Basic
import ControlNode.Measure.Decode
import Mathlib.Tactic.SplitIfs

/-!
# Consumption packets as a control node writes them

A setup fixes what a control node sends: its flags byte names the rail and the quantities, and each
sample is a tick and the values of these quantities, most significant bytes first. The layout that
is derived from the flags byte alone is that of the setup (`ConsumptionSetup.quantities_layout`,
`ConsumptionSetup.rail_layout`), so with it a packet is decoded to what was measured, to the bit
(`decodeConsumption_packet`).
-/

namespace ControlNode

/-! ### Fields and their bytes -/

namespace Measure

/-- A number as four bytes, the most significant first. -/
def bigEndianBytes (w : UInt32) : List UInt8 :=
  [(w >>> 24).toUInt8, (w >>> 16).toUInt8, (w >>> 8).toUInt8, w.toUInt8]

@[simp] lemma length_bigEndianBytes (w : UInt32) : (bigEndianBytes w).length = 4 := rfl

lemma word_bytes (w : UInt32) :
    Cursor.word (w >>> 24).toUInt8 (w >>> 16).toUInt8 (w >>> 8).toUInt8 w.toUInt8 = w := by
  have hlt := w.toNat_lt
  apply UInt32.toNat_inj.1
  have h24 : (24 : UInt32).toNat % 32 = 24 := rfl
  have h16 : (16 : UInt32).toNat % 32 = 16 := rfl
  have h8 : (8 : UInt32).toNat % 32 = 8 := rfl
  simp only [Cursor.word, UInt32.toNat_ofNat', UInt32.toNat_toUInt8, UInt32.toNat_shiftRight,
    Nat.shiftRight_eq_div_pow, h24, h16, h8]
  omega

namespace Cursor

variable {α β : Type}

@[simp] lemma run_bigEndian (w : UInt32) (rest : List UInt8) :
    bigEndian.run (bigEndianBytes w ++ rest) = some (w, rest) := by
  show some (word _ _ _ _, rest) = _
  rw [word_bytes]

/-- If each item is read from its bytes, a list of items is read from their bytes one after the
other. -/
lemma run_each {field : α → Cursor β} {bytes : α → List UInt8} {result : α → β}
    (h : ∀ a rest, (field a).run (bytes a ++ rest) = some (result a, rest)) (l : List α)
    (rest : List UInt8) :
    (each field l).run (l.flatMap bytes ++ rest) = some (l.map result, rest) := by
  induction l with
  | nil => rfl
  | cons a l ih =>
    rw [each, List.flatMap_cons, List.append_assoc, StateT.run_bind, h, Option.bind_eq_bind,
      Option.bind_some, StateT.run_bind, ih]
    rfl

lemma times_length (field : Cursor β) (l : List α) :
    times field l.length = each (fun _ => field) l := by
  induction l with
  | nil => rfl
  | cons a l ih => rw [List.length_cons, times, each, ih]

lemma run_times {field : Cursor β} {bytes : α → List UInt8} {result : α → β}
    (h : ∀ a rest, field.run (bytes a ++ rest) = some (result a, rest)) (l : List α)
    (rest : List UInt8) :
    (field.times l.length).run (l.flatMap bytes ++ rest) = some (l.map result, rest) := by
  rw [times_length, run_each (fun a rest => h a rest)]

end Cursor

/-- What is measured at a tick. Of the values only those that the setup selects are sent. -/
structure Reading where
  tick : UInt32
  value : Quantity → Single

end Measure

open ControlNode.Measure

/-! ### The layout of a setup -/

namespace ConsumptionSetup

variable (setup : ConsumptionSetup)

/-- The bytes of a sample: the tick, and then power, voltage and current as far as they are
selected. -/
def sampleBytes (m : Reading) : List UInt8 :=
  bigEndianBytes m.tick ++ (if setup.power then bigEndianBytes (m.value .power).bits else []) ++
    (if setup.voltage then bigEndianBytes (m.value .voltage).bits else []) ++
    (if setup.current then bigEndianBytes (m.value .current).bits else [])

/-- The sample that these bytes stand for when ticks count from the given time. -/
def sampleFrom (reference : Float) (m : Reading) : ConsumptionSample where
  timestamp := reference + m.tick.toFloat / 32768
  power := if setup.power then some (m.value .power) else none
  voltage := if setup.voltage then some (m.value .voltage) else none
  current := if setup.current then some (m.value .current) else none

/-- The packet with the samples of a setup. -/
def packet (ms : List Reading) : Packet :=
  consumptionTag :: setup.flags :: UInt8.ofNat ms.length :: ms.flatMap setup.sampleBytes

/-- The layout that follows from the flags byte. -/
def layout : Layout := ⟨setup.flags⟩

lemma quantities_eq :
    setup.quantities =
      (if setup.power then [.power] else []) ++ (if setup.voltage then [.voltage] else []) ++
        (if setup.current then [.current] else []) := by
  obtain ⟨-, power, voltage, current, -, -⟩ := setup
  simp only [quantities, Quantity.all, List.filter_cons, List.filter_nil, selects]
  cases power <;> cases voltage <;> cases current <;> rfl

lemma flags_eq :
    setup.flags =
      setup.rail.flag ||| (if setup.power then 1 else 0) ||| (if setup.voltage then 2 else 0) |||
        (if setup.current then 4 else 0) := by
  rw [flags, quantities_eq]
  split_ifs <;> simp [Quantity.flag]

/-- The layout holds the quantities that are selected: no two of them share a bit, and none is a
bit of the rail. -/
lemma has_layout (q : Quantity) : setup.layout.has q = setup.selects q := by
  obtain ⟨rail, power, voltage, current, -, -⟩ := setup
  simp only [layout, Layout.has, flags_eq]
  cases q <;> cases rail <;> cases power <;> cases voltage <;> cases current <;>
    simp only [selects, if_true, if_false, Bool.false_eq_true] <;> decide

lemma rail_layout : setup.layout.rail = some setup.rail := by
  obtain ⟨rail, power, voltage, current, -, -⟩ := setup
  simp only [layout, Layout.rail, flags_eq]
  cases rail <;> cases power <;> cases voltage <;> cases current <;>
    simp only [if_true, if_false, Bool.false_eq_true] <;> decide

lemma quantities_layout : setup.layout.quantities = setup.quantities :=
  List.filter_congr fun q _ => setup.has_layout q

lemma mem_quantities (q : Quantity) : q ∈ setup.quantities ↔ setup.selects q = true := by
  rw [quantities, List.mem_filter, and_iff_right_iff_imp]
  intro _
  cases q <;> decide

lemma sampleBytes_eq (m : Reading) :
    setup.sampleBytes m =
      bigEndianBytes m.tick ++
        setup.quantities.flatMap fun q => bigEndianBytes (m.value q).bits := by
  rw [sampleBytes, quantities_eq]
  split_ifs <;> simp

lemma length_sampleBytes (m : Reading) :
    (setup.sampleBytes m).length = setup.layout.sampleLength := by
  rw [sampleBytes_eq, Layout.sampleLength, quantities_layout, List.length_append,
    length_bigEndianBytes, List.length_flatMap]
  simp only [length_bigEndianBytes, List.map_const', List.sum_replicate_nat]
  omega

lemma length_packet (ms : List Reading) :
    (setup.packet ms).length = 3 + ms.length * setup.layout.sampleLength := by
  rw [packet, List.length_cons, List.length_cons, List.length_cons, List.length_flatMap]
  simp only [length_sampleBytes, List.map_const', List.sum_replicate_nat]
  omega

end ConsumptionSetup

/-! ### Decoding what was written -/

namespace Measure

lemma lookup_map_self {α β : Type} [DecidableEq α] (f : α → β) (l : List α) (a : α) :
    (l.map fun b => (b, f b)).lookup a = if a ∈ l then some (f a) else none := by
  induction l with
  | nil => rfl
  | cons b l ih =>
    by_cases h : a = b
    · subst h
      simp
    · have hne : (a == b) = false := by simpa using h
      simp [List.lookup_cons, hne, ih, h]

/-- The bytes of a sample are read with the quantities of its setup. -/
lemma run_readConsumptionSample (setup : ConsumptionSetup) (reference : Float) (m : Reading)
    (rest : List UInt8) :
    (readConsumptionSample setup.quantities reference).run (setup.sampleBytes m ++ rest) =
      some (setup.sampleFrom reference m, rest) := by
  have hvalue (q : Quantity) (rest : List UInt8) :
      (readValue q).run (bigEndianBytes (m.value q).bits ++ rest) =
        some ((q, m.value q), rest) := by
    rw [readValue, StateT.run_bind, Cursor.run_bigEndian]
    rfl
  have hlookup (q : Quantity) :
      valueOf (setup.quantities.map fun q => (q, m.value q)) q =
        if setup.selects q then some (m.value q) else none := by
    simp only [valueOf, lookup_map_self, setup.mem_quantities]
  rw [ConsumptionSetup.sampleBytes_eq, List.append_assoc, readConsumptionSample, StateT.run_bind,
    Cursor.run_bigEndian, Option.bind_eq_bind, Option.bind_some, StateT.run_bind,
    Cursor.run_each hvalue, Option.bind_eq_bind, Option.bind_some]
  show some (ConsumptionSample.mk _ (valueOf _ _) (valueOf _ _) (valueOf _ _), rest) = _
  rw [hlookup, hlookup, hlookup]
  rfl

/-- With the layout of its setup, a packet is decoded to the rail of the setup and to what was
measured. -/
theorem decodeConsumption_packet (setup : ConsumptionSetup) (reference : Float) {ms : List Reading}
    (h : ms.length ≤ 255) :
    decodeConsumption (some setup.layout) (some reference) (setup.packet ms) =
      pure (.ok { rail := some setup.rail, samples := ms.map (setup.sampleFrom reference) }) := by
  have hcount : (UInt8.ofNat ms.length).toNat = ms.length := by
    rw [UInt8.toNat_ofNat']
    omega
  have hlength := setup.length_packet ms
  have hread := Cursor.run_times (run_readConsumptionSample setup reference) ms []
  rw [List.append_nil] at hread
  rw [ConsumptionSetup.packet] at hlength ⊢
  rw [decodeConsumption.eq_def]
  simp only [hcount, hlength, consumptionHeader, setup.quantities_layout, setup.rail_layout, hread,
    ne_eq, not_true_eq_false, if_false]
  exact congrArg (Logged.mk _) (if_pos rfl)

end Measure

end ControlNode
