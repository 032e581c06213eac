import ControlNode.Proofs.Session.Decoding
import ControlNode.Proofs.Session.Outcome

/-!
# The time reference over a history

A session notes the time at which a reset of the clock is asked for, and makes it the reference when
the reset is acknowledged. Commands can be answered, refused or not answered at all, and
acknowledgements can be late, repeated or unasked for. The invariant ties the noted time to the
history (`History.pending_before`): it is the time of the last reset, if no acknowledgement has come
since then and the reset was not rejected. Hence an acknowledgement installs the time of the last
reset before it, at most once, and nothing else moves the reference
(`History.reference_over_history`).
-/

namespace ControlNode.Session

variable {σ : Type}

/-! ### Histories -/

/-- What can happen to a session. What a command is answered is up to the carrier. Sending a packet
past the session, that of a reset included, leaves what the session knows as it is, so it is an act
of the carrier. -/
inductive Event (σ : Type) where
  | perform (c : Command)
  | decode (p : Packet)
  | setClock (clock : Float)
  /-- The carrier goes on by itself. -/
  | carry (f : σ → σ)

/-- What one event leaves. -/
def handle [Carrier σ] (s : Session σ) : Event σ → Session σ
  | .perform c => (s.perform c).value.2
  | .decode p => (s.decode p).value.2
  | .setClock clock => { s with clock }
  | .carry f => { s with carrier := f s.carrier }

/-- The events of a session, from the first to the last; each is known by its place. -/
abbrev History (σ : Type) := List (Event σ)

namespace History

variable (history : History σ)

/-- A reset of the clock is asked for at the place. -/
def IsReset (k : Nat) : Prop := history[k]? = some (.perform .resetTime)

/-- The acknowledgement of a reset is decoded at the place. -/
def IsResetAck (k : Nat) : Prop := ∃ rest, history[k]? = some (.decode (0xFA :: 0x72 :: rest))

/-- The reset at place `i` is the last one before place `k`, and no acknowledgement has come since
then. -/
structure LastReset (i k : Nat) : Prop where
  reset : history.IsReset i
  lt : i < k
  between : ∀ j, i < j → j < k → ¬ history.IsReset j ∧ ¬ history.IsResetAck j

variable [Carrier σ] (start : Session σ)

/-- The session when the event at the place is due. -/
def before (k : Nat) : Session σ := (history.take k).foldl handle start

/-- What the reset at a place is answered. -/
def resultOfReset (i : Nat) : Except CommandError Unit :=
  ((history.before start i).perform .resetTime).value.1

/-- The acknowledgement at place `j` installs the time of the reset at place `i`: the reset is the
last one before, no acknowledgement has come since then, and it was neither refused nor answered
otherwise. -/
structure Installs (i j : Nat) : Prop where
  last : history.LastReset i j
  ack : history.IsResetAck j
  accepted : Decoding.isRejection (history.resultOfReset start i) = false

end History

/-! ### What one event changes -/

section

variable [Carrier σ] {s : Session σ}

/-- The time of a reset is pending unless the reset was rejected. -/
def noted (time : Float) (result : Except CommandError Unit) : Option Float :=
  if Decoding.isRejection result then none else some time

/-- A command goes the same way whatever is known, and what is known is changed by itself. -/
lemma value_perform_decoding (s : Session σ) (d : Decoding) (c : Command) :
    let done := (s.perform c).value
    ({ s with decoding := d }.perform c).value =
      (done.1, { done.2 with decoding := d.afterCommand s.clock c done.1 }) := by
  cases h : c.encode with
  | error e =>
    have hc : c ≠ .resetTime := by
      rintro rfl
      cases h
    simp only [perform_of_error h, d.afterCommand_of_ne s.clock hc]
  | ok p =>
    rw [value_perform_of_ok h, value_perform_of_ok h]
    rfl

lemma decoding_perform (s : Session σ) (c : Command) :
    (s.perform c).value.2.decoding =
      s.decoding.afterCommand s.clock c (s.perform c).value.1 :=
  congrArg (·.2.decoding) (s.value_perform_decoding s.decoding c)

lemma decoding_perform_reset (s : Session σ) :
    (s.perform .resetTime).value.2.decoding =
      { s.decoding with pending := noted s.clock (s.perform .resetTime).value.1 } := by
  rw [decoding_perform, Decoding.afterCommand_reset, noted]

lemma decoding_perform_of_ne {c : Command} (h : c ≠ .resetTime) :
    (s.perform c).value.2.decoding = s.decoding := by
  rw [decoding_perform, Decoding.afterCommand_of_ne _ _ h]

/-- Every answer to a command is an acceptance, a rejection or missing. -/
lemma isRejection_judge (tag : UInt8) (answer : Option Packet) :
    Decoding.isRejection (Command.judge tag answer) = false ↔
      Command.judge tag answer = .ok () ∨ Command.judge tag answer = .error (.timeout tag) := by
  rw [Command.judge.eq_def]
  split
  · simp [Decoding.isRejection]
  · split
    · split_ifs <;> simp [Decoding.isRejection]
    · simp [Decoding.isRejection]

lemma isRejection_perform_reset (s : Session σ) :
    Decoding.isRejection (s.perform .resetTime).value.1 = false ↔
      (s.perform .resetTime).value.1 = .ok () ∨
        (s.perform .resetTime).value.1 = .error (.timeout Command.resetTimeTag) := by
  have hresult : (s.perform .resetTime).value.1 =
      Command.judge Command.resetTimeTag (Carrier.exchange s.carrier [0x72]).value.1 :=
    value_conclude .resetTime _
  rw [hresult, isRejection_judge]

/-- Only the acknowledgement of a reset moves the reference. -/
lemma reference_handle {e : Event σ} (h : ∀ rest, e ≠ .decode (0xFA :: 0x72 :: rest)) :
    (s.handle e).decoding.reference = s.decoding.reference := by
  cases e with
  | perform c =>
    by_cases hc : c = .resetTime
    · subst hc
      rw [handle, decoding_perform_reset]
    · rw [handle, decoding_perform_of_ne hc]
  | decode p =>
    have hack : ¬ p.IsResetAck := fun ⟨rest, hp⟩ => h rest (hp ▸ rfl)
    exact (s.decoding.decode_of_not_isResetAck s.clock hack).1
  | setClock clock => rfl
  | carry f => rfl

/-- Only resets and their acknowledgements change what is pending. -/
lemma pending_handle {e : Event σ} (hreset : e ≠ .perform .resetTime)
    (hack : ∀ rest, e ≠ .decode (0xFA :: 0x72 :: rest)) :
    (s.handle e).decoding.pending = s.decoding.pending := by
  cases e with
  | perform c =>
    have hc : c ≠ .resetTime := fun hc => hreset (hc ▸ rfl)
    rw [handle, decoding_perform_of_ne hc]
  | decode p =>
    have hack : ¬ p.IsResetAck := fun ⟨rest, hp⟩ => hack rest (hp ▸ rfl)
    exact (s.decoding.decode_of_not_isResetAck s.clock hack).2
  | setClock clock => rfl
  | carry f => rfl

lemma decoding_handle_resetAck (s : Session σ) (rest : List UInt8) :
    (s.handle (.decode (0xFA :: 0x72 :: rest))).decoding = s.decoding.confirm :=
  congrArg Prod.snd (s.decoding.value_decode_resetAck s.clock rest)

end

/-! ### The last reset -/

namespace History

section

variable {history : History σ} {i j k : Nat}

lemma LastReset.eq (h : history.LastReset i k) (h' : history.LastReset j k) : i = j := by
  rcases Nat.lt_trichotomy i j with hlt | rfl | hlt
  · exact absurd h'.reset (h.between j hlt h'.lt).1
  · rfl
  · exact absurd h.reset (h'.between i hlt h.lt).1

lemma lastReset_succ_of_reset (hk : history.IsReset k) : history.LastReset k (k + 1) :=
  ⟨hk, Nat.lt_succ_self k, fun j hkj hjk => by omega⟩

lemma not_lastReset_succ_of_ack (hk : history.IsResetAck k) (i : Nat) :
    ¬ history.LastReset i (k + 1) := by
  intro h
  rcases Nat.lt_succ_iff_lt_or_eq.1 h.lt with hlt | rfl
  · exact (h.between k hlt (Nat.lt_succ_self k)).2 hk
  · obtain ⟨rest, hrest⟩ := hk
    exact absurd (h.reset.symm.trans hrest) (by simp)

lemma lastReset_succ_of_other (hreset : ¬ history.IsReset k) (hack : ¬ history.IsResetAck k)
    (i : Nat) : history.LastReset i (k + 1) ↔ history.LastReset i k := by
  constructor
  · intro h
    rcases Nat.lt_succ_iff_lt_or_eq.1 h.lt with hlt | rfl
    · exact ⟨h.reset, hlt, fun j hij hjk => h.between j hij (Nat.lt_succ_of_lt hjk)⟩
    · exact absurd h.reset hreset
  · intro h
    refine ⟨h.reset, Nat.lt_succ_of_lt h.lt, fun j hij hjk => ?_⟩
    rcases Nat.lt_succ_iff_lt_or_eq.1 hjk with hlt | rfl
    · exact h.between j hij hlt
    · exact ⟨hreset, hack⟩

variable [Carrier σ] (start : Session σ)

lemma before_succ {e : Event σ} (h : history[k]? = some e) :
    history.before start (k + 1) = (history.before start k).handle e := by
  rw [before, List.take_add_one, h, Option.toList_some, List.foldl_append]
  rfl

lemma before_succ_of_none (h : history[k]? = none) :
    history.before start (k + 1) = history.before start k := by
  rw [before, List.take_add_one, h, Option.toList_none, List.append_nil, before]

/-- What is pending is the time of the last reset, unless it was rejected; if no reset was asked
for since the last acknowledgement, nothing is pending. -/
theorem pending_before (hstart : start.decoding.pending = none) (k : Nat) :
    (∀ i, history.LastReset i k → (history.before start k).decoding.pending =
      noted (history.before start i).clock (history.resultOfReset start i)) ∧
    ((∀ i, ¬ history.LastReset i k) → (history.before start k).decoding.pending = none) := by
  induction k with
  | zero => exact ⟨fun i h => absurd h.lt (Nat.not_lt_zero i), fun _ => hstart⟩
  | succ k ih =>
    by_cases hreset : history.IsReset k
    · have hlast := lastReset_succ_of_reset hreset
      refine ⟨fun i h => ?_, fun h => absurd hlast (h k)⟩
      obtain rfl := h.eq hlast
      rw [before_succ start hreset, handle, decoding_perform_reset]
      rfl
    · by_cases hack : history.IsResetAck k
      · refine ⟨fun i h => absurd h (not_lastReset_succ_of_ack hack i), fun _ => ?_⟩
        obtain ⟨rest, hrest⟩ := hack
        rw [before_succ start hrest, decoding_handle_resetAck, Decoding.pending_confirm]
      · have hpending : (history.before start (k + 1)).decoding.pending =
            (history.before start k).decoding.pending := by
          cases hk : history[k]? with
          | none => rw [before_succ_of_none start hk]
          | some e =>
            rw [before_succ start hk]
            refine pending_handle ?_ fun rest => ?_
            · rintro rfl
              exact hreset hk
            · rintro rfl
              exact hack ⟨rest, hk⟩
        simp only [lastReset_succ_of_other hreset hack, hpending]
        exact ih

/-! ### Acknowledgements -/

lemma reference_succ_of_ack (h : history.IsResetAck j) :
    (history.before start (j + 1)).decoding.reference =
      (history.before start j).decoding.pending.or (history.before start j).decoding.reference := by
  obtain ⟨rest, hrest⟩ := h
  rw [before_succ start hrest, decoding_handle_resetAck, Decoding.reference_confirm]

lemma reference_succ_of_not_ack (h : ¬ history.IsResetAck j) :
    (history.before start (j + 1)).decoding.reference =
      (history.before start j).decoding.reference := by
  cases hj : history[j]? with
  | none => rw [before_succ_of_none start hj]
  | some e =>
    rw [before_succ start hj]
    refine reference_handle fun rest => ?_
    rintro rfl
    exact h ⟨rest, hj⟩

variable {start}

lemma Installs.reference_succ (hstart : start.decoding.pending = none)
    (h : history.Installs start i j) :
    (history.before start (j + 1)).decoding.reference = some (history.before start i).clock := by
  have hpending := (pending_before start hstart j).1 i h.last
  rw [reference_succ_of_ack start h.ack, hpending, noted, h.accepted]
  rfl

/-- What an acknowledgement leaves is the reference before it, if it does not install a time. -/
lemma exists_installs (hstart : start.decoding.pending = none)
    (h : (history.before start (j + 1)).decoding.reference ≠
      (history.before start j).decoding.reference) : ∃ i, history.Installs start i j := by
  have hack : history.IsResetAck j := by
    by_contra hack
    exact h (reference_succ_of_not_ack start hack)
  have hpending : (history.before start j).decoding.pending ≠ none := by
    intro hpending
    rw [reference_succ_of_ack start hack, hpending] at h
    exact h rfl
  obtain ⟨i, hi⟩ : ∃ i, history.LastReset i j := by
    by_contra hno
    exact hpending ((pending_before start hstart j).2 (not_exists.1 hno))
  refine ⟨i, hi, hack, ?_⟩
  rw [(pending_before start hstart j).1 i hi, noted] at hpending
  cases hresult : Decoding.isRejection (history.resultOfReset start i) with
  | false => rfl
  | true =>
    rw [hresult] at hpending
    exact absurd rfl hpending

/-- Each time is installed by one acknowledgement at most. -/
lemma Installs.ack_eq (h : history.Installs start i j) (h' : history.Installs start i k) :
    j = k := by
  rcases Nat.lt_trichotomy j k with hlt | rfl | hlt
  · exact absurd h.ack (h'.last.between j h.last.lt hlt).2
  · rfl
  · exact absurd h'.ack (h.last.between k h'.last.lt hlt).2

/-- In any history of a new session the reference moves only when an acknowledgement installs the
time of a reset, and it is then the time at which that reset was asked for. The acknowledgement
installs the time of the last reset, if that has come after the previous acknowledgement and was
accepted or not answered. If none was asked for since the previous acknowledgement, the reference
stays. So an acknowledgement installs the time of one reset only, and no time is installed
twice. -/
theorem reference_over_history (clock : Float) (carrier : σ) (history : History σ) :
    let start : Session σ := { clock, carrier }
    let reference (k : Nat) := (history.before start k).decoding.reference
    (∀ j, reference (j + 1) ≠ reference j → ∃ i, history.Installs start i j) ∧
    (∀ i j, history.Installs start i j →
      reference (j + 1) = some (history.before start i).clock) ∧
    (∀ i j, history.LastReset i j → history.IsResetAck j →
      history.resultOfReset start i = .ok () ∨
        history.resultOfReset start i = .error (.timeout 0x72) → history.Installs start i j) ∧
    (∀ j, (∀ i, i < j → history.IsReset i → ∃ k, i < k ∧ k < j ∧ history.IsResetAck k) →
      reference (j + 1) = reference j) ∧
    (∀ i i' j j', history.Installs start i j → history.Installs start i' j' →
      (i = i' ↔ j = j')) := by
  intro start reference
  refine ⟨fun j => exists_installs rfl, fun i j h => h.reference_succ rfl, ?_, ?_, ?_⟩
  · intro i j hlast hack hresult
    exact ⟨hlast, hack, (isRejection_perform_reset _).2 hresult⟩
  · intro j hold
    by_contra hmoved
    obtain ⟨i, hi⟩ : ∃ i, history.Installs start i j := exists_installs rfl hmoved
    obtain ⟨k, hik, hkj, hack⟩ := hold i hi.last.lt hi.last.reset
    exact (hi.last.between k hik hkj).2 hack
  · intro i i' j j' h h'
    constructor
    · rintro rfl
      exact h.ack_eq h'
    · rintro rfl
      exact h.last.eq h'.last

end

end History

end ControlNode.Session
