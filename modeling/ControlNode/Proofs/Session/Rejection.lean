import ControlNode.Proofs.Session.TimeReference
import ControlNode.Session.Replay

/-!
# Resets that are rejected

A session notes one time only, that of the last reset of the clock. A reset that is rejected is
forgotten, and neither the layout nor the time reference is touched by it. But when it was asked
for, the time of an earlier reset may still have been waiting for its acknowledgement; that time is
forgotten as well, and no acknowledgement brings it back
(`History.rejected_reset_forgets`). What is known stays as it was exactly if no reset was waiting.
-/

namespace ControlNode.Session

variable {σ : Type} [Carrier σ]

/-! ### Nothing is pending -/

/-- As long as no reset is asked for, nothing comes to be pending, and the reference stays. -/
lemma handle_of_pending_eq_none {s : Session σ} {e : Event σ} (hpending : s.decoding.pending = none)
    (he : e ≠ .perform .resetTime) :
    (s.handle e).decoding.pending = none ∧
      (s.handle e).decoding.reference = s.decoding.reference := by
  by_cases hack : ∃ rest, e = .decode (0xFA :: 0x72 :: rest)
  · obtain ⟨rest, rfl⟩ := hack
    rw [decoding_handle_resetAck, Decoding.pending_confirm, Decoding.reference_confirm, hpending]
    exact ⟨rfl, rfl⟩
  · have hack : ∀ rest, e ≠ .decode (0xFA :: 0x72 :: rest) := not_exists.1 hack
    exact ⟨(pending_handle he hack).trans hpending, reference_handle hack⟩

/-- A command is rejected if it is refused or answered otherwise. -/
lemma isRejection_iff {result : Except CommandError Unit} :
    Decoding.isRejection result = true ↔
      (∃ tag, result = .error (.refused tag)) ∨
        ∃ tag a, result = .error (.unexpectedAnswer tag a) := by
  rw [Decoding.isRejection.eq_def]
  split
  · simp
  · simp
  · next hrefused hunexpected =>
    simp only [Bool.false_eq_true, false_iff]
    rintro (⟨tag, h⟩ | ⟨tag, a, h⟩)
    · exact hrefused tag h
    · exact hunexpected tag a h

namespace History

variable {history : History σ} {start : Session σ} {i j k : Nat}

/-- The reset at place `i` still waits for its acknowledgement when the event at place `k` is due:
no reset and no acknowledgement has come after it, and it was accepted or not answered. -/
structure Waits (history : History σ) (start : Session σ) (i k : Nat) : Prop where
  last : history.LastReset i k
  accepted : Decoding.isRejection (history.resultOfReset start i) = false

/-- What is pending is the time of the reset that waits. -/
lemma Waits.pending (hstart : start.decoding.pending = none) (h : history.Waits start i k) :
    (history.before start k).decoding.pending = some (history.before start i).clock := by
  rw [(pending_before start hstart k).1 i h.last, noted, h.accepted]
  rfl

/-- Nothing is pending exactly if no reset waits. -/
lemma pending_eq_none_iff (hstart : start.decoding.pending = none) :
    (history.before start k).decoding.pending = none ↔ ∀ i, ¬ history.Waits start i k := by
  constructor
  · intro hpending i hwaits
    rw [hwaits.pending hstart] at hpending
    cases hpending
  · intro hnone
    by_cases hlast : ∃ i, history.LastReset i k
    · obtain ⟨i, hi⟩ := hlast
      have hrejected : Decoding.isRejection (history.resultOfReset start i) = true := by
        rw [← Bool.not_eq_false]
        exact fun haccepted => hnone i ⟨hi, haccepted⟩
      rw [(pending_before start hstart k).1 i hi, noted, if_pos hrejected]
    · exact (pending_before start hstart k).2 (not_exists.1 hlast)

/-- A reset that is rejected leaves nothing pending, and nothing else changes. -/
lemma decoding_succ_of_rejected (hreset : history.IsReset k)
    (hrejected : Decoding.isRejection (history.resultOfReset start k) = true) :
    (history.before start (k + 1)).decoding =
      { (history.before start k).decoding with pending := none } := by
  rw [before_succ start hreset, handle, decoding_perform_reset, noted]
  exact congrArg _ (if_pos hrejected)

/-- Once nothing is pending, the reference stays until the next reset is asked for. -/
lemma reference_of_pending_eq_none (hpending : (history.before start k).decoding.pending = none)
    (hkj : k ≤ j) (hreset : ∀ l, k ≤ l → l < j → ¬ history.IsReset l) :
    (history.before start j).decoding.pending = none ∧
      (history.before start j).decoding.reference =
        (history.before start k).decoding.reference := by
  induction hkj with
  | refl => exact ⟨hpending, rfl⟩
  | @step j hkj ih =>
    obtain ⟨hpending, hreference⟩ := ih fun l hkl hlj => hreset l hkl (Nat.lt_succ_of_lt hlj)
    cases hj : history[j]? with
    | none =>
      rw [before_succ_of_none start hj]
      exact ⟨hpending, hreference⟩
    | some e =>
      have he : e ≠ .perform .resetTime := by
        rintro rfl
        exact hreset j hkj (Nat.lt_succ_self j) hj
      obtain ⟨hpending', hreference'⟩ := handle_of_pending_eq_none hpending he
      rw [before_succ start hj]
      exact ⟨hpending', hreference'.trans hreference⟩

/-- In any history of a new session, a reset that is refused or answered otherwise leaves the layout
and the time reference as they were, and nothing pending. So what is known is exactly as it was
before if and only if no earlier reset was waiting for its acknowledgement. The time of a reset that
was waiting is lost: an acknowledgement would have installed it before, and installs nothing
afterwards, and the reference stays until another reset is asked for. -/
theorem rejected_reset_forgets (clock : Float) (carrier : σ) (history : History σ) (k : Nat)
    (hreset : history.IsReset k)
    (hrejected : (∃ tag, history.resultOfReset { clock, carrier } k = .error (.refused tag)) ∨
      ∃ tag a, history.resultOfReset { clock, carrier } k = .error (.unexpectedAnswer tag a)) :
    let start : Session σ := { clock, carrier }
    let s := history.before start
    (s (k + 1)).decoding = { (s k).decoding with pending := none } ∧
    ((s (k + 1)).decoding = (s k).decoding ↔ ∀ i, ¬ history.Waits start i k) ∧
    (∀ i rest, history.Waits start i k →
      let ack := .decode (0xFA :: 0x72 :: rest)
      ((s k).handle ack).decoding.reference = some (s i).clock ∧
      ((s (k + 1)).handle ack).decoding.reference = (s k).decoding.reference) ∧
    (∀ j, k < j → (∀ l, k < l → l < j → ¬ history.IsReset l) →
      (s j).decoding.reference = (s k).decoding.reference) := by
  intro start s
  have hdecoding : (s (k + 1)).decoding = { (s k).decoding with pending := none } :=
    decoding_succ_of_rejected hreset (isRejection_iff.2 hrejected)
  have hpending : (s (k + 1)).decoding.pending = none := by rw [hdecoding]
  have hreference : (s (k + 1)).decoding.reference = (s k).decoding.reference := by rw [hdecoding]
  refine ⟨hdecoding, ?_, fun i rest hwaits => ⟨?_, ?_⟩, fun j hkj hlater => ?_⟩
  · have hsame : (s (k + 1)).decoding = (s k).decoding ↔ (s k).decoding.pending = none := by
      constructor
      · intro h
        rw [← h, hpending]
      · intro h
        rw [hdecoding, ← h]
    exact hsame.trans (pending_eq_none_iff rfl)
  · rw [decoding_handle_resetAck, Decoding.reference_confirm, hwaits.pending rfl]
    rfl
  · have hack : Event.decode (σ := σ) (0xFA :: 0x72 :: rest) ≠ .perform .resetTime := nofun
    exact (handle_of_pending_eq_none hpending hack).2.trans hreference
  · have hstays := reference_of_pending_eq_none hpending hkj hlater
    exact hstays.2.trans hreference

/-- A reset is not answered, and a later one is refused; then the acknowledgement of the first one
arrives. -/
def overlapping : History Replay :=
  [.perform .resetTime, .setClock 2000, .perform .resetTime, .decode [0xFA, 0x72]]

/-- Silence, and then a refusal. -/
def silenceThenRefusal : Replay where
  answers := [none, some [0x72, 0x02]]

theorem rejected_reset_forgets_overlapping :
    let start : Session Replay := { clock := 1000, carrier := silenceThenRefusal }
    let s := overlapping.before start
    overlapping.IsReset 2 ∧ overlapping.resultOfReset start 2 = .error (.refused 0x72) ∧
      overlapping.Waits start 0 2 ∧
      ((s 2).handle (.decode [0xFA, 0x72])).decoding.reference = some 1000 ∧
      ((s 3).handle (.decode [0xFA, 0x72])).decoding.reference = none := by
  intro start s
  have hreset : overlapping.IsReset 2 := rfl
  have hresult : overlapping.resultOfReset start 2 = .error (.refused 0x72) := rfl
  have hwaits : overlapping.Waits start 0 2 := by
    refine ⟨⟨rfl, by decide, fun j hj hj' => ?_⟩, rfl⟩
    obtain rfl : j = 1 := by omega
    exact ⟨nofun, nofun⟩
  have h := rejected_reset_forgets 1000 silenceThenRefusal overlapping 2 hreset (.inl ⟨_, hresult⟩)
  exact ⟨hreset, hresult, hwaits, h.2.2.1 0 [] hwaits⟩

/-- What is known is not as it was before the reset that was refused, and the reset before it, which
was not answered, is never completed. -/
theorem timed_out_reset_is_lost :
    let start : Session Replay := { clock := 1000, carrier := silenceThenRefusal }
    let s := overlapping.before start
    overlapping.resultOfReset start 0 = .error (.timeout 0x72) ∧
      overlapping.resultOfReset start 2 = .error (.refused 0x72) ∧
      (s 2).decoding.pending = some 1000 ∧ (s 3).decoding.pending = none ∧
      (s 3).decoding ≠ (s 2).decoding ∧ (s 4).decoding.reference = none := by
  intro start s
  have hbefore : (s 2).decoding.pending = some 1000 := rfl
  have hafter : (s 3).decoding.pending = none := rfl
  refine ⟨rfl, rfl, hbefore, hafter, fun hsame => ?_, rfl⟩
  rw [hsame, hbefore] at hafter
  cases hafter

end History

end ControlNode.Session
