import ControlNode.Proofs.Collector.Threads
import ControlNode.Proofs.Session.Setup
import Mathlib.Data.List.ReduceOption

/-!
# What becomes of the packets

There is never more than one worker (`Inv`), so the packets are taken in the order in which they
were pushed, and decoded in the order in which they were taken, whoever takes them. `Accounts` says
what becomes of them between any two moments: the packets that are decoded, the one in hand, and
those that wait are together the packets that waited and those that are pushed, and as long as
nobody else uses the session, the records are those of one decoding of them.
-/

namespace ControlNode

/-! ### Decoding one packet after the other -/

namespace Decoding

variable (d : Decoding)

/-- The clock matters for no more than what is told about a reset. -/
lemma value_decode_clock (clock clock' : Float) (p : Packet) :
    (d.decode clock p).value = (d.decode clock' p).value := by
  refine Prod.ext (record_decode_congr clock clock' rfl rfl p) ?_
  by_cases hreset : p.IsResetAck
  · obtain ⟨rest, rfl⟩ := hreset
    rw [value_decode_resetAck, value_decode_resetAck]
  · cases hsetup : p.ackedFlags? with
    | none => rw [decode_of_other d clock hreset hsetup, decode_of_other d clock' hreset hsetup]
    | some flags =>
      obtain ⟨rest, rfl⟩ := Packet.ackedFlags?_eq_some_iff.1 hsetup
      rw [value_decode_setupAck, value_decode_setupAck]

lemma value_decodeAll_append (clock : Float) (ps later : List Packet) :
    (d.decodeAll clock (ps ++ later)).value =
      let first := (d.decodeAll clock ps).value
      let rest := (first.2.decodeAll clock later).value
      (first.1 ++ rest.1, rest.2) := by
  induction ps generalizing d with
  | nil => rfl
  | cons p ps ih =>
    simp only [List.cons_append, decodeAll, Logged.value_bind, Logged.value_pure, ih]

end Decoding

namespace Collector.Threads

variable {σ : Type} {session : Session σ} {τ : List Event} {s s' : State σ} {e : Event} {k : Nat}

/-! ### One worker -/

/-- The only worker that there may be. -/
def State.current? (s : State σ) : Option Nat :=
  match s.control with
  | .clearing k | .joining k => some k
  | .idle | .starting => s.handle

/-- Where the only worker is that there may be. -/
def State.hand (s : State σ) : Stage :=
  match s.current? with
  | some k => s.stage k
  | none => .gone

/-- What every step keeps up about the workers. -/
structure Inv (s : State σ) : Prop where
  only : ∀ k, s.stage k ≠ .gone → s.current? = some k
  /-- A worker that can be stopped was started for good, and the flag is set. -/
  handled : s.handle.isSome = true → s.control = .idle ∧ s.up = true
  starting : s.control = .starting → s.up = true
  /-- As long as it is not stopped, a worker only ends when there will be no more packets. -/
  ended : ∀ k, s.handle = some k → s.stage k = .gone → s.closed = true ∧ s.queue = []

lemma current?_of_handle (h : Inv s) (hk : s.handle = some k) : s.current? = some k := by
  have hc := (h.handled (by rw [hk]; rfl)).1
  rw [State.current?, hc]
  exact hk

lemma hand_of_current? (hk : s.current? = some k) : s.hand = s.stage k := by
  rw [State.hand, hk]

lemma gone_of_current? (h : Inv s) (hnone : s.current? = none) (k : Nat) : s.stage k = .gone := by
  by_contra hk
  have hsome := h.only k hk
  rw [hnone] at hsome
  cases hsome

/-- Nobody is being stopped while there is a worker to stop. -/
lemma handle_of_control (h : Inv s) (hc : s.control ≠ .idle) : s.handle = none := by
  by_contra hsome
  exact hc (h.handled (Option.isSome_iff_ne_none.2 hsome)).1

/-- As long as nobody is being stopped, the only worker is the one that can be. -/
lemma current?_eq_handle (hc : s.control = .idle ∨ s.control = .starting) :
    s.current? = s.handle := by
  rcases hc with hc | hc <;> rw [State.current?, hc]

lemma inv_new : Inv ({ session } : State σ) := ⟨nofun, nofun, nofun, nofun⟩

lemma inv_of_gone (hgone : ∀ k, s.stage k = .gone) (hnone : s.handle = none)
    (hstarting : s.control = .starting → s.up = true) : Inv s where
  only k hk := (hk (hgone k)).elim
  handled := by simp [hnone]
  starting := hstarting
  ended := by simp [hnone]

/-- The worker goes on; if it ends without being stopped, there will be no more packets. -/
lemma inv_of_move {stage : Stage} (h : Inv s) (hk : s.stage k ≠ .gone)
    (hstage : s'.stage = Function.update s.stage k stage) (hcontrol : s'.control = s.control)
    (hhandle : s'.handle = s.handle) (hup : s'.up = s.up)
    (hended : stage = .gone → s.handle = some k → s'.closed = true ∧ s'.queue = []) :
    Inv s' where
  only j hj := by
    have hcurrent : s'.current? = s.current? := by
      rw [State.current?, State.current?, hcontrol, hhandle]
    rw [hcurrent]
    by_cases hjk : j = k
    · rw [hjk]
      exact h.only k hk
    · rw [hstage, Function.update_of_ne hjk] at hj
      exact h.only j hj
  handled := by
    rw [hhandle, hcontrol, hup]
    exact h.handled
  starting := by
    rw [hcontrol, hup]
    exact h.starting
  ended j hj hgone := by
    rw [hhandle] at hj
    -- The worker that goes on is the one that can be stopped.
    obtain rfl : j = k :=
      Option.some.inj ((current?_of_handle h hj).symm.trans (h.only k hk))
    rw [hstage, Function.update_self] at hgone
    exact hended hgone hj

lemma inv_step (h : Inv s) (step : Step s e s') : Inv s' := by
  cases step with
  | push p hopen =>
    refine ⟨h.only, h.handled, h.starting, fun k hk hgone => ?_⟩
    have hclosed := (h.ended k hk hgone).1
    rw [hopen] at hclosed
    cases hclosed
  | close => exact ⟨h.only, h.handled, h.starting, fun k hk hgone => ⟨rfl, (h.ended k hk hgone).2⟩⟩
  | use | tick => exact ⟨h.only, h.handled, h.starting, h.ended⟩
  | refuse | pass => exact h
  | begin hc hnone =>
    have hgone := gone_of_current? h ((current?_eq_handle (.inl hc)).trans hnone)
    exact inv_of_gone hgone hnone fun _ => rfl
  | spawn hc =>
    have hnone : s.handle = none := handle_of_control h (by simp [hc])
    have hgone := gone_of_current? h ((current?_eq_handle (.inr hc)).trans hnone)
    refine ⟨fun j hj => ?_, fun _ => ⟨rfl, h.starting hc⟩, nofun, fun j hj hj' => ?_⟩
    · by_cases hjk : j = s.born
      · rw [hjk]
        rfl
      · simp [State.move, Function.update_of_ne hjk, hgone j] at hj
    · obtain rfl : s.born = j := Option.some.inj hj
      simp [State.move] at hj'
  | spawnFail text hc =>
    have hnone : s.handle = none := handle_of_control h (by simp [hc])
    have hgone := gone_of_current? h ((current?_eq_handle (.inr hc)).trans hnone)
    exact inv_of_gone hgone hnone nofun
  | halt hc hsome =>
    refine ⟨fun j hj => ?_, nofun, nofun, nofun⟩
    rw [← h.only j hj, current?_of_handle h hsome]
    rfl
  | @clear k hc =>
    have hnone : s.handle = none := handle_of_control h (by simp [hc])
    have hcurrent : s.current? = some k := by rw [State.current?, hc]
    refine ⟨fun j hj => ?_, by simp [hnone], nofun, by simp [hnone]⟩
    rw [← h.only j hj, hcurrent]
    rfl
  | @join k hc hgone =>
    have hnone : s.handle = none := handle_of_control h (by simp [hc])
    have hcurrent : s.current? = some k := by rw [State.current?, hc]
    refine inv_of_gone (fun j => ?_) hnone nofun
    by_contra hj
    obtain rfl : k = j := Option.some.inj (hcurrent.symm.trans (h.only j hj))
    exact hj hgone
  | look hk =>
    refine inv_of_move h (by simp [hk]) rfl rfl rfl rfl fun hgone hhandle => ?_
    have hup := (h.handled (by simp [hhandle])).2
    simp [hup] at hgone
  | finish hk hq hclosed =>
    exact inv_of_move h (by simp [hk]) rfl rfl rfl rfl fun _ _ => ⟨hclosed, hq⟩
  | take hk | silence hk | give hk => exact inv_of_move h (by simp [hk]) rfl rfl rfl rfl nofun
  | decode hk =>
    refine inv_of_move h (by simp [hk]) rfl rfl rfl rfl fun hgone => ?_
    cases hrecord : (s.session.decode _).value.1 <;> simp [hrecord, Stage.after] at hgone

/-! ### The packet and the record in hand -/

/-- The worker goes on from where it is to where it is then. -/
lemma hand_move {stage : Stage} (h : Inv s) (hk : s.stage k = stage) (hne : stage ≠ .gone)
    (stage' : Stage) : s.hand = stage ∧ (s.move k stage').hand = stage' := by
  have hcurrent : s.current? = some k := h.only k (hk ▸ hne)
  constructor
  · rw [State.hand, hcurrent]
    exact hk
  · rw [State.hand, show (s.move k stage').current? = some k from hcurrent]
    exact Function.update_self ..

/-- A step that is not the worker's leaves it where it is, or lets it begin. -/
lemma hand_step (h : Inv s) (step : Step s e s') (he : e.isWork = false) :
    s'.hand = s.hand ∨ e.isSpawn = true ∧ s.hand = .gone ∧ s'.hand = .looking := by
  -- Whether it can still be stopped or is already being stopped makes no difference.
  have hsame (hcurrent : s'.current? = s.current?) (hstage : s'.stage = s.stage) :
      s'.hand = s.hand := by
    rw [State.hand, State.hand, hcurrent, hstage]
  cases step with
  | push | close | use | tick | refuse | pass => exact .inl rfl
  | begin hc hnone => exact .inl (hsame (current?_eq_handle (.inl hc)).symm rfl)
  | spawnFail text hc => exact .inl (hsame (current?_eq_handle (.inr hc)).symm rfl)
  | halt hc hsome => exact .inl (hsame (current?_of_handle h hsome).symm rfl)
  | clear hc =>
    refine .inl (hsame ?_ rfl)
    rw [State.current?, State.current?, hc]
  | spawn hc =>
    have hnone : s.current? = none :=
      (current?_eq_handle (.inr hc)).trans (handle_of_control h (by simp [hc]))
    refine .inr ⟨rfl, ?_, Function.update_self ..⟩
    rw [State.hand, hnone]
  | join hc hgone =>
    have hnone : s.handle = none := handle_of_control h (by simp [hc])
    refine .inl ?_
    simp [State.hand, State.current?, hc, hnone, hgone]
  | look | take | silence | finish | decode | give => cases he

/-- So it leaves what the worker has in hand. -/
lemma packet?_step (h : Inv s) (step : Step s e s') (he : e.isWork = false) :
    s'.hand.packet? = s.hand.packet? ∧ s'.hand.record? = s.hand.record? := by
  obtain heq | ⟨-, hgone, hlooking⟩ := hand_step h step he
  · rw [heq]
    exact ⟨rfl, rfl⟩
  · rw [hgone, hlooking]
    exact ⟨rfl, rfl⟩

lemma packet?_after (r : Option Record) : (Stage.after r).packet? = none := by
  cases r <;> rfl

lemma record?_after (r : Option Record) : (Stage.after r).record? = r := by
  cases r <;> rfl

/-- What is decoded, in hand or waits is what was in hand or waited, and what is pushed. -/
lemma packets_step (h : Inv s) (step : Step s e s') :
    e.decoded?.toList ++ s'.hand.packet?.toList ++ s'.queue =
      s.hand.packet?.toList ++ s.queue ++ e.pushed?.toList := by
  cases hwork : e.isWork with
  | false =>
    rw [(packet?_step h step hwork).1]
    cases step with
    | push p => exact (List.append_assoc _ _ _).symm
    | look | take | silence | finish | decode | give => cases hwork
    | _ => exact (List.append_nil _).symm
  | true =>
    cases step with
    | look hk =>
      obtain ⟨hhand, hhand'⟩ := hand_move h hk nofun (if s.up then .waiting else .gone)
      rw [hhand, hhand']
      split <;> exact (List.append_nil _).symm
    | @take k p queue hk hq =>
      obtain ⟨hhand, hhand'⟩ := hand_move h hk nofun (.holding p)
      show (s.move k (.holding p)).hand.packet?.toList ++ queue = _
      rw [hhand, hhand', hq]
      exact (List.append_nil _).symm
    | silence hk =>
      obtain ⟨hhand, hhand'⟩ := hand_move h hk nofun .looking
      rw [hhand, hhand']
      exact (List.append_nil _).symm
    | finish hk =>
      obtain ⟨hhand, hhand'⟩ := hand_move h hk nofun .gone
      rw [hhand, hhand']
      exact (List.append_nil _).symm
    | @decode k p hk =>
      obtain ⟨hhand, hhand'⟩ := hand_move h hk nofun (.after (s.session.decode p).value.1)
      show [p] ++ (s.move k (.after _)).hand.packet?.toList ++ s.queue = _
      rw [hhand, hhand', packet?_after]
      exact (List.append_nil _).symm
    | give hk =>
      obtain ⟨hhand, hhand'⟩ := hand_move h hk nofun .looking
      rw [hhand, hhand']
      exact (List.append_nil _).symm
    | _ => cases hwork

/-- What is handed over or in hand is what was in hand, and the record of what is decoded. -/
lemma records_step (h : Inv s) (step : Step s e s') (he : e.isUse = false) (clock : Float) :
    let done := (s.session.decoding.decodeAll clock e.decoded?.toList).value
    e.given?.toList ++ s'.hand.record?.toList =
      s.hand.record?.toList ++ done.1.reduceOption ∧
    s'.session.decoding = done.2 := by
  intro done
  cases hwork : e.isWork with
  | false =>
    rw [(packet?_step h step hwork).2]
    cases step with
    | use => cases he
    | look | take | silence | finish | decode | give => cases hwork
    | _ => exact ⟨(List.append_nil _).symm, rfl⟩
  | true =>
    cases step with
    | look hk =>
      obtain ⟨hhand, hhand'⟩ := hand_move h hk nofun (if s.up then .waiting else .gone)
      rw [hhand, hhand']
      refine ⟨?_, rfl⟩
      split <;> rfl
    | @take k p queue hk hq =>
      obtain ⟨hhand, hhand'⟩ := hand_move h hk nofun (.holding p)
      refine ⟨?_, rfl⟩
      show (s.move k (.holding p)).hand.record?.toList = _
      rw [hhand, hhand']
      rfl
    | silence hk =>
      obtain ⟨hhand, hhand'⟩ := hand_move h hk nofun .looking
      rw [hhand, hhand']
      exact ⟨rfl, rfl⟩
    | finish hk =>
      obtain ⟨hhand, hhand'⟩ := hand_move h hk nofun .gone
      rw [hhand, hhand']
      exact ⟨rfl, rfl⟩
    | @decode k p hk =>
      obtain ⟨hhand, hhand'⟩ := hand_move h hk nofun (.after (s.session.decode p).value.1)
      -- What the session makes of the packet does not depend on its clock.
      have hdone : done = ([(s.session.decode p).value.1],
          (s.session.decode p).value.2.decoding) := by
        rw [Session.value_decode, s.session.decoding.value_decode_clock s.session.clock clock p]
        rfl
      rw [hdone]
      refine ⟨?_, rfl⟩
      show (s.move k (.after _)).hand.record?.toList = _
      rw [hhand, hhand', record?_after]
      cases (s.session.decode p).value.1 <;> rfl
    | give hk =>
      obtain ⟨hhand, hhand'⟩ := hand_move h hk nofun .looking
      rw [hhand, hhand']
      exact ⟨rfl, rfl⟩
    | _ => cases hwork

/-! ### What a run has done -/

/-- The packets that were pushed, from the first to the last. -/
def pushed (τ : List Event) : List Packet := τ.filterMap Event.pushed?

/-- The packets that were decoded, by whatever worker. -/
def decoded (τ : List Event) : List Packet := τ.filterMap Event.decoded?

/-- The records that were handed over, to whatever consumer. -/
def given (τ : List Event) : List Record := τ.filterMap Event.given?

lemma pushed_concat (τ : List Event) (e : Event) :
    pushed (τ ++ [e]) = pushed τ ++ e.pushed?.toList :=
  filterMap_concat_toList _ τ e

lemma decoded_concat (τ : List Event) (e : Event) :
    decoded (τ ++ [e]) = decoded τ ++ e.decoded?.toList :=
  filterMap_concat_toList _ τ e

lemma given_concat (τ : List Event) (e : Event) :
    given (τ ++ [e]) = given τ ++ e.given?.toList :=
  filterMap_concat_toList _ τ e

/-- What can be said of the packets and the records between two moments. -/
structure Accounts (s : State σ) (τ : List Event) (s' : State σ) : Prop where
  /-- No packet is lost, taken twice or out of turn. -/
  kept : decoded τ ++ s'.hand.packet?.toList ++ s'.queue =
    s.hand.packet?.toList ++ s.queue ++ pushed τ
  /-- If nobody else uses the session, the records and what the session knows are those of one
  decoding of the packets. -/
  records : (∀ e ∈ τ, e.isUse = false) → ∀ clock,
    let all := (s.session.decoding.decodeAll clock (decoded τ)).value
    given τ ++ s'.hand.record?.toList = s.hand.record?.toList ++ all.1.reduceOption ∧
    s'.session.decoding = all.2

namespace Accounts

lemma refl (s : State σ) : Accounts s [] s where
  kept := (List.append_nil _).symm
  records _ _ := ⟨(List.append_nil _).symm, rfl⟩

lemma step {s'' : State σ} (h : Accounts s τ s') (hinv : Inv s') (next : Step s' e s'') :
    Accounts s (τ ++ [e]) s'' where
  kept := by
    have hstep := packets_step hinv next
    calc decoded (τ ++ [e]) ++ s''.hand.packet?.toList ++ s''.queue
        = decoded τ ++ (e.decoded?.toList ++ s''.hand.packet?.toList ++ s''.queue) := by
          rw [decoded_concat]
          simp only [List.append_assoc]
      _ = decoded τ ++ s'.hand.packet?.toList ++ s'.queue ++ e.pushed?.toList := by
          rw [hstep]
          simp only [List.append_assoc]
      _ = s.hand.packet?.toList ++ s.queue ++ pushed (τ ++ [e]) := by
          rw [h.kept, pushed_concat, List.append_assoc]
  records hunused clock := by
    have he : e.isUse = false := hunused e (List.mem_append_right _ List.mem_cons_self)
    obtain ⟨hbefore, hdecoding⟩ :=
      h.records (fun e' he' => hunused e' (List.mem_append_left _ he')) clock
    obtain ⟨hnow, hdecoding'⟩ := records_step hinv next he clock
    rw [hdecoding] at hnow hdecoding'
    simp only [decoded_concat, Decoding.value_decodeAll_append, List.reduceOption_append]
    refine ⟨?_, hdecoding'⟩
    rw [given_concat, List.append_assoc, hnow, ← List.append_assoc, hbefore, List.append_assoc]

end Accounts

lemma inv_of_trace (h : Inv s) (trace : Trace Step s τ s') : Inv s' :=
  trace.induction (P := fun _ => Inv) (τ := []) (fun h step => inv_step h step) h

lemma inv_of_run (run : Run session τ s) : Inv s := inv_of_trace inv_new run

/-- Whatever happens, the packets and the records are accounted for. -/
theorem accounts_of_trace (h : Inv s) (trace : Trace Step s τ s') : Accounts s τ s' := by
  refine (trace.induction (P := fun τ s' => Inv s' ∧ Accounts s τ s') (τ := []) ?_
    ⟨h, .refl s⟩).2
  intro τ s₁ e s₂ ⟨hinv, hbefore⟩ next
  exact ⟨inv_step hinv next, hbefore.step hinv next⟩

/-- The packets that were decoded, the one in hand and those that wait are the packets that were
pushed. -/
lemma kept_of_run (run : Run session τ s) :
    decoded τ ++ s.hand.packet?.toList ++ s.queue = pushed τ :=
  (accounts_of_trace inv_new run).kept

/-- Between a stop and the next start there is nothing in hand. -/
lemma kept_of_stopped (run : Run session τ s) (hnone : s.current? = none) :
    decoded τ ++ s.queue = pushed τ := by
  have hkept := kept_of_run run
  rw [State.hand, hnone] at hkept
  simpa [Stage.packet?] using hkept

end Collector.Threads

end ControlNode
