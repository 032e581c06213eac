import ControlNode.Proofs.Inbox.Threads
import ControlNode.Proofs.Trace
import Mathlib.Data.List.Nodup
import Mathlib.Data.List.Perm.Basic

/-!
# Interleavings

What all steps of the threads preserve (`Inv`): how full the mailbox is, who has the lock, where
every letter is that has arrived, and since when the letters lie in the mailbox that a sender may
still return. The fields are preserved one at a time, by cases on the step.
-/

namespace ControlNode.Inbox.Threads

variable {ι : Type}

/-! ### What a run has done with the letters -/

/-- The letters that have arrived. -/
def accepted (τ : List (Event ι)) : List Letter :=
  τ.filterMap Event.accepted?

/-- The letters that have come into the mailbox. -/
def inserted (τ : List (Event ι)) : List Letter :=
  τ.filterMap Event.inserted?

/-- The letters that the courier has displaced. -/
def displaced (τ : List (Event ι)) : List Letter :=
  τ.filterMap Event.displaced?

/-- The letters that senders have dropped before they wrote. -/
def drained (τ : List (Event ι)) : List Letter :=
  τ.filterMap Event.drained?

/-- The letters that senders have returned. -/
def returned (τ : List (Event ι)) : List Letter :=
  τ.filterMap Event.returned?

lemma inserted_cons (e : Event ι) (τ : List (Event ι)) :
    inserted (e :: τ) = e.inserted?.toList ++ inserted τ :=
  filterMap_cons_toList _ e τ

lemma displaced_cons (e : Event ι) (τ : List (Event ι)) :
    displaced (e :: τ) = e.displaced?.toList ++ displaced τ :=
  filterMap_cons_toList _ e τ

lemma drained_cons (e : Event ι) (τ : List (Event ι)) :
    drained (e :: τ) = e.drained?.toList ++ drained τ :=
  filterMap_cons_toList _ e τ

lemma returned_cons (e : Event ι) (τ : List (Event ι)) :
    returned (e :: τ) = e.returned?.toList ++ returned τ :=
  filterMap_cons_toList _ e τ

lemma mem_inserted {τ : List (Event ι)} {l : Letter} (h : .insert l ∈ τ) : l ∈ inserted τ :=
  List.mem_filterMap.2 ⟨_, h, rfl⟩

lemma mem_returned {τ : List (Event ι)} {i : ι} {l : Letter} (h : .release i (some l) ∈ τ) :
    l ∈ returned τ :=
  List.mem_filterMap.2 ⟨_, h, rfl⟩

lemma inserted_append (τ τ' : List (Event ι)) :
    inserted (τ ++ τ') = inserted τ ++ inserted τ' :=
  List.filterMap_append

lemma returned_append (τ τ' : List (Event ι)) :
    returned (τ ++ τ') = returned τ ++ returned τ' :=
  List.filterMap_append

/-- Sender `i` has found the mailbox empty and has not returned since then, and meanwhile the
letters have come into the mailbox. -/
def SinceDrain (τ : List (Event ι)) (i : ι) (ls : List Letter) : Prop :=
  ∃ since before, τ = since ++ .drained i :: before ∧
    (∀ answer, .release i answer ∉ since) ∧ ∀ l ∈ ls, .insert l ∈ since

namespace SinceDrain

variable {τ : List (Event ι)} {e : Event ι} {i : ι} {l : Letter} {ls ls' : List Letter}

lemma drained (τ : List (Event ι)) (i : ι) : SinceDrain (.drained i :: τ) i [] := by
  refine ⟨[], τ, rfl, ?_, ?_⟩
  · intro answer h
    exact List.not_mem_nil h
  · intro l h
    exact absurd h List.not_mem_nil

lemma mono (h : SinceDrain τ i ls) (hls : ls' ⊆ ls) : SinceDrain τ i ls' := by
  obtain ⟨since, before, rfl, hrelease, hinsert⟩ := h
  exact ⟨since, before, rfl, hrelease, fun l hl => hinsert l (hls hl)⟩

lemma cons (h : SinceDrain τ i ls) (he : ∀ answer, e ≠ .release i answer) :
    SinceDrain (e :: τ) i ls := by
  obtain ⟨since, before, rfl, hrelease, hinsert⟩ := h
  refine ⟨e :: since, before, rfl, ?_, ?_⟩
  · intro answer hmem
    rcases List.mem_cons.1 hmem with heq | hmem
    · exact he answer heq.symm
    · exact hrelease answer hmem
  · intro l hl
    exact List.mem_cons_of_mem e (hinsert l hl)

lemma insert (h : SinceDrain τ i ls) : SinceDrain (.insert l :: τ) i (ls ++ [l]) := by
  obtain ⟨since, before, rfl, hrelease, hinsert⟩ := h
  refine ⟨.insert l :: since, before, rfl, ?_, ?_⟩
  · intro answer hmem
    rcases List.mem_cons.1 hmem with heq | hmem
    · cases heq
    · exact hrelease answer hmem
  · intro l' hl'
    rcases List.mem_append.1 hl' with hl' | hl'
    · exact List.mem_cons_of_mem _ (hinsert l' hl')
    · rw [List.mem_singleton.1 hl']
      exact List.mem_cons_self

end SinceDrain

/-- The letters that a sender returns if it stops waiting now. -/
def Sender.reach (mailbox : List Letter) : Sender → Option (List Letter)
  | writing _ | awaiting => some mailbox
  | leaving (some l) => some [l]
  | leaving none | idle | locking _ | draining _ => none

lemma Sender.reach_afterDrain {command : Packet} {mailbox ls : List Letter}
    (h : (afterDrain command).reach mailbox = some ls) : ls = mailbox := by
  rcases afterDrain_cases command with ⟨wire, hnext⟩ | hnext
  · rw [hnext] at h
    exact (Option.some.inj h).symm
  · rw [hnext] at h
    cases h

lemma Sender.reach_afterWrite {outcome : Except Frame.Error Unit} {mailbox ls : List Letter}
    (h : (afterWrite outcome).reach mailbox = some ls) : ls = mailbox := by
  cases outcome with
  | ok => exact (Option.some.inj h).symm
  | error => cases h

/-- A sender has no other letters in reach when some are taken out of the mailbox. -/
lemma Sender.reach_mono {x : Sender} {mailbox mailbox' ls' : List Letter}
    (hsub : mailbox' ⊆ mailbox) (h : x.reach mailbox' = some ls') :
    ∃ ls, x.reach mailbox = some ls ∧ ls' ⊆ ls := by
  cases x with
  | writing | awaiting =>
    cases h
    exact ⟨mailbox, rfl, hsub⟩
  | leaving answer =>
    cases answer with
    | none => cases h
    | some l => exact ⟨ls', h, fun _ hl => hl⟩
  | idle | locking | draining => cases h

/-! ### The invariant -/

/-- What every step preserves. -/
structure Inv (τ : List (Event ι)) (s : State ι) : Prop where
  mailbox_le : s.mailbox.length ≤ capacity
  /-- Nothing comes into the mailbox between the second and the third operation of a delivery. -/
  retrying : ∀ l, s.courier = .retrying l → s.mailbox = []
  lock : ∀ i, s.lock = some i ↔ (s.sender i).isInside = true
  serials : (accepted τ).map Letter.serial = (List.range s.tally.answers).reverse
  accepted : (accepted τ).Perm (s.courier.held ++ inserted τ)
  inserted : (inserted τ).Perm
    (s.mailbox ++ s.inHand ++ displaced τ ++ drained τ ++ returned τ)
  overwritten : s.tally.staleOverwritten = (displaced τ).length
  dropped : s.tally.staleDrained = (drained τ).length
  since : ∀ i ls, (s.sender i).reach s.mailbox = some ls → SinceDrain τ i ls

lemma Inv.initial : Inv [] ({} : State ι) where
  mailbox_le := Nat.zero_le _
  retrying l h := by cases h
  lock i := by simp [Sender.isInside]
  serials := rfl
  accepted := List.Perm.nil
  inserted := List.Perm.nil
  overwritten := rfl
  dropped := rfl
  since i ls h := by cases h

variable {τ : List (Event ι)} {s s' : State ι} {e : Event ι}

lemma Inv.since_mono (inv : Inv τ s) {j : ι} {mailbox ls : List Letter}
    (hsub : mailbox ⊆ s.mailbox) (h : (s.sender j).reach mailbox = some ls) :
    SinceDrain τ j ls := by
  obtain ⟨ls', hls', hsub'⟩ := Sender.reach_mono hsub h
  exact (inv.since j ls' hls').mono hsub'

lemma Inv.since_insert (inv : Inv τ s) {j : ι} {l : Letter} {ls : List Letter}
    (h : (s.sender j).reach (s.mailbox ++ [l]) = some ls) :
    SinceDrain (.insert l :: τ) j ls := by
  cases hj : s.sender j with
  | writing | awaiting =>
    rw [hj] at h
    cases h
    exact (inv.since j s.mailbox (by rw [hj]; rfl)).insert
  | leaving answer =>
    have hreach : (s.sender j).reach s.mailbox = some ls := by
      rw [hj] at h ⊢
      cases answer <;> exact h
    exact (inv.since j ls hreach).cons (by rintro _ ⟨⟩)
  | idle | locking | draining =>
    rw [hj] at h
    cases h

lemma Inv.nodup_accepted (inv : Inv τ s) : (Threads.accepted τ).Nodup := by
  refine List.Nodup.of_map Letter.serial ?_
  rw [inv.serials]
  exact List.nodup_reverse.2 List.nodup_range

lemma Inv.nodup_inserted (inv : Inv τ s) : (Threads.inserted τ).Nodup :=
  (List.nodup_append.1 (inv.accepted.nodup_iff.1 inv.nodup_accepted)).2.1

lemma Inv.nodup_returned (inv : Inv τ s) : (Threads.returned τ).Nodup :=
  (List.nodup_append.1 (inv.inserted.nodup_iff.1 inv.nodup_inserted)).2.1

variable [DecidableEq ι]

lemma Inv.preserve_mailbox_le (inv : Inv τ s) (step : Step s e s') :
    s'.mailbox.length ≤ capacity := by
  have hle := inv.mailbox_le
  cases step with
  | offer _ hroom | retry _ hroom =>
    rw [List.length_append]
    exact hroom
  | displace _ hm | drain _ hm | receive _ hm =>
    rw [hm] at hle
    exact Nat.le_of_succ_le hle
  | _ => exact hle

lemma Inv.preserve_retrying (inv : Inv τ s) (step : Step s e s') :
    ∀ l, s'.courier = .retrying l → s'.mailbox = [] := by
  intro l hl
  cases step with
  | accept | offer | full | retry | refuse => cases hl
  | vanish _ hm => exact hm
  | displace _ hm =>
    -- There was room for one letter only, which is gone now.
    have hle := inv.mailbox_le
    rw [hm] at hle
    exact List.eq_nil_of_length_eq_zero (Nat.le_zero.1 (Nat.le_of_succ_le_succ hle))
  | drain _ hm | receive _ hm =>
    -- No sender finds a letter while the courier tries for the second time.
    have hempty := inv.retrying l hl
    rw [hm] at hempty
    cases hempty
  | _ => exact inv.retrying l hl

lemma isInside_update {sender : ι → Sender} {i : ι} {x : Sender}
    (h : x.isInside = (sender i).isInside) (j : ι) :
    (Function.update sender i x j).isInside = (sender j).isInside := by
  by_cases hj : j = i
  · subst hj
    rw [Function.update_self, h]
  · rw [Function.update_of_ne hj]

lemma Inv.preserve_lock (inv : Inv τ s) (step : Step s e s') :
    ∀ j, s'.lock = some j ↔ (s'.sender j).isInside = true := by
  intro j
  cases step with
  | call _ hi | receive hi | timeout hi =>
    rw [isInside_update (by rw [hi]; rfl)]
    exact inv.lock j
  | drained hi =>
    rw [isInside_update (by rw [hi]; exact Sender.isInside_afterDrain _)]
    exact inv.lock j
  | wrote _ hi =>
    rw [isInside_update (by rw [hi]; exact Sender.isInside_afterWrite _)]
    exact inv.lock j
  | @acquire i command hi hlock =>
    by_cases hj : j = i
    · subst hj
      simp [Sender.isInside]
    · have hout := inv.lock j
      rw [hlock] at hout
      simpa [Function.update_of_ne hj, Ne.symm hj] using hout
  | @release i answer hi =>
    by_cases hj : j = i
    · subst hj
      simp [Sender.isInside]
    · have hlock : s.lock = some i := (inv.lock i).2 (by rw [hi]; rfl)
      have hout := inv.lock j
      rw [hlock] at hout
      simpa [Function.update_of_ne hj, Ne.symm hj] using hout
  | _ => exact inv.lock j

lemma Inv.preserve_serials (inv : Inv τ s) (step : Step s e s') :
    (Threads.accepted (e :: τ)).map Letter.serial = (List.range s'.tally.answers).reverse := by
  cases step with
  | sort _ hp =>
    rw [(tally_route_of_not_isAnswer hp).1]
    exact inv.serials
  | accept =>
    show s.tally.answers :: (Threads.accepted τ).map Letter.serial = _
    rw [inv.serials, List.range_succ, List.reverse_append]
    rfl
  | _ => exact inv.serials

lemma Inv.preserve_accepted (inv : Inv τ s) (step : Step s e s') :
    (Threads.accepted (e :: τ)).Perm (s'.courier.held ++ Threads.inserted (e :: τ)) := by
  have h := inv.accepted
  cases step with
  | accept hc =>
    rw [hc] at h
    exact h.cons _
  | offer hc | full hc | displace hc | vanish hc | retry hc =>
    rw [hc] at h
    exact h
  | refuse hc hfull =>
    -- The letter would be lost here, but the mailbox has room.
    rw [inv.retrying _ hc] at hfull
    exact absurd Nat.zero_lt_one hfull
  | _ => exact h

/-- A sender that neither takes a letter nor returns one leaves the letter in hand as it is. -/
lemma inHand_update {i : ι} {x : Sender} (h : x.held = (s.sender i).held) :
    State.inHand { s with sender := Function.update s.sender i x } = s.inHand := by
  cases hlock : s.lock with
  | none => simp [State.inHand, hlock]
  | some j =>
    by_cases hj : j = i
    · subst hj
      simp [State.inHand, hlock, h]
    · simp [State.inHand, hlock, Function.update_of_ne hj]

/-- A step takes as many letters out of the mailbox and out of the hands of senders as go. -/
lemma Inv.conserve (inv : Inv τ s) (step : Step s e s') :
    (s'.mailbox ++ s'.inHand ++
      (e.displaced?.toList ++ e.drained?.toList ++ e.returned?.toList)).Perm
      (e.inserted?.toList ++ (s.mailbox ++ s.inHand)) := by
  cases step with
  | call _ hi =>
    rw [inHand_update (by rw [hi]; rfl)]
    exact .of_eq (List.append_nil _)
  | drained hi =>
    rw [inHand_update (by rw [hi]; exact Sender.held_afterDrain _)]
    exact .of_eq (List.append_nil _)
  | wrote _ hi =>
    rw [inHand_update (by rw [hi]; exact Sender.held_afterWrite _)]
    exact .of_eq (List.append_nil _)
  | timeout hi =>
    rw [inHand_update (by rw [hi]; rfl)]
    exact .of_eq (List.append_nil _)
  | @offer l | @retry l =>
    show ((s.mailbox ++ [l]) ++ s.inHand ++ []).Perm (l :: (s.mailbox ++ s.inHand))
    simp
  | @displace l stale rest hc hm =>
    show (rest ++ s.inHand ++ [stale]).Perm (s.mailbox ++ s.inHand)
    rw [hm]
    exact List.perm_append_comm
  | @drain i command stale rest hi hm =>
    show (rest ++ s.inHand ++ [stale]).Perm (s.mailbox ++ s.inHand)
    rw [hm]
    exact List.perm_append_comm
  | @acquire i command hi hlock =>
    have hafter : State.inHand { s with
        lock := some i
        sender := Function.update s.sender i (.draining command) } = [] :=
      State.inHand_of_holder (x := .draining command) rfl (Function.update_self i _ _)
    rw [State.inHand_of_free hlock, hafter]
    exact .of_eq (List.append_nil _)
  | @receive i l rest hi hm =>
    have hlock : s.lock = some i := (inv.lock i).2 (by rw [hi]; rfl)
    have hafter : State.inHand { s with
        mailbox := rest
        sender := Function.update s.sender i (.leaving (some l)) } = [l] :=
      State.inHand_of_holder (x := .leaving (some l)) hlock (Function.update_self i _ _)
    rw [State.inHand_of_holder hlock hi, hafter, hm]
    show (rest ++ [l] ++ []).Perm (l :: rest ++ [])
    rw [List.append_nil, List.append_nil]
    exact List.perm_append_singleton l rest
  | @release i answer hi =>
    have hlock : s.lock = some i := (inv.lock i).2 (by rw [hi]; rfl)
    rw [State.inHand_of_holder hlock hi, State.inHand_of_free rfl]
    show (s.mailbox ++ [] ++ answer.toList).Perm (s.mailbox ++ answer.toList)
    rw [List.append_nil]
  | _ => exact .of_eq (List.append_nil _)

lemma Inv.preserve_inserted (inv : Inv τ s) (step : Step s e s') :
    (Threads.inserted (e :: τ)).Perm
      (s'.mailbox ++ s'.inHand ++ Threads.displaced (e :: τ) ++ Threads.drained (e :: τ) ++
        Threads.returned (e :: τ)) := by
  rw [inserted_cons, displaced_cons, drained_cons, returned_cons, List.perm_iff_count]
  intro l
  have hstep := List.perm_iff_count.1 (inv.conserve step) l
  have hrun := List.perm_iff_count.1 inv.inserted l
  simp only [List.count_append] at hstep hrun ⊢
  omega

lemma Inv.preserve_overwritten (inv : Inv τ s) (step : Step s e s') :
    s'.tally.staleOverwritten = (Threads.displaced (e :: τ)).length := by
  cases step with
  | sort _ hp =>
    rw [(tally_route_of_not_isAnswer hp).2.1]
    exact inv.overwritten
  | displace => exact congrArg Nat.succ inv.overwritten
  | _ => exact inv.overwritten

lemma Inv.preserve_dropped (inv : Inv τ s) (step : Step s e s') :
    s'.tally.staleDrained = (Threads.drained (e :: τ)).length := by
  cases step with
  | sort _ hp =>
    rw [(tally_route_of_not_isAnswer hp).2.2]
    exact inv.dropped
  | drain => exact congrArg Nat.succ inv.dropped
  | _ => exact inv.dropped

/-- When sender `i` becomes `x`, all others stay as they are. -/
lemma Inv.since_update (inv : Inv τ s) {i : ι} {x : Sender} {mailbox : List Letter}
    (hsub : mailbox ⊆ s.mailbox)
    (hx : ∀ ls, x.reach mailbox = some ls → SinceDrain (e :: τ) i ls)
    (he : ∀ j answer, e = .release j answer → j = i) (j : ι) (ls : List Letter)
    (h : (Function.update s.sender i x j).reach mailbox = some ls) :
    SinceDrain (e :: τ) j ls := by
  by_cases hj : j = i
  · subst hj
    rw [Function.update_self] at h
    exact hx ls h
  · rw [Function.update_of_ne hj] at h
    exact (inv.since_mono hsub h).cons fun answer heq => hj (he j answer heq)

lemma Inv.preserve_since (inv : Inv τ s) (step : Step s e s') :
    ∀ j ls, (s'.sender j).reach s'.mailbox = some ls → SinceDrain (e :: τ) j ls := by
  intro j ls h
  cases step with
  | offer | retry => exact inv.since_insert h
  | displace _ hm | drain _ hm =>
    exact (inv.since_mono (by simp [hm]) h).cons (by rintro _ ⟨⟩)
  | call | acquire | timeout =>
    exact inv.since_update (List.Subset.refl _) (by rintro _ ⟨⟩) (by rintro _ _ ⟨⟩) j ls h
  | release =>
    exact inv.since_update (List.Subset.refl _) (by rintro _ ⟨⟩) (by rintro _ _ ⟨⟩; rfl) j ls h
  | @drained i command hi hm =>
    refine inv.since_update (List.Subset.refl _) (fun ls h => ?_) (by rintro _ _ ⟨⟩) j ls h
    rw [Sender.reach_afterDrain h, hm]
    exact SinceDrain.drained τ i
  | @wrote i wire outcome hi =>
    refine inv.since_update (List.Subset.refl _) (fun ls h => ?_) (by rintro _ _ ⟨⟩) j ls h
    rw [Sender.reach_afterWrite h]
    exact (inv.since i s.mailbox (by rw [hi]; rfl)).cons (by rintro _ ⟨⟩)
  | @receive i l rest hi hm =>
    -- What lay in the mailbox came there since the drain, so the letter in hand did.
    have hrest : rest ⊆ s.mailbox := by simp [hm]
    have hl : [l] ⊆ s.mailbox := by simp [hm]
    have hsince : SinceDrain τ i s.mailbox := inv.since i s.mailbox (by rw [hi]; rfl)
    refine inv.since_update hrest (fun ls h => ?_) (by rintro _ _ ⟨⟩) j ls h
    cases h
    exact (hsince.mono hl).cons (by rintro _ ⟨⟩)
  | _ => exact (inv.since j ls h).cons (by rintro _ ⟨⟩)

lemma Inv.preserve (inv : Inv τ s) (step : Step s e s') : Inv (e :: τ) s' where
  mailbox_le := inv.preserve_mailbox_le step
  retrying := inv.preserve_retrying step
  lock := inv.preserve_lock step
  serials := inv.preserve_serials step
  accepted := inv.preserve_accepted step
  inserted := inv.preserve_inserted step
  overwritten := inv.preserve_overwritten step
  dropped := inv.preserve_dropped step
  since := inv.preserve_since step

/-- The invariant holds after every run. -/
theorem inv_of_run (h : Run τ s) : Inv τ s := by
  induction h with
  | nil => exact Inv.initial
  | cons _ step ih => exact ih.preserve step

end ControlNode.Inbox.Threads
