import ControlNode.Proofs.Inbox.Interleaving

/-!
# Safety of the shared inbox

What holds after every run of the threads (`safe_of_run`): the mailbox never holds more than one
letter, at most one sender is inside and every way out frees the lock, no letter is lost unnoticed,
and an answer is returned once only, by a sender that had found the mailbox empty before the answer
came into it.
-/

namespace ControlNode.Inbox.Threads

variable {ι : Type} [DecidableEq ι] {τ : List (Event ι)} {s s' : State ι} {e : Event ι}

/-! ### Leaving -/

/-- Sender `i` can give the lock back by steps of its own. -/
def CanLeave (s : State ι) (i : ι) : Prop :=
  ∃ τ s', Steps s τ s' ∧ (∀ e ∈ τ, e.sender? = some i) ∧ s'.sender i = .idle ∧ s'.lock = none

section

variable {i : ι}

lemma CanLeave.of_step (step : Step s e s') (he : e.sender? = some i) (h : CanLeave s' i) :
    CanLeave s i := by
  obtain ⟨τ, s'', run, hτ, hidle, hlock⟩ := h
  refine ⟨τ ++ [e], s'', (Steps.single step).trans run, ?_, hidle, hlock⟩
  intro e' he'
  rcases List.mem_append.1 he' with he' | he'
  · exact hτ e' he'
  · rw [List.mem_singleton.1 he', he]

lemma canLeave_of_leaving {answer : Option Letter} (hi : s.sender i = .leaving answer) :
    CanLeave s i :=
  ⟨_, _, Steps.single (.release hi), by simp [Event.sender?], Function.update_self i _ _, rfl⟩

lemma canLeave_of_awaiting (hi : s.sender i = .awaiting) : CanLeave s i := by
  cases hm : s.mailbox with
  | nil => exact .of_step (.timeout hi hm) rfl (canLeave_of_leaving (Function.update_self i _ _))
  | cons l rest =>
    exact .of_step (.receive hi hm) rfl (canLeave_of_leaving (Function.update_self i _ _))

lemma canLeave_of_writing {wire : List UInt8} (hi : s.sender i = .writing wire) :
    CanLeave s i :=
  .of_step (.wrote (.ok ()) hi) rfl (canLeave_of_awaiting (Function.update_self i _ _))

lemma canLeave_of_draining {command : Packet} (hi : s.sender i = .draining command) :
    CanLeave s i := by
  -- The sender takes one letter out of the mailbox at a time.
  induction hm : s.mailbox generalizing s with
  | nil =>
    refine .of_step (.drained hi hm) rfl ?_
    have hnext := Function.update_self i (Sender.afterDrain command) s.sender
    rcases Sender.afterDrain_cases command with ⟨wire, h⟩ | h
    · exact canLeave_of_writing (hnext.trans h)
    · exact canLeave_of_leaving (hnext.trans h)
  | cons l rest ih => exact .of_step (.drain hi hm) rfl (ih hi rfl)

lemma canLeave_of_isInside (hi : (s.sender i).isInside = true) : CanLeave s i := by
  cases h : s.sender i with
  | idle | locking =>
    rw [h] at hi
    cases hi
  | draining => exact canLeave_of_draining h
  | writing => exact canLeave_of_writing h
  | awaiting => exact canLeave_of_awaiting h
  | leaving => exact canLeave_of_leaving h

/-- A sender leaves by giving the lock back. -/
lemma Inv.lock_of_leave (inv : Inv τ s) (step : Step s e s') (hin : (s.sender i).isInside = true)
    (hout : (s'.sender i).isInside = false) :
    s'.lock = none ∧ ∃ answer, e = .release i answer := by
  have hlock : s.lock = some i := (inv.lock i).2 hin
  have hlock' : s'.lock ≠ some i := by
    rw [ne_eq, (inv.preserve step).lock i, hout]
    exact Bool.false_ne_true
  cases step with
  | acquire _ hfree =>
    rw [hfree] at hlock
    cases hlock
  | @release j answer hj =>
    have hj' : s.lock = some j := (inv.lock j).2 (by rw [hj]; rfl)
    rw [hlock] at hj'
    cases hj'
    exact ⟨rfl, answer, rfl⟩
  | _ => exact absurd hlock hlock'

end

/-! ### Letters -/

/-- The second attempt to put a letter into the mailbox never fails. -/
lemma not_refused (h : Run τ s) (l : Letter) : .refuse l ∉ τ := by
  intro hmem
  obtain ⟨later, earlier, rfl⟩ := List.append_of_mem hmem
  obtain ⟨s₁, s₂, before, step, -⟩ := h.split
  cases step with
  | refuse hc hfull =>
    rw [(inv_of_run before).retrying l hc] at hfull
    exact absurd Nat.zero_lt_one hfull

/-- A letter that a sender returns came into the mailbox after the sender had found it empty, and
not before. -/
lemma since_of_release {later earlier : List (Event ι)} {i : ι} {l : Letter}
    (h : Run (later ++ .release i (some l) :: earlier) s) :
    ∃ since before, earlier = since ++ .drained i :: before ∧
      (∀ answer, .release i answer ∉ since) ∧ .insert l ∈ since ∧ .insert l ∉ before := by
  obtain ⟨s₁, s₂, run, step, -⟩ := h.split
  have inv := inv_of_run run
  cases step with
  | release hi =>
    obtain ⟨since, before, rfl, hrelease, hinsert⟩ := inv.since i [l] (by rw [hi]; rfl)
    have hl : .insert l ∈ since := hinsert l (List.mem_singleton_self l)
    refine ⟨since, before, rfl, hrelease, hl, fun hbefore => ?_⟩
    have hnodup := inv.nodup_inserted
    rw [inserted_append] at hnodup
    exact (List.nodup_append.1 hnodup).2.2 l (mem_inserted hl) l
      (mem_inserted (List.mem_cons_of_mem _ hbefore)) rfl

/-- A letter that a sender returns is returned nowhere else. -/
lemma not_returned_again {later earlier : List (Event ι)} {i : ι} {l : Letter}
    (h : Run (later ++ .release i (some l) :: earlier) s) (j : ι) :
    .release j (some l) ∉ later ++ earlier := by
  intro hmem
  have hnodup := (inv_of_run h).nodup_returned
  rw [returned_append, returned_cons] at hnodup
  have hcons : (l :: (Threads.returned later ++ Threads.returned earlier)).Nodup :=
    List.perm_middle.nodup_iff.1 hnodup
  rw [← returned_append] at hcons
  exact (List.nodup_cons.1 hcons).1 (mem_returned hmem)

/-! ### Safety -/

/-- What holds when the events `τ` have led to the state `s`. -/
structure Safe (τ : List (Event ι)) (s : State ι) : Prop where
  /-- The mailbox holds at most one letter. -/
  mailbox_le : s.mailbox.length ≤ 1
  /-- At most one sender is inside. -/
  inside_unique : ∀ i j, (s.sender i).isInside = true → (s.sender j).isInside = true → i = j
  /-- The lock belongs to the sender that is inside, and is free if there is none. -/
  lock_iff : ∀ i, s.lock = some i ↔ (s.sender i).isInside = true
  /-- However a sender gets out, the lock is free then. -/
  lock_freed : ∀ i e s', Step s e s' → (s.sender i).isInside = true →
    (s'.sender i).isInside = false → s'.lock = none ∧ ∃ answer, e = .release i answer
  /-- A sender that is inside can get out without the help of others. -/
  can_leave : ∀ i, (s.sender i).isInside = true → CanLeave s i
  /-- The courier finds the mailbox empty when it tries for the second time. -/
  retrying : ∀ l, s.courier = .retrying l → s.mailbox = []
  not_refused : ∀ l, .refuse l ∉ τ
  /-- Every letter that arrived is with the courier, in the mailbox or in the hands of the sender
  inside, or was displaced, dropped or returned. -/
  accounted : (accepted τ).Perm (s.courier.held ++ s.mailbox ++ s.inHand ++ displaced τ ++
    drained τ ++ returned τ)
  /-- No two letters are the same, so only one of these has become of each. -/
  distinct : (accepted τ).Nodup
  /-- The letters that are not returned are counted. -/
  counted : s.tally.staleOverwritten = (displaced τ).length ∧
    s.tally.staleDrained = (drained τ).length
  /-- A letter that a sender returned came into the mailbox after that sender had found it empty in
  the same call, and not before. -/
  since : ∀ i l later earlier, τ = later ++ .release i (some l) :: earlier →
    ∃ since before, earlier = since ++ .drained i :: before ∧
      (∀ answer, .release i answer ∉ since) ∧ .insert l ∈ since ∧ .insert l ∉ before
  /-- A letter that a sender returned is returned nowhere else. -/
  returned_once : ∀ i l later earlier, τ = later ++ .release i (some l) :: earlier →
    ∀ j, .release j (some l) ∉ later ++ earlier

/-- Every run is safe: with any packets, any number of senders, any commands and outcomes of
writes, timeouts whenever the mailbox is empty, and in any order of the steps. -/
theorem safe_of_run (h : Run τ s) : Safe τ s where
  mailbox_le := (inv_of_run h).mailbox_le
  inside_unique i j hi hj := by
    have hlock := ((inv_of_run h).lock i).2 hi
    rw [((inv_of_run h).lock j).2 hj] at hlock
    exact (Option.some.inj hlock).symm
  lock_iff := (inv_of_run h).lock
  lock_freed _ _ _ step hin hout := (inv_of_run h).lock_of_leave step hin hout
  can_leave _ hi := canLeave_of_isInside hi
  retrying := (inv_of_run h).retrying
  not_refused := not_refused h
  accounted := by
    refine (inv_of_run h).accepted.trans ?_
    simpa only [List.append_assoc] using (inv_of_run h).inserted.append_left s.courier.held
  distinct := (inv_of_run h).nodup_accepted
  counted := ⟨(inv_of_run h).overwritten, (inv_of_run h).dropped⟩
  since _ _ _ _ hτ := since_of_release (hτ ▸ h)
  returned_once _ _ _ _ hτ := not_returned_again (hτ ▸ h)

/-- While the first sender empties the mailbox, the courier wants to displace the letter that it
takes; the letter then comes into the mailbox, but is displaced by the next one. The write of the
second sender fails. -/
def overtaking : List (Event Bool) :=
  [.release false none,
    .wrote false [0x80, 0x01, 0x72] (.error .closed),
    .drained false,
    .acquire false,
    .release true (some ⟨2, [0x70, 0x0A]⟩),
    .receive true ⟨2, [0x70, 0x0A]⟩,
    .wrote true [0x80, 0x01, 0x70] (.ok ()),
    .insert ⟨2, [0x70, 0x0A]⟩,
    .displace ⟨1, [0x71, 0x0A]⟩,
    .full ⟨2, [0x70, 0x0A]⟩,
    .accept ⟨2, [0x70, 0x0A]⟩,
    .insert ⟨1, [0x71, 0x0A]⟩,
    .drained true,
    .vanish ⟨1, [0x71, 0x0A]⟩,
    .drain true ⟨0, [0x71, 0x0A]⟩,
    .full ⟨1, [0x71, 0x0A]⟩,
    .accept ⟨1, [0x71, 0x0A]⟩,
    .acquire true,
    .call false [0x72],
    .call true [0x70],
    .insert ⟨0, [0x71, 0x0A]⟩,
    .accept ⟨0, [0x71, 0x0A]⟩]

theorem safe_of_overtaking : ∃ s, Run overtaking s ∧ Safe overtaking s := by
  have run : Run [] ({} : State Bool) := .nil
  replace run := run.cons (.accept (p := [0x71, 0x0A]) rfl (by decide))
  replace run := run.cons (.offer rfl (by decide))
  replace run := run.cons (.call (i := true) [0x70] rfl)
  replace run := run.cons (.call (i := false) [0x72] rfl)
  replace run := run.cons (.acquire (i := true) rfl rfl)
  replace run := run.cons (.accept (p := [0x71, 0x0A]) rfl (by decide))
  replace run := run.cons (.full rfl (by decide))
  replace run := run.cons (.drain (i := true) rfl rfl)
  replace run := run.cons (.vanish rfl rfl)
  replace run := run.cons (.drained (i := true) rfl rfl)
  replace run := run.cons (.retry rfl (by decide))
  replace run := run.cons (.accept (p := [0x70, 0x0A]) rfl (by decide))
  replace run := run.cons (.full rfl (by decide))
  replace run := run.cons (.displace rfl rfl)
  replace run := run.cons (.retry rfl (by decide))
  replace run := run.cons (.wrote (i := true) (.ok ()) rfl)
  replace run := run.cons (.receive (i := true) rfl rfl)
  replace run := run.cons (.release (i := true) rfl)
  replace run := run.cons (.acquire (i := false) rfl rfl)
  replace run := run.cons (.drained (i := false) rfl rfl)
  replace run := run.cons (.wrote (i := false) (.error .closed) rfl)
  replace run := run.cons (.release (i := false) rfl)
  exact ⟨_, run, safe_of_run run⟩

end ControlNode.Inbox.Threads
