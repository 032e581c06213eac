import ControlNode.Cli.Run
import ControlNode.Proofs.Session.Outcome

/-!
# Transcripts

A transcript is the commands that are performed one after the other, each with what it came to.
Where this stops at the first command that fails, all commands before it were accepted
(`attempt_sendAll`). What every command keeps is kept by all of them together (`keeps_sendAll`,
`keeps_sendEach`), whatever performs them.
-/

namespace ControlNode.Cli

/-- Commands in the order in which they were performed, each with what it came to. -/
abbrev Transcript : Type := List (Command × Except CommandError Unit)

namespace Transcript

/-- The commands that were performed. -/
def commands (t : Transcript) : List Command := t.map Prod.fst

/-- The packets that were sent. A command that has none sends nothing. -/
def packets (t : Transcript) : List Packet := Command.packets t.commands

/-- Whether a command was sent and its answer accepted it. -/
def Accepts (t : Transcript) (c : Command) : Prop := (c, .ok ()) ∈ t

lemma commands_append (t later : Transcript) :
    commands (t ++ later) = commands t ++ commands later := List.map_append

lemma packets_append (t later : Transcript) :
    packets (t ++ later) = packets t ++ packets later := by
  rw [packets, commands_append, Command.packets_append]
  rfl

lemma packets_cons (c : Command) (result : Except CommandError Unit) (later : Transcript) :
    packets ((c, result) :: later) = c.encode.toOption.toList ++ packets later :=
  Command.packets_cons c later.commands

/-- The transcript of commands that were all accepted. -/
def accepted (commands : List Command) : Transcript := commands.map fun c => (c, .ok ())

lemma commands_accepted (cs : List Command) : commands (accepted cs) = cs := by
  rw [commands, accepted, List.map_map]
  exact List.map_id cs

lemma accepts_cutShort_iff {before : List Command} {c d : Command} {e : CommandError} :
    Accepts (accepted before ++ [(c, .error e)]) d ↔ d ∈ before := by
  simp [Accepts, accepted]

end Transcript

/-- How sending commands up to the first that fails goes: all are accepted, or those before one
that fails, and the others are not sent. -/
inductive Attempt (commands : List Command) : Transcript → Except CommandError Unit → Prop
  | accepted : Attempt commands (Transcript.accepted commands) (.ok ())
  | failed (before : List Command) {c : Command} {later : List Command} (e : CommandError)
      (h : commands = before ++ c :: later) :
      Attempt commands (Transcript.accepted before ++ [(c, .error e)]) (.error e)

lemma Attempt.cons {commands : List Command} {t : Transcript} {result : Except CommandError Unit}
    (c : Command) (h : Attempt commands t result) :
    Attempt (c :: commands) ((c, .ok ()) :: t) result := by
  cases h with
  | accepted => exact .accepted
  | failed before e h => exact .failed (c :: before) e (congrArg (c :: ·) h)

section

variable {σ : Type} (perform : σ → Command → Logged (Except CommandError Unit × σ))

/-- The transcript of commands that are sent up to the first that fails. -/
def transcriptAll (s : σ) : List Command → Transcript
  | [] => []
  | c :: later =>
    let (result, s) := (perform s c).value
    match result with
    | .error e => [(c, .error e)]
    | .ok () => (c, .ok ()) :: transcriptAll s later

/-- The transcript of commands that are all sent. -/
def transcriptEach (s : σ) : List Command → Transcript
  | [] => []
  | c :: later =>
    let (result, s) := (perform s c).value
    (c, result) :: transcriptEach s later

lemma commands_transcriptEach (s : σ) (commands : List Command) :
    (transcriptEach perform s commands).commands = commands := by
  induction commands generalizing s with
  | nil => rfl
  | cons c later ih => exact congrArg (c :: ·) (ih (perform s c).value.2)

variable {perform} {s s' : σ} {c : Command} (later : List Command)

lemma sendAll_of_ok (h : (perform s c).value = (.ok (), s')) :
    (sendAll perform s (c :: later)).value = (sendAll perform s' later).value ∧
      transcriptAll perform s (c :: later) = (c, .ok ()) :: transcriptAll perform s' later := by
  rw [sendAll, Logged.value_bind, transcriptAll, h]
  exact ⟨rfl, rfl⟩

lemma sendAll_of_error {e : CommandError} (h : (perform s c).value = (.error e, s')) :
    (sendAll perform s (c :: later)).value = (.error e, s') ∧
      transcriptAll perform s (c :: later) = [(c, .error e)] := by
  rw [sendAll, Logged.value_bind, transcriptAll, h]
  exact ⟨rfl, rfl⟩

lemma sendEach_cons : (sendEach perform s (c :: later)).value =
    (sendEach perform (perform s c).value.2 later).value := by
  rw [sendEach, Logged.value_bind]

lemma attempt_sendAll (s : σ) (commands : List Command) :
    Attempt commands (transcriptAll perform s commands) (sendAll perform s commands).value.1 := by
  induction commands generalizing s with
  | nil => exact .accepted
  | cons c later ih =>
    match hperform : (perform s c).value with
    | (.error e, s') =>
      obtain ⟨hsend, htranscript⟩ := sendAll_of_error later hperform
      rw [hsend, htranscript]
      exact .failed [] e rfl
    | (.ok (), s') =>
      obtain ⟨hsend, htranscript⟩ := sendAll_of_ok later hperform
      rw [hsend, htranscript]
      exact (ih s').cons c

variable {P : σ → Prop}

lemma keeps_sendAll (hkeeps : ∀ s c, P s → P (perform s c).value.2) (h : P s)
    (commands : List Command) : P (sendAll perform s commands).value.2 := by
  induction commands generalizing s with
  | nil => exact h
  | cons c later ih =>
    have hnext := hkeeps s c h
    match hperform : (perform s c).value with
    | (.ok (), s') =>
      rw [hperform] at hnext
      rw [(sendAll_of_ok later hperform).1]
      exact ih hnext
    | (.error e, s') =>
      rw [hperform] at hnext
      rw [(sendAll_of_error later hperform).1]
      exact hnext

lemma keeps_sendEach (hkeeps : ∀ s c, P s → P (perform s c).value.2) (h : P s)
    (commands : List Command) : P (sendEach perform s commands).value := by
  induction commands generalizing s with
  | nil => exact h
  | cons c later ih =>
    rw [sendEach_cons]
    exact ih (hkeeps s c h)

/-- The error of commands that are not all accepted is the error of one of them. -/
lemma exists_of_sendAll_eq_error {commands : List Command} {e : CommandError}
    (h : (sendAll perform s commands).value = (.error e, s')) :
    ∃ s'', ∃ c ∈ commands, (perform s'' c).value.1 = .error e := by
  induction commands generalizing s with
  | nil => cases h
  | cons c later ih =>
    match hperform : (perform s c).value with
    | (.ok (), s'') =>
      rw [(sendAll_of_ok later hperform).1] at h
      obtain ⟨s₁, d, hd, hresult⟩ := ih h
      exact ⟨s₁, d, List.mem_cons_of_mem c hd, hresult⟩
    | (.error e', s'') =>
      rw [(sendAll_of_error later hperform).1] at h
      cases h
      exact ⟨s, c, List.mem_cons_self, congrArg Prod.fst hperform⟩

end

end ControlNode.Cli
