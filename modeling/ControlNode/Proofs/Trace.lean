import Mathlib.Data.List.Basic

/-!
# Runs of a system

A system is given by its steps, each of which shows an event. A `Trace` is a run with its events,
from the first to the last; what every step keeps up holds after every run (`Trace.induction`).
What a run has brought about is read off its events one by one, and how things stand off the last
of the events that matter (`since_concat`).
-/

namespace ControlNode

universe u v

/-- The events lead from the first state to the second. -/
inductive Trace {σ : Type u} {ε : Type v} (step : σ → ε → σ → Prop) : σ → List ε → σ → Prop
  | nil (s : σ) : Trace step s [] s
  | cons {s s₁ s₂ : σ} {e : ε} {τ : List ε} (first : step s e s₁) (later : Trace step s₁ τ s₂) :
      Trace step s (e :: τ) s₂

namespace Trace

variable {σ : Type u} {ε : Type v} {step : σ → ε → σ → Prop} {s s' s'' : σ} {e : ε}
  {τ τ' : List ε}

lemma single (h : step s e s') : Trace step s [e] s' :=
  .cons h (.nil s')

lemma trans (h : Trace step s τ s') (h' : Trace step s' τ' s'') :
    Trace step s (τ ++ τ') s'' := by
  induction h with
  | nil => exact h'
  | cons first _ ih => exact .cons first (ih h')

/-- What every step keeps up, a run keeps up. -/
theorem induction {P : List ε → σ → Prop}
    (hstep : ∀ {τ : List ε} {s : σ} {e : ε} {s' : σ}, P τ s → step s e s' → P (τ ++ [e]) s')
    (h : Trace step s τ' s') (hs : P τ s) : P (τ ++ τ') s' := by
  induction h generalizing τ with
  | nil =>
    rw [List.append_nil]
    exact hs
  | cons first _ ih =>
    rw [List.append_cons]
    exact ih (hstep hs first)

end Trace

section

variable {α : Type u} {β : Type v}

lemma filterMap_cons_toList (f : α → Option β) (a : α) (l : List α) :
    (a :: l).filterMap f = (f a).toList ++ l.filterMap f := by
  rw [List.filterMap_eq_flatMap_toList, List.filterMap_eq_flatMap_toList, List.flatMap_cons]

lemma filterMap_concat_toList (f : α → Option β) (l : List α) (a : α) :
    (l ++ [a]).filterMap f = l.filterMap f ++ (f a).toList := by
  rw [List.filterMap_append, filterMap_cons_toList, List.filterMap_nil, List.append_nil]

/-- There is an entry with `p` and no entry with `q` after it. -/
def Since (p q : α → Bool) (l : List α) : Prop :=
  ∃ before a after, l = before ++ a :: after ∧ p a = true ∧ ∀ b ∈ after, q b = false

variable {p q : α → Bool}

lemma not_since_nil : ¬ Since p q [] := by
  rintro ⟨before, a, after, heq, -⟩
  simp at heq

lemma since_concat (l : List α) (a : α) :
    Since p q (l ++ [a]) ↔ p a = true ∨ q a = false ∧ Since p q l := by
  constructor
  · rintro ⟨before, b, after, heq, hb, hafter⟩
    rcases List.eq_nil_or_concat after with rfl | ⟨after, c, rfl⟩
    · obtain ⟨-, ha⟩ := List.append_inj' heq rfl
      obtain rfl := List.singleton_inj.1 ha
      exact .inl hb
    · rw [List.concat_eq_append] at heq hafter
      rw [← List.cons_append, ← List.append_assoc] at heq
      obtain ⟨rfl, ha⟩ := List.append_inj' heq rfl
      obtain rfl := List.singleton_inj.1 ha
      refine .inr ⟨hafter a (by simp), before, b, after, rfl, hb, fun c hc => ?_⟩
      exact hafter c (List.mem_append_left _ hc)
  · rintro (ha | ⟨ha, before, b, after, rfl, hb, hafter⟩)
    · exact ⟨l, a, [], rfl, ha, nofun⟩
    · refine ⟨before, b, after ++ [a], by simp, hb, fun c hc => ?_⟩
      rcases List.mem_append.1 hc with hc | hc
      · exact hafter c hc
      · rwa [List.mem_singleton.1 hc]

end

end ControlNode
