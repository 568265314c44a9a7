import Mathlib

namespace Transitions

variable {σ : Type*} {initial : σ → Prop} {step : σ → σ → Prop}

def Reachable (initial : σ → Prop) (step : σ → σ → Prop) (s : σ) : Prop :=
  ∃ start, initial start ∧ Relation.ReflTransGen step start s

theorem reachable_of_initial {s : σ} (h : initial s) : Reachable initial step s := ⟨s, h, .refl⟩

theorem Reachable.tail {s next : σ} (h : Reachable initial step s) (hstep : step s next) :
    Reachable initial step next := by
  obtain ⟨start, hstart, hsteps⟩ := h
  exact ⟨start, hstart, hsteps.tail hstep⟩

theorem Reachable.trans {s next : σ} (h : Reachable initial step s)
    (hsteps : Relation.ReflTransGen step s next) : Reachable initial step next := by
  obtain ⟨start, hstart, hbefore⟩ := h
  exact ⟨start, hstart, hbefore.trans hsteps⟩

theorem Reachable.invariant {P : σ → Prop} (hinitial : ∀ s, initial s → P s)
    (hstep : ∀ s next, Reachable initial step s → P s → step s next → P next) {s : σ}
    (h : Reachable initial step s) : P s := by
  obtain ⟨start, hstart, hsteps⟩ := h
  induction hsteps with
  | refl => exact hinitial start hstart
  | tail hbefore hlast ih => exact hstep _ _ ⟨start, hstart, hbefore⟩ ih hlast

theorem Reachable.frozen {P : σ → Prop} {β : Type*} {view : σ → β}
    (hstep : ∀ s next, Reachable initial step s → P s → step s next → P next ∧ view next = view s)
    {s later : σ} (h : Reachable initial step s) (hP : P s)
    (hsteps : Relation.ReflTransGen step s later) : P later ∧ view later = view s := by
  induction hsteps with
  | refl => exact ⟨hP, rfl⟩
  | tail hbefore hlast ih =>
    obtain ⟨hnext, hview⟩ := hstep _ _ (h.trans hbefore) ih.1 hlast
    exact ⟨hnext, hview.trans ih.2⟩

end Transitions
