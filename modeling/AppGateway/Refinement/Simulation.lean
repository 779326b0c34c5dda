namespace Refinement

structure Machine (State Label : Type) where
  start : State → Prop
  step : State → Label → State → Prop

variable {State Label : Type}

namespace Machine

inductive Runs (machine : Machine State Label) (first : State) : List Label → State → Prop where
  | refl : Runs machine first [] first
  | snoc {labels : List Label} {middle last : State} {label : Label} (runs : Runs machine first labels middle)
      (moved : machine.step middle label last) : Runs machine first (labels ++ [label]) last

def Reachable (machine : Machine State Label) (state : State) : Prop :=
  ∃ first labels, machine.start first ∧ machine.Runs first labels state

variable {machine : Machine State Label} {first middle last : State}

theorem Runs.invariant {holds : State → Prop} {labels : List Label}
    (runs : machine.Runs first labels last) (initial : holds first)
    (preserved : ∀ before label after, holds before → machine.step before label after → holds after) :
    holds last := by
  induction runs with
  | refl => exact initial
  | snoc _ moved ih => exact preserved _ _ _ ih moved

theorem Runs.append {labels labels' : List Label} (before : machine.Runs first labels middle)
    (after : machine.Runs middle labels' last) : machine.Runs first (labels ++ labels') last := by
  induction after with
  | refl => simpa using before
  | snoc _ moved ih => simpa only [List.append_assoc] using ih.snoc moved

theorem Reachable.runs {labels : List Label} (reachable : machine.Reachable middle)
    (runs : machine.Runs middle labels last) : machine.Reachable last := by
  obtain ⟨first, before, start, reached⟩ := reachable
  exact ⟨first, before ++ labels, start, reached.append runs⟩

theorem Reachable.invariant {holds : State → Prop} (reachable : machine.Reachable last)
    (initial : ∀ state, machine.start state → holds state)
    (preserved : ∀ before label after, holds before → machine.step before label after → holds after) :
    holds last := by
  obtain ⟨first, labels, start, runs⟩ := reachable
  exact runs.invariant (initial first start) preserved

end Machine

def follow (next : State → Label → Option State) : List Label → State → Option State
  | [], state => some state
  | label :: labels, state => (next state label).bind (follow next labels)

theorem Machine.Runs.of_follow {machine : Machine State Label} {next : State → Label → Option State}
    (steps : ∀ before label after, next before label = some after → machine.step before label after)
    {labels : List Label} {first last : State} (ran : follow next labels first = some last) :
    machine.Runs first labels last := by
  induction labels generalizing first with
  | nil => cases ran; exact .refl
  | cons label labels ih =>
    obtain ⟨middle, moved, rest⟩ := Option.bind_eq_some_iff.mp ran
    have began : machine.Runs first [label] middle := Runs.snoc .refl (steps _ _ _ moved)
    exact began.append (ih rest)

structure Simulation {Abstract : Type} (low : Machine State Label) (high : Machine Abstract Label)
    (refines : State → Abstract → Prop) : Prop where
  start : ∀ state, low.start state → ∃ abstract, high.start abstract ∧ refines state abstract
  step : ∀ state label after abstract, refines state abstract → low.step state label after →
    ∃ later, high.step abstract label later ∧ refines after later

namespace Simulation

variable {Abstract : Type} {low : Machine State Label} {high : Machine Abstract Label}
  {refines : State → Abstract → Prop}

theorem runs (simulation : Simulation low high refines) {first last : State} {labels : List Label}
    {abstract : Abstract} (related : refines first abstract) (ran : low.Runs first labels last) :
    ∃ later, high.Runs abstract labels later ∧ refines last later := by
  induction ran with
  | refl => exact ⟨abstract, .refl, related⟩
  | snoc _ moved ih =>
    obtain ⟨middle, reached, holds⟩ := ih
    obtain ⟨later, stepped, related⟩ := simulation.step _ _ _ _ holds moved
    exact ⟨later, reached.snoc stepped, related⟩

theorem histories (simulation : Simulation low high refines) {first last : State} {labels : List Label}
    (initial : low.start first) (ran : low.Runs first labels last) :
    ∃ start later, high.start start ∧ high.Runs start labels later ∧ refines last later := by
  obtain ⟨start, begins, related⟩ := simulation.start first initial
  obtain ⟨later, reached, holds⟩ := simulation.runs related ran
  exact ⟨start, later, begins, reached, holds⟩

end Simulation
end Refinement
