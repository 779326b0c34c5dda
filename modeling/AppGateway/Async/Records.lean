import AppGateway.Async.Modular

namespace Async.System

variable {Op : Type} {Reply : Op → Type} {Thrown State Choice External Call Out Obs : Type}
  (system : System Reply Thrown State Choice External Call Out)

inductive Records
    (allowed : Config Reply Thrown State Call Out → Label Choice External Call → Prop)
    (observe : Config Reply Thrown State Call Out → Label Choice External Call → Option Obs)
    (start : Config Reply Thrown State Call Out) : List Obs → Config Reply Thrown State Call Out → Prop where
  | refl : Records allowed observe start [] start
  | step {history config after} {label : Label Choice External Call}
      (recorded : Records allowed observe start history config) (allow : allowed config label)
      (moved : system.next config label = some after) :
      Records allowed observe start (history ++ (observe config label).toList) after

def runRecorded (permit : Config Reply Thrown State Call Out → Label Choice External Call → Bool)
    (observe : Config Reply Thrown State Call Out → Label Choice External Call → Option Obs) :
    List (Label Choice External Call) → List Obs → Config Reply Thrown State Call Out →
    Option (List Obs × Config Reply Thrown State Call Out)
  | [], history, config => some (history, config)
  | label :: labels, history, config =>
    if permit config label then
      match system.next config label with
      | some after => runRecorded permit observe labels (history ++ (observe config label).toList) after
      | none => none
    else none

variable {system}
variable {allowed : Config Reply Thrown State Call Out → Label Choice External Call → Prop}
  {observe : Config Reply Thrown State Call Out → Label Choice External Call → Option Obs}
  {start config after : Config Reply Thrown State Call Out} {history : List Obs}

theorem Records.reaches (recorded : Records system allowed observe start history config) :
    Reaches system allowed start config := by
  induction recorded with
  | refl => exact .refl
  | step _ allow moved ih => exact ih.step allow moved

theorem Records.invariant {holds : List Obs → Config Reply Thrown State Call Out → Prop}
    (recorded : Records system allowed observe start history after) (initial : holds [] start)
    (preserved : ∀ history config label after, Reaches system allowed start config → holds history config →
      allowed config label → system.next config label = some after →
      holds (history ++ (observe config label).toList) after) :
    holds history after := by
  induction recorded with
  | refl => exact initial
  | step earlier allow moved ih => exact preserved _ _ _ _ earlier.reaches ih allow moved

theorem Records.of_runRecorded
    {permit : Config Reply Thrown State Call Out → Label Choice External Call → Bool}
    (sound : ∀ config label, permit config label = true → allowed config label)
    {labels : List (Label Choice External Call)} {earlier : List Obs}
    (recorded : Records system allowed observe start earlier config)
    (ran : system.runRecorded permit observe labels earlier config = some (history, after)) :
    Records system allowed observe start history after := by
  induction labels generalizing earlier config with
  | nil =>
    cases ran
    exact recorded
  | cons label labels ih =>
    simp only [runRecorded] at ran
    split at ran
    · rename_i permitted
      split at ran
      · rename_i middle moved
        exact ih (recorded.step (sound _ _ permitted) moved) ran
      · cases ran
    · cases ran

theorem Records.of_checks
    {permit : Config Reply Thrown State Call Out → Label Choice External Call → Bool}
    (sound : ∀ config label, permit config label = true → allowed config label)
    {labels : List (Label Choice External Call)} {check : List Obs × Config Reply Thrown State Call Out → Bool}
    (passed : (system.runRecorded permit observe labels [] start).any check = true) :
    ∃ history config, Records system allowed observe start history config ∧ check (history, config) = true := by
  cases ran : system.runRecorded permit observe labels [] start with
  | none =>
    rw [ran] at passed
    cases passed
  | some ended =>
    rw [ran] at passed
    exact ⟨ended.1, ended.2, .of_runRecorded sound .refl ran, passed⟩

end Async.System
