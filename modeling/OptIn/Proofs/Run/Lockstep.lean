import OptIn.Proofs.Invoker.Ruling
import OptIn.Proofs.Run.Progress

/-!
# Runs in lockstep

The same run on two hosts comes to the same, if there is a relation between the hosts under which
each path makes the same candidate, has the same bytes and is vouched for alike, and which is kept
by the passing of time and by recording a success (`DriverRun.Lockstep`). The answers of the runner
have to depend on the command alone, since the two runs need not happen at the same time.
-/

namespace OptIn

open ToolRunner (Exactly)
open Invoker (Recorded Invoked Obeyed)

namespace DriverRun

/-- Two hosts on which a run goes on in **lockstep**: a relation between the paths that have been
seen, those to come, and the two hosts, under which all questions have the same answers. -/
structure Lockstep (r : DriverRun) (T : List Path → List Path → Host → Host → Prop) : Prop where
  considered : ∀ {seen p ps h h'}, T seen (p :: ps) h h' →
    r.driver.considered r.detect seen p h' = r.driver.considered r.detect seen p h
  read : ∀ {seen p ps h h'}, T seen (p :: ps) h h' → h.isFile p = .ok true → p ∉ seen →
    h'.read p = h.read p ∧ r.invoker.vouchedBy p h' = r.invoker.vouchedBy p h
  next : ∀ {seen p ps h h'}, T seen (p :: ps) h h' → T (p :: seen) ps h h'
  later : ∀ {seen ps h h' h₁ h₁'}, T seen ps h h' → h.Later h₁ → h'.Later h₁' → T seen ps h₁ h₁'
  recorded : ∀ {seen p ps h h' x x' h₁ h₁'}, T seen (p :: ps) h h' → h.isFile p = .ok true →
    Recorded r.invoker p h x h₁ → Recorded r.invoker p h' x' h₁' →
      x' = x ∧ T (p :: seen) ps h₁ h₁'

variable {r : DriverRun} {T : List Path → List Path → Host → Host → Prop}
  {answer : Call → Except Fault Completed} {seen ps : List Path} {p : Path} {h h' h₁ h₁' : Host}
  {k k' l : Option ToolProbe} {c : Candidate} {x y : Except Fault LintResult}
  {xs ys : List LintResult} {e f : Option Fault} {g : Invoker.Ruling}

/-- Both hosts obey the same ruling. -/
theorem Lockstep.obeyed (hl : r.Lockstep T) (ht : T seen (p :: ps) h h')
    (hf : h.isFile p = .ok true) (ho : Obeyed r.invoker p h g x k h₁)
    (ho' : Obeyed r.invoker p h' g y l h₁') : y = x ∧ l = k ∧ T (p :: seen) ps h₁ h₁' := by
  cases ho with
  | settled hlater =>
    cases ho' with
    | settled hlater' => exact ⟨rfl, rfl, hl.next (hl.later ht hlater hlater')⟩
  | passing hlater hr =>
    cases ho' with
    | passing hlater' hr' =>
      have hf' := hlater.eq (·.isFile p) (fun _ => rfl) |>.trans hf
      obtain ⟨rfl, hkept⟩ := hl.recorded (hl.later ht hlater hlater') hf' hr hr'
      exact ⟨rfl, rfl, hkept⟩

/-- A step: both hosts make the same of a candidate. -/
theorem Lockstep.invoked (hl : r.Lockstep T) (ht : T seen (p :: ps) h h')
    (hc : r.driver.considered r.detect seen p h = .ok (some c))
    (hi : Invoked r.invoker (Exactly answer) c k h x k' h₁)
    (hi' : Invoked r.invoker (Exactly answer) c k h' y l h₁') :
    y = x ∧ l = k' ∧ T (p :: seen) ps h₁ h₁' := by
  obtain ⟨rfl, hnew, hf⟩ := Driver.eq_of_considered hc
  obtain ⟨hread, hvouched⟩ := hl.read ht hf hnew
  have hruled' := hi'.ruled
  rw [hread, hvouched] at hruled'
  exact hl.obeyed ht hf hi.ruled hruled'

/-- Runs in lockstep have the same results and end with the same fault, if any, and their hosts are
still in step behind them. -/
theorem Lockstep.results_eq (hl : r.Lockstep T)
    (hr : Treated r (Exactly answer) seen ps k h xs e k' h₁)
    (hr' : Treated r (Exactly answer) seen ps k h' ys f l h₁') (ht : T seen ps h h') :
    ys = xs ∧ f = e ∧ ∃ seen ps, T seen ps h₁ h₁' := by
  -- the next path is considered alike on both hosts, so the second run goes the way of the first
  induction hr generalizing h' ys f l h₁' with
  | done =>
    cases hr' with
    | done => exact ⟨rfl, rfl, _, _, ht⟩
  | passedOver hc _ ih =>
    rw [← hl.considered ht] at hc
    cases hr' with
    | passedOver _ hrest' => exact ih hrest' (hl.next ht)
    | refused hc' => cases hc.symm.trans hc'
    | judged hc' => cases hc.symm.trans hc'
    | broken hc' => cases hc.symm.trans hc'
  | refused hc =>
    rw [← hl.considered ht] at hc
    cases hr' with
    | passedOver hc' => cases hc.symm.trans hc'
    | refused hc' =>
      cases hc.symm.trans hc'
      exact ⟨rfl, rfl, _, _, ht⟩
    | judged hc' => cases hc.symm.trans hc'
    | broken hc' => cases hc.symm.trans hc'
  | judged hc hi _ ih =>
    have hc' := (hl.considered ht).trans hc
    cases hr' with
    | passedOver hother => cases hc'.symm.trans hother
    | refused hother => cases hc'.symm.trans hother
    | judged hsame hi' hrest' =>
      cases hc'.symm.trans hsame
      obtain ⟨hx, rfl, hnext⟩ := hl.invoked ht hc hi hi'
      cases hx
      obtain ⟨rfl, hfault, hend⟩ := ih hrest' hnext
      exact ⟨rfl, hfault, hend⟩
    | broken hsame hi' =>
      cases hc'.symm.trans hsame
      cases (hl.invoked ht hc hi hi').1
  | broken hc hi =>
    have hc' := (hl.considered ht).trans hc
    cases hr' with
    | passedOver hother => cases hc'.symm.trans hother
    | refused hother => cases hc'.symm.trans hother
    | judged hsame hi' =>
      cases hc'.symm.trans hsame
      cases (hl.invoked ht hc hi hi').1
    | broken hsame hi' =>
      cases hc'.symm.trans hsame
      obtain ⟨hx, -, hnext⟩ := hl.invoked ht hc hi hi'
      cases hx
      exact ⟨rfl, rfl, _, _, hnext⟩

end DriverRun

end OptIn
