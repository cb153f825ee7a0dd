import OptIn.Executable
import OptIn.Proofs.Cache.AnyState
import OptIn.Proofs.Invoker.Runner

/-!
# How a command that is started can fail

What starts executables leaves the host as it is, and fails in few ways: a fault of the operating
system, a command whose failure was to be reported, a command without words, and one of whose words,
or whose directory, holds a NUL (`quiet_runCommand`). No program has a NUL in its name, so the head
of the command is not the word that does.
-/

namespace OptIn

open ToolRunner (Answers)

namespace Host

variable {h : Host} {s name : String} {e : Fault}

theorem holdsNull_of_statText {x : Address × Node} (hs : h.statText s = .ok x) :
    holdsNull s = false := by
  rw [Bool.eq_false_iff]
  intro hnull
  rw [statText, placeOf, if_pos hnull] at hs
  cases hs

/-- No program has a NUL in its name. -/
theorem holdsNull_of_isProgram (hp : h.isProgram s = true) : holdsNull s = false := by
  rw [isProgram] at hp
  rcases hs : h.statText s with e | x
  · rw [hs] at hp
    cases hp
  · exact holdsNull_of_statText hs

theorem holdsNull_of_findExecutable (hf : h.findExecutable name = some s) :
    holdsNull s = false := by
  rw [findExecutable] at hf
  split at hf
  · split at hf
    · rename_i hprogram
      cases hf
      exact holdsNull_of_isProgram hprogram
    · cases hf
  · exact holdsNull_of_isProgram (List.find?_some hf)

/-- Whether something stands at a path is known, but for a fault of the operating system. -/
theorem isSystem_of_isPresent {p : Path} (he : h.isPresent p = .error e) : e.isSystem = true :=
  isSystem_of_holds he

theorem holdsNull_of_isPresent {p : Path} (hp : h.isPresent p = .ok true) :
    holdsNull p.text = false := by
  rw [isPresent, holds] at hp
  rcases hs : h.stat p with e | x
  · rw [hs] at hp
    simp only at hp
    split at hp <;> cases hp
  · exact holdsNull_of_statText hs

/-- The executable that a name means has no NUL in its own. -/
theorem holdsNull_of_resolveExecutable (hr : h.resolveExecutable name = .ok (some s)) :
    holdsNull s = false := by
  rw [resolveExecutable] at hr
  split at hr
  · rcases hp : h.isPresent (Path.ofText name) with e | _ | _
    · rw [hp] at hr
      cases hr
    · rw [hp] at hr
      cases hr
    · rw [hp] at hr
      cases hr
      exact holdsNull_of_isPresent hp
  · exact holdsNull_of_findExecutable (Except.ok.inj hr)

theorem isSystem_of_resolveExecutable (hr : h.resolveExecutable name = .error e) :
    e.isSystem = true := by
  rw [resolveExecutable] at hr
  split at hr
  · rcases hp : h.isPresent (Path.ofText name) with e' | b
    · rw [hp] at hr
      cases hr
      exact isSystem_of_isPresent hp
    · rw [hp] at hr
      cases hr
  · cases hr

theorem isSystem_of_directoryOf {o : Option Path}
    (hnull : ∀ p, o = some p → holdsNull p.text = false) (he : h.directoryOf o = .error e) :
    e.isSystem = true := by
  cases o with
  | none => cases he
  | some p =>
    rw [directoryOf] at he
    rcases hs : h.stat p with e' | ⟨a, n⟩
    · rw [hs] at he
      cases he
      exact isSystem_of_stat (hnull p rfl) hs
    · rw [hs] at he
      simp only at he
      split at he
      · cases he
      · cases he
        rfl

/-- What is started has been started from one of the program files. -/
theorem exists_of_startFirst {α : Type} {start : Address → Option α}
    {remembered : Option SystemError} {last : SystemError} {texts : List String} {x : α}
    (hx : h.startFirst start remembered last texts = .ok x) : ∃ a, start a = some x := by
  induction texts generalizing remembered last with
  | nil => cases hx
  | cons s rest ih =>
    rw [startFirst] at hx
    rcases hprogram : h.programAt s with e | a
    · simp only [hprogram] at hx
      exact ih hx
    · rcases hstart : start a with _ | y
      · simp only [hprogram, hstart] at hx
        exact ih hx
      · simp only [hprogram, hstart] at hx
        exact ⟨a, hstart.trans (congrArg some (Except.ok.inj hx))⟩

end Host

/-- A call **holds a NUL** in a word behind its head, or in its directory. -/
def Call.HoldsNull (c : Call) : Prop :=
  (∃ s ∈ c.command.tail, holdsNull s = true) ∨ ∃ p, c.directory = some p ∧ holdsNull p.text = true

/-- What can become of a command that is **started**: its faults can be contained, unless it has no
words or holds a NUL. -/
def Started : Answers := fun c x =>
  ∀ e, x = .error e → e.isContained = true ∨ e = .emptyCommand ∧ c.command = [] ∨
    e = .embeddedNull ∧ c.HoldsNull

theorem Fault.isContained_of_isSystem {e : Fault} (h : e.isSystem = true) :
    e.isContained = true := by
  simp [isContained, h]

/-- A command that cannot be prepared. -/
theorem Host.started_of_prepare {h : Host} {c : Call} {e : Fault} (hp : h.prepare c = .error e) :
    Started c (.error e) := by
  rintro e' ⟨⟩
  rw [prepare] at hp
  split at hp
  · rename_i hempty
    cases hp
    exact .inr (.inl ⟨rfl, hempty⟩)
  · rename_i head rest hcommand
    rcases hr : h.resolveExecutable head with e' | _ | program
    · rw [hr] at hp
      cases hp
      exact .inl (Fault.isContained_of_isSystem (isSystem_of_resolveExecutable hr))
    · rw [hr] at hp
      cases hp
      exact .inl rfl
    · rw [hr] at hp
      have hprogram := holdsNull_of_resolveExecutable hr
      -- the word that holds a NUL is not the program
      have hiff : ((program :: rest).any holdsNull || c.directory.any (holdsNull ·.text)) = true ↔
          c.HoldsNull := by
        simp [Call.HoldsNull, hcommand, hprogram, Option.any_eq_true]
      simp only [bind, Except.bind] at hp
      split at hp
      · rename_i hnull
        cases hp
        exact .inr (.inr ⟨rfl, hiff.mp hnull⟩)
      · rename_i hnull
        rcases hd : h.directoryOf c.directory with e' | a
        · rw [hd] at hp
          cases hp
          refine .inl (Fault.isContained_of_isSystem (isSystem_of_directoryOf (fun p hp => ?_) hd))
          rw [Bool.eq_false_iff]
          exact fun h => hnull (hiff.mpr (.inr ⟨p, hp, h⟩))
        · rw [hd] at hp
          cases hp

/-- **What starts executables** changes nothing, and its faults are of these kinds. -/
theorem quiet_runCommand (launch : Launcher) : (runCommand launch).Quiet Started := by
  intro w c
  rw [runCommand]
  rcases hp : w.host.prepare c with e | ⟨command, directory⟩
  · exact ⟨Host.started_of_prepare hp, .refl _⟩
  · simp only
    split
    · refine ⟨?_, .refl _⟩
      rintro e ⟨⟩
      exact .inl rfl
    · refine ⟨?_, .refl _⟩
      rintro e he
      rw [completion] at he
      split at he
      · cases he
        exact .inl rfl
      · cases he

/-! ### What a command prints -/

/-- A command **prints** a text when it launches a program that writes the text and succeeds. -/
def Launcher.Prints (launch : Launcher) (w : World) (c : Call) (text : String) : Prop :=
  ∃ l e, .launched l ∈ (runCommand launch w c).events ∧ launch w l = some e ∧ e.status = 0 ∧
    e.stdout = text

theorem eq_of_mem_launchEvents {c : Call} {l l' : Launch} {e : Ending}
    (h : .launched l ∈ launchEvents c l' e) : l = l' := by
  rw [launchEvents, List.mem_cons] at h
  rcases h with h | h
  · exact Event.launched.inj h
  · split at h
    · cases h
    · simp at h

/-- What launches a program ends as the program does, on the same host. -/
theorem exists_run_perform_of_launched {launch : Launcher} {w : World} {c : Call} {l : Launch}
    {e : Ending} (hl : .launched l ∈ (runCommand launch w c).events) (he : launch w l = some e) :
    ∃ command v, ((runCommand launch).perform c).run w = (completion c command e, v) ∧
      v.host = w.host := by
  suffices h : ∃ command, (runCommand launch w c).outcome = completion c command e ∧
      (runCommand launch w c).host = w.host by
    obtain ⟨command, houtcome, hhost⟩ := h
    exact ⟨command, _, Prod.ext houtcome rfl, hhost⟩
  rw [runCommand] at hl ⊢
  rcases hp : w.host.prepare c with e' | ⟨command, directory⟩
  · simp [hp] at hl
  · simp only [hp] at hl ⊢
    split at hl
    · cases hl
    · rename_i l' e' hfirst
      obtain ⟨a, ha⟩ := Host.exists_of_startFirst hfirst
      obtain ⟨e'', hlaunch, heq⟩ := Option.map_eq_some_iff.mp ha
      obtain ⟨rfl, rfl⟩ := Prod.mk.inj heq
      obtain rfl := eq_of_mem_launchEvents hl
      rw [he] at hlaunch
      obtain rfl := Option.some.inj hlaunch
      exact ⟨command, rfl, rfl⟩

end OptIn
