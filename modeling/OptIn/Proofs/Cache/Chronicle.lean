import OptIn.Proofs.Cache.Ledger

/-!
# Chronicles

A chronicle tells what has happened to one file while runs dealt with it side by side: it was
edited, the tool read it for a run, a run recorded a success. A record stands if the file has not
been edited since. It does not follow that the tool has passed what the file holds now: the file may
have been edited after it was read and before the success was recorded. Then the record is
overtaken, and that is the only way (`Faithful.passed_or_overtaken`).
-/

namespace OptIn

/-- What can happen to a file while runs deal with it. -/
inductive Moment where
  | edited (bytes : List UInt8)
  /-- For a run, the tool has read the file, and is going to end with a status. -/
  | read (run : Nat) (bytes : List UInt8) (status : Int)
  | recorded (run : Nat)
  deriving DecidableEq, Repr

/-- What has happened to a file, first things first. -/
abbrev Chronicle := List Moment

namespace Chronicle

variable {L : Chronicle} {c : Candidate} {k : Nat} {bytes first : List UInt8} {status : Int}
  {m : Moment}

/-- What the file holds now, if it has held `first` at first. -/
def content (first : List UInt8) (L : Chronicle) : List UInt8 :=
  L.foldl (fun held m => match m with
    | .edited bytes => bytes
    | _ => held) first

/-- The file has not been edited. -/
def Untouched (L : Chronicle) : Prop := ∀ bytes, .edited bytes ∉ L

/-- A success **stands**: since it was recorded, the file has not been edited. -/
def Stands (L : Chronicle) : Prop := ∃ L₁ k L₂, L = L₁ ++ .recorded k :: L₂ ∧ Untouched L₂

/-- What the tool has **last read** for a run, and its status. -/
def LastRead (L : Chronicle) (k : Nat) (bytes : List UInt8) (status : Int) : Prop :=
  ∃ L₁ L₂, L = L₁ ++ .read k bytes status :: L₂ ∧ ∀ bytes' status', .read k bytes' status' ∉ L₂

/-- The tool has **passed** some bytes: it has read them, and ended with status 0. -/
def Passed (L : Chronicle) (bytes : List UInt8) : Prop := ∃ k, .read k bytes 0 ∈ L

/-- A success that stands has been **overtaken**: the file was edited after the tool had read it for
that run, and before the run recorded the success. -/
def Overtaken (L : Chronicle) : Prop :=
  ∃ L₁ k bytes L₂ L₃, L = L₁ ++ .read k bytes 0 :: (L₂ ++ .recorded k :: L₃) ∧
    (∀ bytes' status', .read k bytes' status' ∉ L₂) ∧ ¬Untouched L₂ ∧ Untouched L₃

/-- A chronicle is **faithful** to a file when what the tool has read is what the file held, and
runs have recorded nothing but successes of the tool. -/
structure Faithful (first : List UInt8) (L : Chronicle) : Prop where
  reads : ∀ L₁ k bytes status L₂, L = L₁ ++ .read k bytes status :: L₂ → bytes = content first L₁
  records : ∀ L₁ k L₂, L = L₁ ++ .recorded k :: L₂ → ∃ bytes, LastRead L₁ k bytes 0

/-! ### What the file holds -/

theorem content_append (first : List UInt8) (L₁ L₂ : Chronicle) :
    content first (L₁ ++ L₂) = content (content first L₁) L₂ :=
  List.foldl_append

theorem content_of_untouched (h : Untouched L) : content first L = first := by
  induction L with
  | nil => rfl
  | cons m L ih =>
    have hrest : Untouched L := fun bytes hmem => h bytes (List.mem_cons_of_mem m hmem)
    cases m with
    | edited bytes => exact absurd List.mem_cons_self (h bytes)
    | read | recorded => exact ih hrest

/-! ### Further moments -/

theorem not_stands_nil : ¬Stands [] := by
  rintro ⟨L₁, k, L₂, hL, -⟩
  simp at hL

theorem not_stands_append_edited : ¬Stands (L ++ [.edited bytes]) := by
  rintro ⟨L₁, k, L₂, hL, hnot⟩
  rcases Ledger.append_singleton_eq_iff.mp hL with ⟨-, h, -⟩ | ⟨L₃, rfl, -⟩
  · cases h
  · exact hnot bytes (by simp)

theorem stands_append_recorded : Stands (L ++ [.recorded k]) :=
  ⟨L, k, [], rfl, fun _ h => nomatch h⟩

theorem stands_append_read : Stands (L ++ [.read k bytes status]) ↔ Stands L := by
  constructor
  · rintro ⟨L₁, k', L₂, hL, hnot⟩
    rcases Ledger.append_singleton_eq_iff.mp hL with ⟨-, h, -⟩ | ⟨L₃, rfl, rfl⟩
    · cases h
    · exact ⟨L₁, k', L₃, rfl, fun b hb => hnot b (List.mem_append_left _ hb)⟩
  · rintro ⟨L₁, k', L₂, rfl, hnot⟩
    refine ⟨L₁, k', L₂ ++ [.read k bytes status], by simp, fun b hb => hnot b ?_⟩
    simpa using hb

theorem lastRead_append_read : LastRead (L ++ [.read k bytes status]) k bytes status :=
  ⟨L, [], rfl, fun _ _ h => nomatch h⟩

/-- What was read for one run is not forgotten when something else happens. -/
theorem LastRead.append (h : LastRead L k bytes status)
    (hm : ∀ bytes' status', m ≠ .read k bytes' status') :
    LastRead (L ++ [m]) k bytes status := by
  obtain ⟨L₁, L₂, rfl, hnot⟩ := h
  refine ⟨L₁, L₂ ++ [m], by simp, fun bytes' status' hmem => ?_⟩
  rcases List.mem_append.mp hmem with hmem | hmem
  · exact hnot _ _ hmem
  · exact hm _ _ (List.mem_singleton.mp hmem).symm

theorem faithful_nil : Faithful first [] where
  reads L₁ k bytes status L₂ h := by simp at h
  records L₁ k L₂ h := by simp at h

theorem Faithful.append (hf : Faithful first L)
    (hread : ∀ k bytes status, m = .read k bytes status → bytes = content first L)
    (hrecord : ∀ k, m = .recorded k → ∃ bytes, LastRead L k bytes 0) :
    Faithful first (L ++ [m]) where
  reads L₁ k bytes status L₂ h := by
    rcases Ledger.append_singleton_eq_iff.mp h with ⟨rfl, hm, -⟩ | ⟨L₃, rfl, hL⟩
    · exact hread k bytes status hm.symm
    · exact hf.reads L₁ k bytes status L₃ hL
  records L₁ k L₂ h := by
    rcases Ledger.append_singleton_eq_iff.mp h with ⟨rfl, hm, -⟩ | ⟨L₃, rfl, hL⟩
    · exact hrecord k hm.symm
    · exact hf.records L₁ k L₃ hL

/-- If a success stands, the tool has passed what the file holds now, or the success has been
overtaken. -/
theorem Faithful.passed_or_overtaken (hf : Faithful first L) (hs : Stands L) :
    Passed L (content first L) ∨ Overtaken L := by
  obtain ⟨L₁, k, L₃, rfl, hafter⟩ := hs
  obtain ⟨bytes, L₀, L₂, rfl, hlast⟩ := hf.records L₁ k L₃ rfl
  by_cases hbetween : Untouched L₂
  · -- from the reading on, the file has not been edited
    have hheld : bytes = content first L₀ :=
      hf.reads L₀ k bytes 0 (L₂ ++ .recorded k :: L₃) (by simp)
    have hrest : Untouched (.read k bytes 0 :: (L₂ ++ .recorded k :: L₃)) := by
      intro b hb
      simp only [List.mem_cons, List.mem_append, reduceCtorEq, false_or] at hb
      exact hb.elim (hbetween b) (hafter b)
    have hnow : content first (L₀ ++ .read k bytes 0 :: L₂ ++ .recorded k :: L₃) = bytes := by
      rw [List.append_assoc, List.cons_append, content_append, content_of_untouched hrest, hheld]
    exact .inl ⟨k, by rw [hnow]; simp⟩
  · exact .inr ⟨L₀, k, bytes, L₂, L₃, by simp, hlast, hbetween, hafter⟩

/-! ### The ledger of a chronicle -/

/-- What a chronicle leaves in the ledger of the file. -/
def ledger (c : Candidate) (L : Chronicle) : Ledger :=
  L.filterMap fun
    | .edited _ => some (.edited c.path)
    | .read .. => none
    | .recorded _ => some (.judged ⟨c, .passed, some 0⟩)

theorem ledger_append_edited :
    ledger c (L ++ [.edited bytes]) = ledger c L ++ [Entry.edited c.path] :=
  List.filterMap_append

theorem ledger_append_read : ledger c (L ++ [.read k bytes status]) = ledger c L :=
  List.filterMap_append.trans (List.append_nil _)

theorem ledger_append_recorded :
    ledger c (L ++ [.recorded k]) = ledger c L ++ [Entry.judged ⟨c, .passed, some 0⟩] :=
  List.filterMap_append

/-- The file has earned its marker exactly if a success stands. -/
theorem earned_ledger_iff : (ledger c L).Earned c.path ↔ Stands L := by
  induction L using List.reverseRecOn with
  | nil => exact iff_of_false Ledger.not_earned_nil not_stands_nil
  | append_singleton L m ih =>
    cases m with
    | edited bytes =>
      rw [ledger_append_edited, Ledger.earned_append_edited]
      exact iff_of_false (fun h => h.1 rfl) not_stands_append_edited
    | read k bytes status => rw [ledger_append_read, stands_append_read, ih]
    | recorded k =>
      rw [ledger_append_recorded, Ledger.earned_append_judged]
      exact iff_of_true (.inl ⟨rfl, rfl⟩) stands_append_recorded

end Chronicle

end OptIn
