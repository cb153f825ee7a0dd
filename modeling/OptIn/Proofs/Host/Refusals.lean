import OptIn.Host.Resolve
import OptIn.Proofs.Disk.Walk

/-!
# How questions about a path are refused

What stands at a path can be refused for a few reasons only. Whether it is a regular file is always
answered, unless a name in it or the path as a whole is too long (`nameTooLong_of_isFile`); it is
resolved, unless it holds a NUL or leads into a circle of links (`cases_of_resolve`).
-/

namespace OptIn

namespace Disk

/-- Using what stands at the end of some names is refused because it is not there, because a name is
too long, or because there are too many links. -/
theorem error_of_follow_use {d : Disk} {links : Nat} {here : Address} {names : List String}
    {e : SystemError} (h : d.follow .use links here names = .error e) :
    e = .notFound ∨ e = .notDirectory ∨ e = .nameTooLong ∨ e = .tooManyLinks := by
  -- by induction along the names: the first one is refused, or something behind it
  induction links, here, names using follow_induct with
  | nil links here =>
    rw [follow_nil] at h
    split at h
    · cases h
    · cases h
      exact .inl rfl
  | cons links here name rest hjump hrest =>
    by_cases hdir : ∃ t, d.node? here = some (.directory t)
    · obtain ⟨t, ht⟩ := hdir
      rcases name_cases name with hstay | rfl | ⟨hne, hdot, hup⟩
      · rw [follow_stay ht hstay] at h
        exact hrest here h
      · rw [follow_up ht] at h
        exact hrest here.dropLast h
      · rw [follow_down ht hne hdot hup (by simp)] at h
        split at h
        · cases h
          exact .inr (.inr (.inl rfl))
        split at h
        · split at h
          · cases h
          · cases h
            exact .inl rfl
        · rw [if_neg (by simp)] at h
          split at h
          · cases h
            exact .inl rfl
          · cases links with
            | zero =>
              cases h
              exact .inr (.inr (.inr rfl))
            | succ left => exact hjump left rfl _ _ h
        · exact hrest _ h
    · rw [follow_cons_of_not_directory fun t ht => hdir ⟨t, ht⟩] at h
      cases h
      split
      · exact .inr (.inl rfl)
      · exact .inl rfl

theorem error_of_place_use {d : Disk} {cwd : Address} {s : String} {e : SystemError}
    (h : d.place cwd .use s = .error e) :
    e = .notFound ∨ e = .notDirectory ∨ e = .nameTooLong ∨ e = .tooManyLinks := by
  rw [place] at h
  split at h
  · cases h
    exact .inl rfl
  · split at h
    · cases h
      exact .inr (.inr (.inl rfl))
    · exact error_of_follow_use h

end Disk

namespace Host

variable {h : Host} {p q : Path} {e : Fault}

theorem cases_of_placeOf_use {s : String} (hp : h.placeOf .use s = .error e) :
    e = .embeddedNull ∨ ∃ f, e = .system f s ∧
      (f = .notFound ∨ f = .notDirectory ∨ f = .nameTooLong ∨ f = .tooManyLinks) := by
  rw [placeOf] at hp
  split at hp
  · cases hp
    exact .inl rfl
  · rcases hd : h.disk.place h.cwd .use s with f | x
    · rw [hd] at hp
      cases hp
      exact .inr ⟨f, rfl, Disk.error_of_place_use hd⟩
    · rw [hd] at hp
      cases hp

/-- What stands at a path is refused because of a NUL in it, or for one of the reasons of the
disk. -/
theorem cases_of_stat (hs : h.stat p = .error e) :
    e = .embeddedNull ∨ ∃ s, e = .system s p.text ∧
      (s = .notFound ∨ s = .notDirectory ∨ s = .nameTooLong ∨ s = .tooManyLinks) := by
  rw [stat, statText] at hs
  rcases hp : h.placeOf .use p.text with f | a | a
  · rw [hp] at hs
    cases hs
    exact cases_of_placeOf_use hp
  · rw [hp] at hs
    cases hs
  · rw [hp] at hs
    cases hs
    exact .inr ⟨_, rfl, .inl rfl⟩

/-- Whether a path leads to a regular file is refused only if a name is too long. -/
theorem nameTooLong_of_isFile (hf : h.isFile p = .error e) : e = .system .nameTooLong p.text := by
  rw [isFile, holds] at hf
  split at hf
  · cases hf
  · rename_i f hs
    split at hf
    · cases hf
    · rename_i habsent
      cases hf
      rcases cases_of_stat hs with rfl | ⟨s, rfl, rfl | rfl | rfl | rfl⟩
      · exact absurd rfl habsent
      · exact absurd rfl habsent
      · exact absurd rfl habsent
      · rfl
      · exact absurd rfl habsent

theorem embeddedNull_of_resolveWith
    {enter : Trail → List String → SeenLinks → Except Fault OptIn.Resolved}
    (henter : ∀ t pieces seen, enter t pieces seen = .error e → e = .embeddedNull)
    {t : Trail} {pieces : List String} {seen : SeenLinks}
    (hr : h.resolveWith enter t pieces seen = .error e) : e = .embeddedNull := by
  induction pieces generalizing t seen with
  | nil => cases hr
  | cons piece rest ih =>
    rw [resolveWith] at hr
    split at hr
    · exact ih hr
    split at hr
    · exact ih hr
    split at hr
    · cases hr
      rfl
    simp only at hr
    split at hr
    · exact ih hr
    · split at hr
      · exact ih hr
      · cases hr
      · generalize hx : enter _ _ _ = x at hr
        rcases x with f | ⟨u, seen⟩ | s
        · cases hr
          exact henter _ _ _ hx
        · exact ih hr
        · cases hr

theorem embeddedNull_of_resolveFrom {depth : Nat} {t : Trail} {pieces : List String}
    {seen : SeenLinks} (hr : h.resolveFrom depth t pieces seen = .error e) : e = .embeddedNull := by
  induction depth generalizing t pieces seen with
  | zero =>
    rw [resolveFrom] at hr
    refine embeddedNull_of_resolveWith ?_ hr
    intro t pieces seen hx
    cases hx
  | succ depth ih => exact embeddedNull_of_resolveWith (fun _ _ _ hx => ih hx) hr

/-- A path is resolved, unless it holds a NUL or leads into a circle of links. -/
theorem cases_of_resolve (hr : h.resolve p = .error e) :
    e = .embeddedNull ∨ ∃ s, e = .linkLoop s := by
  rw [resolve] at hr
  generalize hx : h.resolveFrom _ _ _ _ = x at hr
  cases x with
  | error f =>
    cases hr
    exact .inl (embeddedNull_of_resolveFrom hx)
  | ok r =>
    -- what comes out of the way is looked at in the end, also behind a loop
    cases r <;>
    · simp only [bind, Except.bind, pure, Except.pure] at hr
      split at hr
      · cases hr
        exact .inr ⟨_, rfl⟩
      · cases hr
        exact .inl rfl
      · cases hr

end Host

end OptIn
