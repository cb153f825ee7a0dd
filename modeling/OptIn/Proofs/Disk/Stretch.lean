import Mathlib.Data.Nat.Find
import OptIn.Proofs.Disk.Walk

/-!
# Stretches of a walk

A walk that may follow more links leads to the same place (`Walk.mono`, `Walk.unique`), and a walk
along two stretches of names passes from one to the other at a place of its own, with no more links
left than there were (`Walk.split`). So a link whose target has to be walked through the link itself
leads nowhere: `Stuck` is what is known of a link while its own target is being walked.
-/

namespace OptIn.Disk

variable {d : Disk} {purpose : Purpose} {links links' : Nat} {here a b : Address}
  {names xs ys : List String} {n m : Node} {x y : Place} {name target : String} {t : Int}

/-- A walk with more links leads to the same place. -/
theorem Walk.mono (h : d.Walk purpose links here names x) (hle : links ≤ links') :
    d.Walk purpose links' here names x := by
  induction h generalizing links' with
  | stop hn => exact .stop hn
  | stay hdir hname _ ih => exact .stay hdir hname (ih hle)
  | up hdir _ ih => exact .up hdir (ih hle)
  | down hdir hne hdot hup hmake hshort hn hlink _ ih =>
    exact .down hdir hne hdot hup hmake hshort hn hlink (ih hle)
  | jump hdir hne hdot hup hmake hlast hshort hl htarget _ ih =>
    obtain ⟨more, rfl⟩ := Nat.exists_eq_add_of_le' (Nat.le_trans (Nat.le_add_left 1 _) hle)
    exact .jump hdir hne hdot hup hmake hlast hshort hl htarget
      (ih (Nat.le_of_add_le_add_right hle))
  | link hdir hne hdot hup hshort hpurpose hl =>
    exact .link hdir hne hdot hup hshort hpurpose hl
  | free hdir hne hdot hup hshort hn => exact .free hdir hne hdot hup hshort hn

/-- Names lead to one place only. -/
theorem Walk.unique (h : d.Walk purpose links here names x)
    (h' : d.Walk purpose links' here names y) : x = y := by
  have hx := follow_eq_ok_iff.mpr (h.mono (Nat.le_max_left links links'))
  have hy := follow_eq_ok_iff.mpr (h'.mono (Nat.le_max_right links links'))
  exact Except.ok.inj (hx.symm.trans hy)

/-- What a walk starts from is there. -/
theorem Walk.exists_node (h : d.Walk purpose links here names x) :
    ∃ n, d.node? here = some n := by
  cases h with
  | stop hn => exact ⟨_, hn⟩
  | stay hdir | up hdir | down hdir | jump hdir | link hdir | free hdir => exact ⟨_, hdir⟩

/-- A walk along two stretches of names goes by way of the place to which the first one leads. -/
theorem Walk.split (h : d.Walk .use links here (xs ++ ys) (.taken a n)) :
    ∃ left b m, left ≤ links ∧ d.Walk .use links here xs (.taken b m) ∧
      d.Walk .use left b ys (.taken a n) := by
  induction links, here, xs using follow_induct with
  | nil links here =>
    obtain ⟨m, hm⟩ := h.exists_node
    exact ⟨links, here, m, Nat.le_refl links, .stop hm, h⟩
  | cons links here name rest hlinks ih =>
    rw [List.cons_append] at h
    generalize hzs : rest ++ ys = zs at h
    cases h with
    | stay hdir hname hwalk =>
      subst hzs
      obtain ⟨left, b, m, hle, hfirst, hsecond⟩ := ih here hwalk
      exact ⟨left, b, m, hle, .stay hdir hname hfirst, hsecond⟩
    | up hdir hwalk =>
      subst hzs
      obtain ⟨left, b, m, hle, hfirst, hsecond⟩ := ih here.dropLast hwalk
      exact ⟨left, b, m, hle, .up hdir hfirst, hsecond⟩
    | down hdir hne hdot hup _ hshort hn hlink hwalk =>
      subst hzs
      obtain ⟨left, b, m, hle, hfirst, hsecond⟩ := ih (here ++ [name]) hwalk
      exact ⟨left, b, m, hle, .down hdir hne hdot hup (by simp) hshort hn hlink hfirst, hsecond⟩
    | @jump links _ _ _ _ target _ hdir hne hdot hup _ _ hshort hl htarget hwalk =>
      -- the names of the target belong to the first stretch
      rw [← hzs, ← List.append_assoc] at hwalk
      obtain ⟨left, b, m, hle, hfirst, hsecond⟩ := hlinks links rfl (startOf here target)
        (namesOf target ++ rest) hwalk
      exact ⟨left, b, m, Nat.le_succ_of_le hle,
        .jump hdir hne hdot hup (by simp) (by simp) hshort hl htarget hfirst, hsecond⟩
    | link _ _ _ _ _ hpurpose => cases hpurpose

/-! ### Links that lead somewhere -/

/-- A link leads to a node when the names of its target do. -/
theorem walk_link_iff (hdir : d.node? here = some (.directory t)) (hne : name ≠ "")
    (hdot : name ≠ ".") (hup : name ≠ "..") (hl : d.node? (here ++ [name]) = some (.link target)) :
    d.Walk .use links here [name] (.taken a n) ↔
      name.utf8ByteSize ≤ nameLimit ∧ target ≠ "" ∧
        ∃ left, links = left + 1 ∧
          d.Walk .use left (startOf here target) (namesOf target) (.taken a n) := by
  constructor
  · intro h
    cases h with
    | stay _ hname => rcases hname with hname | hname <;> contradiction
    | up => contradiction
    | down _ _ _ _ _ _ hn hlink =>
      rw [hl] at hn
      cases hn
      cases hlink
    | jump _ _ _ _ _ _ hshort hl' htarget hwalk =>
      rw [hl] at hl'
      cases hl'
      exact ⟨hshort, htarget, _, rfl, by simpa using hwalk⟩
    | link _ _ _ _ _ hpurpose => cases hpurpose
  · rintro ⟨hshort, htarget, left, rfl, hwalk⟩
    exact .jump hdir hne hdot hup (by simp) (by simp) hshort hl htarget (by simpa using hwalk)

/-- A name is **stuck** in a directory when it leads nowhere with so many links. -/
def Stuck (d : Disk) (links : Nat) (here : Address) (name : String) : Prop :=
  ∀ a n, ¬d.Walk .use links here [name] (.taken a n)

theorem Stuck.mono (hs : d.Stuck links here name) (hle : links' ≤ links) :
    d.Stuck links' here name :=
  fun a n h => hs a n (h.mono hle)

/-- The least number of links with which the target of a link is found does not lead to what it
names through the link itself. -/
theorem exists_stuck (hl : d.node? (here ++ [name]) = some (.link target))
    (h : d.Walk .use links here [name] (.taken a n)) (hne : name ≠ "") (hdot : name ≠ ".")
    (hup : name ≠ "..") :
    ∃ left, left < links ∧ d.Stuck left here name ∧
      d.Walk .use left (startOf here target) (namesOf target) (.taken a n) := by
  obtain ⟨t, hdir⟩ : ∃ t, d.node? here = some (.directory t) := by
    cases h with
    | stay hdir | up hdir | down hdir | jump hdir | link hdir => exact ⟨_, hdir⟩
  obtain ⟨hshort, htarget, k, rfl, hwalk⟩ := (walk_link_iff hdir hne hdot hup hl).mp h
  classical
  -- the least number with which the names of the target are found
  have hex : ∃ k, d.Walk .use k (startOf here target) (namesOf target) (.taken a n) := ⟨k, hwalk⟩
  refine ⟨Nat.find hex, Nat.lt_succ_of_le (Nat.find_min' hex hwalk), fun b m hstuck => ?_,
    Nat.find_spec hex⟩
  obtain ⟨rfl, rfl⟩ : b = a ∧ m = n := by simpa using hstuck.unique h
  obtain ⟨-, -, k', hk', hwalk'⟩ := (walk_link_iff hdir hne hdot hup hl).mp hstuck
  exact Nat.find_min hex (hk' ▸ Nat.lt_succ_self k') hwalk'

end OptIn.Disk
