import Mathlib.Data.List.Induction
import OptIn.Disk.Basic

/-!
# Walks over a disk

How `Disk.follow` goes along names. A walk along names in two runs stops between them
(`follow_append`), its last step looks at one node (`follow_name`), and where it ends is what the
disk holds there (`Walk.node?_eq`, `Walk.exists_parent`). A walk only looks at directories and links
on its way, so it ends at the same address on every disk that keeps these (`Walk.keeps`), and finds
what has come where there was nothing (`Walk.filled`). Where nothing on the way is a link, the walk
just adds the names (`follow_plain`, `Walk.eq_append`).
-/

namespace OptIn.Disk

/-- What following a link comes to with so many links left. -/
def jump (d : Disk) (purpose : Purpose) :
    Nat → Address → List String → Except SystemError Place
  | 0 => fun _ _ => .error .tooManyLinks
  | links + 1 => d.follow purpose links

theorem follow_eq (d : Disk) (purpose : Purpose) (links : Nat) :
    d.follow purpose links = d.followWith purpose (d.jump purpose links) := by
  cases links <;> rfl

/-! ### Steps -/

section Steps

variable {d : Disk} {purpose : Purpose} {links : Nat} {here : Address} {name : String}
  {rest : List String} {t : Int}

theorem follow_nil (d : Disk) (purpose : Purpose) (links : Nat) (here : Address) :
    d.follow purpose links here [] =
      match d.node? here with
      | some n => .ok (.taken here n)
      | none => .error .notFound := by
  cases links <;> rfl

/-- Nothing can be followed from where no directory stands. -/
theorem follow_cons_of_not_directory (h : ∀ t, d.node? here ≠ some (.directory t)) :
    d.follow purpose links here (name :: rest) =
      .error (if (d.node? here).isSome then .notDirectory else .notFound) := by
  rw [follow_eq, followWith]
  rcases hn : d.node? here with _ | (_ | t | _)
  · rfl
  · rfl
  · exact absurd hn (h t)
  · rfl

theorem follow_stay (h : d.node? here = some (.directory t)) (hname : name = "" ∨ name = ".") :
    d.follow purpose links here (name :: rest) = d.follow purpose links here rest := by
  rw [follow_eq, followWith, h]
  rcases hname with rfl | rfl <;> simp

theorem follow_up (h : d.node? here = some (.directory t)) :
    d.follow purpose links here (".." :: rest) = d.follow purpose links here.dropLast rest := by
  rw [follow_eq, followWith, h]
  simp

/-- A step down goes to the node of the name. -/
theorem follow_down (h : d.node? here = some (.directory t)) (hne : name ≠ "") (hdot : name ≠ ".")
    (hup : name ≠ "..") (hmake : ¬(purpose = .create ∧ rest = [""])) :
    d.follow purpose links here (name :: rest) =
      if nameLimit < name.utf8ByteSize then .error .nameTooLong
      else
        match d.node? (here ++ [name]) with
        | none => if rest.isEmpty then .ok (.vacant (here ++ [name])) else .error .notFound
        | some (.link target) =>
          if purpose = .examine ∧ rest.isEmpty then .ok (.taken (here ++ [name]) (.link target))
          else if target.isEmpty then .error .notFound
          else d.jump purpose links (startOf here target) (namesOf target ++ rest)
        | some _ => d.follow purpose links (here ++ [name]) rest := by
  simp only [follow_eq]
  rw [followWith, h]
  have hstay : ¬(decide (name = "") || decide (name = ".")) = true := by simp [hne, hdot]
  have hslash : ¬(decide (purpose = .create) && decide (rest = [""])) = true := by simpa using hmake
  refine (if_neg hstay).trans ((if_neg hup).trans ((if_neg hslash).trans ?_))
  rcases d.node? (here ++ [name]) with _ | (_ | _ | target)
  · rfl
  · rfl
  · rfl
  · simp only [Bool.and_eq_true, decide_eq_true_eq]

end Steps

/-- Following names by induction: on the number of links left, and for each number on the names. -/
theorem follow_induct {motive : Nat → Address → List String → Prop}
    (nil : ∀ links here, motive links here [])
    (cons : ∀ links here name rest,
      (∀ left, links = left + 1 → ∀ here names, motive left here names) →
      (∀ here, motive links here rest) → motive links here (name :: rest))
    (links : Nat) (here : Address) (names : List String) : motive links here names := by
  induction links generalizing here names with
  | zero =>
    induction names generalizing here with
    | nil => exact nil 0 here
    | cons name rest ih => exact cons 0 here name rest (fun left h => nomatch h) ih
  | succ links hlinks =>
    induction names generalizing here with
    | nil => exact nil (links + 1) here
    | cons name rest ih =>
      refine cons (links + 1) here name rest (fun left h => ?_) ih
      cases h
      exact hlinks

/-- A name stays, goes up, or goes down. -/
theorem name_cases (name : String) :
    (name = "" ∨ name = ".") ∨ name = ".." ∨ name ≠ "" ∧ name ≠ "." ∧ name ≠ ".." := by
  by_cases hstay : name = "" ∨ name = "."
  · exact .inl hstay
  · by_cases hup : name = ".."
    · exact .inr (.inl hup)
    · exact .inr (.inr ⟨fun h => hstay (.inl h), fun h => hstay (.inr h), hup⟩)

/-! ### Two runs of names -/

section Append

variable {d : Disk} {purpose : Purpose} {links : Nat} {here : Address} {ys : List String}

/-- Goes on with further names from where earlier ones have led, with so many links left. -/
def goOn (d : Disk) (purpose : Purpose) (ys : List String) (left : Nat) :
    Except SystemError Place → Except SystemError Place
  | .ok (.taken b _) => d.follow purpose left b ys
  | .ok (.vacant _) => .error .notFound
  | .error e => .error e

/-- Following two runs of names is going on with the second from where the first leads. -/
def GoesOn (d : Disk) (purpose : Purpose) (ys : List String) (links : Nat) (here : Address)
    (xs : List String) : Prop :=
  ∃ left, d.follow purpose links here (xs ++ ys) =
    d.goOn purpose ys left (d.follow .use links here xs)

theorem goesOn_down {name : String} {rest : List String} {t : Int} (hne : ys ≠ [])
    (hslash : ys ≠ [""]) (ht : d.node? here = some (.directory t)) (hempty : name ≠ "")
    (hdot : name ≠ ".") (hup : name ≠ "..")
    (hlinks : ∀ left, links = left + 1 → ∀ here xs, d.GoesOn purpose ys left here xs)
    (ih : ∀ here, d.GoesOn purpose ys links here rest) :
    d.GoesOn purpose ys links here (name :: rest) := by
  -- what is still to come is more than a slash at the end, at which no file is made
  have hlast : ¬(purpose = .create ∧ rest ++ ys = [""]) := by
    rintro ⟨-, h⟩
    rcases List.append_eq_singleton_iff.mp h with ⟨-, h⟩ | ⟨-, h⟩
    · exact hslash h
    · exact hne h
  rw [GoesOn, List.cons_append, follow_down ht hempty hdot hup hlast,
    follow_down ht hempty hdot hup (by simp)]
  split
  · exact ⟨0, rfl⟩
  · rcases hn : d.node? (here ++ [name]) with _ | (_ | _ | target)
    · refine ⟨0, ?_⟩
      cases rest <;> simp [hne, goOn]
    · exact ih _
    · exact ih _
    · by_cases htarget : target.isEmpty
      · exact ⟨0, by simp [htarget, hne, goOn]⟩
      · -- the names of the target come first, then what is left of the first run
        rcases links with _ | left
        · exact ⟨0, by simp [htarget, hne, goOn, jump]⟩
        · have hjump := hlinks left rfl (startOf here target) (namesOf target ++ rest)
          simpa [htarget, hne, jump, GoesOn] using hjump

/-- A walk along two runs of names goes on where the first run leads, with some of the links
left. -/
theorem follow_append (purpose : Purpose) (hne : ys ≠ []) (hslash : ys ≠ [""]) (links : Nat)
    (here : Address) (xs : List String) : d.GoesOn purpose ys links here xs := by
  induction links, here, xs using follow_induct with
  | nil links here =>
    refine ⟨links, ?_⟩
    obtain ⟨y, zs, rfl⟩ := List.exists_cons_of_ne_nil hne
    rw [List.nil_append, follow_nil]
    rcases hn : d.node? here with _ | n
    · rw [follow_cons_of_not_directory (by simp [hn]), hn]
      rfl
    · rfl
  | cons links here name rest hlinks ih =>
    by_cases hdir : ∃ t, d.node? here = some (.directory t)
    · obtain ⟨t, ht⟩ := hdir
      rcases name_cases name with hstay | rfl | ⟨hempty, hdot, hup⟩
      · rw [GoesOn, List.cons_append, follow_stay ht hstay, follow_stay ht hstay]
        exact ih here
      · rw [GoesOn, List.cons_append, follow_up ht, follow_up ht]
        exact ih here.dropLast
      · exact goesOn_down hne hslash ht hempty hdot hup hlinks ih
    · have hdir' : ∀ t, d.node? here ≠ some (.directory t) := fun t ht => hdir ⟨t, ht⟩
      rw [GoesOn, List.cons_append, follow_cons_of_not_directory hdir',
        follow_cons_of_not_directory hdir']
      exact ⟨0, rfl⟩

end Append

/-- The last step of a walk, if it is not `..`. -/
theorem follow_name {d : Disk} {purpose : Purpose} {links : Nat} {here : Address} {name : String}
    {t : Int} (h : d.node? here = some (.directory t)) (hne : name ≠ "") (hdot : name ≠ ".")
    (hup : name ≠ "..") (hshort : name.utf8ByteSize ≤ nameLimit) :
    d.follow purpose links here [name] =
      match d.node? (here ++ [name]) with
      | none => .ok (.vacant (here ++ [name]))
      | some (.link target) =>
        if purpose = .examine then .ok (.taken (here ++ [name]) (.link target))
        else if target.isEmpty then .error .notFound
        else d.jump purpose links (startOf here target) (namesOf target)
      | some n => .ok (.taken (here ++ [name]) n) := by
  rw [follow_down h hne hdot hup (by simp), if_neg (Nat.not_lt.mpr hshort)]
  rcases hn : d.node? (here ++ [name]) with _ | (_ | _ | target)
  · simp
  · simp [follow_nil, hn]
  · simp [follow_nil, hn]
  · simp

theorem follow_name_of_long {d : Disk} {purpose : Purpose} {links : Nat} {here : Address}
    {name : String} {t : Int} (h : d.node? here = some (.directory t)) (hne : name ≠ "")
    (hdot : name ≠ ".") (hup : name ≠ "..") (hlong : nameLimit < name.utf8ByteSize) :
    d.follow purpose links here [name] = .error .nameTooLong := by
  rw [follow_down h hne hdot hup (by simp), if_pos hlong]

/-! ### Walks that lead somewhere -/

/-- A **walk**: how following names from an address leads to a place with so many links at most. -/
inductive Walk (d : Disk) (purpose : Purpose) : Nat → Address → List String → Place → Prop
  | stop {links a n} : d.node? a = some n → Walk d purpose links a [] (.taken a n)
  | stay {links a t name rest x} : d.node? a = some (.directory t) → name = "" ∨ name = "." →
      Walk d purpose links a rest x → Walk d purpose links a (name :: rest) x
  | up {links a t rest x} : d.node? a = some (.directory t) →
      Walk d purpose links a.dropLast rest x → Walk d purpose links a (".." :: rest) x
  | down {links a t name rest n x} : d.node? a = some (.directory t) → name ≠ "" → name ≠ "." →
      name ≠ ".." → ¬(purpose = .create ∧ rest = [""]) → name.utf8ByteSize ≤ nameLimit →
      d.node? (a ++ [name]) = some n → n.isLink = false →
      Walk d purpose links (a ++ [name]) rest x → Walk d purpose links a (name :: rest) x
  | jump {links a t name rest target x} : d.node? a = some (.directory t) → name ≠ "" →
      name ≠ "." → name ≠ ".." → ¬(purpose = .create ∧ rest = [""]) →
      ¬(purpose = .examine ∧ rest = []) → name.utf8ByteSize ≤ nameLimit →
      d.node? (a ++ [name]) = some (.link target) → target ≠ "" →
      Walk d purpose links (startOf a target) (namesOf target ++ rest) x →
      Walk d purpose (links + 1) a (name :: rest) x
  | link {links a t name target} : d.node? a = some (.directory t) → name ≠ "" → name ≠ "." →
      name ≠ ".." → name.utf8ByteSize ≤ nameLimit → purpose = .examine →
      d.node? (a ++ [name]) = some (.link target) →
      Walk d purpose links a [name] (.taken (a ++ [name]) (.link target))
  | free {links a t name} : d.node? a = some (.directory t) → name ≠ "" → name ≠ "." →
      name ≠ ".." → name.utf8ByteSize ≤ nameLimit → d.node? (a ++ [name]) = none →
      Walk d purpose links a [name] (.vacant (a ++ [name]))

theorem follow_of_walk {d : Disk} {purpose : Purpose} {links : Nat} {here : Address}
    {names : List String} {x : Place} (h : d.Walk purpose links here names x) :
    d.follow purpose links here names = .ok x := by
  induction h with
  | stop h => rw [follow_nil, h]
  | stay hdir hname _ ih => rw [follow_stay hdir hname, ih]
  | up hdir _ ih => rw [follow_up hdir, ih]
  | @down links a t name rest n x hdir hne hdot hup hmake hshort hn hlink _ ih =>
    rw [follow_down hdir hne hdot hup hmake, if_neg (Nat.not_lt.mpr hshort), hn]
    cases n with
    | link target => simp [Node.isLink] at hlink
    | file bytes executable changed => exact ih
    | directory changed => exact ih
  | jump hdir hne hdot hup hmake hlast hshort hn htarget _ ih =>
    rw [follow_down hdir hne hdot hup hmake, if_neg (Nat.not_lt.mpr hshort), hn]
    simpa [hlast, htarget, Disk.jump] using ih
  | link hdir hne hdot hup hshort hpurpose hn =>
    rw [follow_name hdir hne hdot hup hshort, hn]
    simp [hpurpose]
  | free hdir hne hdot hup hshort hn => rw [follow_name hdir hne hdot hup hshort, hn]

theorem walk_of_follow_down {d : Disk} {purpose : Purpose} {links : Nat} {here : Address}
    {name : String} {rest : List String} {t : Int} {x : Place}
    (ht : d.node? here = some (.directory t)) (hne : name ≠ "") (hdot : name ≠ ".")
    (hup : name ≠ "..")
    (hlinks : ∀ left, links = left + 1 → ∀ here names, d.follow purpose left here names = .ok x →
      d.Walk purpose left here names x)
    (ih : ∀ here, d.follow purpose links here rest = .ok x → d.Walk purpose links here rest x)
    (h : d.follow purpose links here (name :: rest) = .ok x) :
    d.Walk purpose links here (name :: rest) x := by
  by_cases hmake : purpose = .create ∧ rest = [""]
  · rw [follow_eq, followWith, ht] at h
    simp [hne, hdot, hup, hmake.1, hmake.2] at h
  · rw [follow_down ht hne hdot hup hmake] at h
    split at h
    · cases h
    · rename_i hlong
      have hshort := Nat.le_of_not_lt hlong
      rcases hn : d.node? (here ++ [name]) with _ | (_ | _ | target)
      · rw [hn] at h
        rcases rest with _ | ⟨next, rest⟩
        · cases h
          exact .free ht hne hdot hup hshort hn
        · simp at h
      · rw [hn] at h
        exact .down ht hne hdot hup hmake hshort hn rfl (ih _ h)
      · rw [hn] at h
        exact .down ht hne hdot hup hmake hshort hn rfl (ih _ h)
      · rw [hn] at h
        by_cases hlast : purpose = .examine ∧ rest = []
        · -- a last link is only looked at
          obtain ⟨hpurpose, rfl⟩ := hlast
          simp only [hpurpose, List.isEmpty_nil, and_self, if_true] at h
          cases h
          exact .link ht hne hdot hup hshort hpurpose hn
        · by_cases htarget : target = ""
          · simp [htarget, hlast] at h
          · simp only [List.isEmpty_iff, if_neg hlast, String.isEmpty_iff, if_neg htarget] at h
            rcases links with _ | left
            · cases h
            · exact .jump ht hne hdot hup hmake hlast hshort hn htarget (hlinks left rfl _ _ h)

theorem walk_of_follow {d : Disk} {purpose : Purpose} {links : Nat} {here : Address}
    {names : List String} {x : Place} (h : d.follow purpose links here names = .ok x) :
    d.Walk purpose links here names x := by
  induction links, here, names using follow_induct with
  | nil links here =>
    rw [follow_nil] at h
    rcases hn : d.node? here with _ | n
    · rw [hn] at h
      cases h
    · rw [hn] at h
      cases h
      exact .stop hn
  | cons links here name rest hlinks ih =>
    by_cases hdir : ∃ t, d.node? here = some (.directory t)
    · obtain ⟨t, ht⟩ := hdir
      rcases name_cases name with hstay | rfl | ⟨hne, hdot, hup⟩
      · rw [follow_stay ht hstay] at h
        exact .stay ht hstay (ih here h)
      · rw [follow_up ht] at h
        exact .up ht (ih _ h)
      · exact walk_of_follow_down ht hne hdot hup hlinks ih h
    · rw [follow_cons_of_not_directory fun t ht => hdir ⟨t, ht⟩] at h
      cases h

theorem follow_eq_ok_iff {d : Disk} {purpose : Purpose} {links : Nat} {here : Address}
    {names : List String} {x : Place} :
    d.follow purpose links here names = .ok x ↔ d.Walk purpose links here names x :=
  ⟨walk_of_follow, follow_of_walk⟩

/-- What a walk leads to is what stands there. -/
theorem Walk.node?_eq {d : Disk} {purpose : Purpose} {links : Nat} {here a : Address}
    {names : List String} {n : Node} (h : d.Walk purpose links here names (.taken a n)) :
    d.node? a = some n := by
  generalize hx : Place.taken a n = x at h
  induction h with
  | stop hn => cases hx; exact hn
  | stay _ _ _ ih => exact ih hx
  | up _ _ ih => exact ih hx
  | down _ _ _ _ _ _ _ _ _ ih => exact ih hx
  | jump _ _ _ _ _ _ _ _ _ _ ih => exact ih hx
  | link _ _ _ _ _ _ hn => cases hx; exact hn
  | free => cases hx

/-- A vacant place is a free name in a directory. -/
theorem Walk.exists_parent {d : Disk} {purpose : Purpose} {links : Nat} {here a : Address}
    {names : List String} (h : d.Walk purpose links here names (.vacant a)) :
    ∃ b name t, a = b ++ [name] ∧ d.node? b = some (.directory t) ∧ d.node? a = none := by
  generalize hx : Place.vacant a = x at h
  induction h with
  | stop => cases hx
  | stay _ _ _ ih => exact ih hx
  | up _ _ ih => exact ih hx
  | down _ _ _ _ _ _ _ _ _ ih => exact ih hx
  | jump _ _ _ _ _ _ _ _ _ _ ih => exact ih hx
  | link => cases hx
  | free hdir _ _ _ _ hn =>
    cases hx
    exact ⟨_, _, _, rfl, hdir, hn⟩

/-- What can be used can be looked at. -/
theorem Walk.exists_examine {d : Disk} {links : Nat} {here a : Address} {names : List String}
    {n : Node} (h : d.Walk .use links here names (.taken a n)) :
    ∃ b m, d.Walk .examine links here names (.taken b m) := by
  generalize hx : Place.taken a n = x at h
  induction h with
  | stop hn => exact ⟨_, _, .stop hn⟩
  | stay hdir hname _ ih =>
    obtain ⟨b, m, hwalk⟩ := ih hx
    exact ⟨b, m, .stay hdir hname hwalk⟩
  | up hdir _ ih =>
    obtain ⟨b, m, hwalk⟩ := ih hx
    exact ⟨b, m, .up hdir hwalk⟩
  | down hdir hne hdot hup _ hshort hn hlink _ ih =>
    obtain ⟨b, m, hwalk⟩ := ih hx
    exact ⟨b, m, .down hdir hne hdot hup (by simp) hshort hn hlink hwalk⟩
  | @jump links c t name rest target x hdir hne hdot hup _ _ hshort hn htarget _ ih =>
    by_cases hrest : rest = []
    · subst hrest
      exact ⟨_, _, .link hdir hne hdot hup hshort rfl hn⟩
    · obtain ⟨b, m, hwalk⟩ := ih hx
      exact ⟨b, m, .jump hdir hne hdot hup (by simp) (by simp [hrest]) hshort hn htarget hwalk⟩
  | link _ _ _ _ _ hpurpose => cases hpurpose
  | free => cases hx

/-- What a file can be written to can be used. -/
theorem Walk.use_of_create {d : Disk} {links : Nat} {here a : Address} {names : List String}
    {n : Node} (h : d.Walk .create links here names (.taken a n)) :
    d.Walk .use links here names (.taken a n) := by
  generalize hx : Place.taken a n = x at h
  induction h with
  | stop hn =>
    cases hx
    exact .stop hn
  | stay hdir hname _ ih => exact .stay hdir hname (ih hx)
  | up hdir _ ih => exact .up hdir (ih hx)
  | down hdir hne hdot hup _ hshort hn hlink _ ih =>
    exact .down hdir hne hdot hup (by simp) hshort hn hlink (ih hx)
  | jump hdir hne hdot hup _ _ hshort hn htarget _ ih =>
    exact .jump hdir hne hdot hup (by simp) (by simp) hshort hn htarget (ih hx)
  | link _ _ _ _ _ hpurpose => cases hpurpose
  | free => cases hx

/-! ### Other disks -/

/-- A disk **keeps** another one's directories and links. -/
structure Keeps (d d' : Disk) : Prop where
  directory : ∀ {a t}, d.node? a = some (.directory t) → ∃ t', d'.node? a = some (.directory t')
  link : ∀ {a target}, d.node? a = some (.link target) → d'.node? a = some (.link target)

/-- A walk to something leads to the same address on a disk that keeps directories and links, unless
a link has come there. -/
theorem Walk.keeps {d d' : Disk} {purpose : Purpose} {links : Nat} {here a : Address}
    {names : List String} {n n' : Node} (hk : d.Keeps d')
    (h : d.Walk purpose links here names (.taken a n)) (hn' : d'.node? a = some n')
    (hlink : n'.isLink = true → n.isLink = true) :
    d'.Walk purpose links here names (.taken a n') := by
  generalize hx : Place.taken a n = x at h
  induction h with
  | stop => cases hx; exact .stop hn'
  | stay hdir hname _ ih =>
    obtain ⟨t', ht'⟩ := hk.directory hdir
    exact .stay ht' hname (ih hx)
  | up hdir _ ih =>
    obtain ⟨t', ht'⟩ := hk.directory hdir
    exact .up ht' (ih hx)
  | @down links b t name rest m x hdir hne hdot hup hmake hshort hm hmlink hwalk ih =>
    obtain ⟨t', ht'⟩ := hk.directory hdir
    subst hx
    -- the node that is walked through is a directory, or the one at the end
    cases m with
    | link target => simp [Node.isLink] at hmlink
    | directory s =>
      obtain ⟨s', hs'⟩ := hk.directory hm
      exact .down ht' hne hdot hup hmake hshort hs' rfl (ih rfl)
    | file bytes executable changed =>
      cases hwalk with
      | stop hn =>
        obtain rfl : Node.file bytes executable changed = n := Option.some.inj (hm.symm.trans hn)
        have hn'link : n'.isLink = false := by
          cases hl : n'.isLink with
          | false => rfl
          | true => exact absurd (hlink hl) (by simp [Node.isLink])
        exact .down ht' hne hdot hup hmake hshort hn' hn'link (.stop hn')
      | stay hdir' => simp [hm] at hdir'
      | up hdir' => simp [hm] at hdir'
      | down hdir' => simp [hm] at hdir'
      | jump hdir' => simp [hm] at hdir'
      | link hdir' => simp [hm] at hdir'
  | jump hdir hne hdot hup hmake hlast hshort hl htarget _ ih =>
    obtain ⟨t', ht'⟩ := hk.directory hdir
    exact .jump ht' hne hdot hup hmake hlast hshort (hk.link hl) htarget (ih hx)
  | link hdir hne hdot hup hshort hpurpose hl =>
    obtain ⟨t', ht'⟩ := hk.directory hdir
    cases hx
    have hl' := hk.link hl
    obtain rfl : n' = _ := Option.some.inj (hn'.symm.trans hl')
    exact .link ht' hne hdot hup hshort hpurpose hl'
  | free => cases hx

/-- What has come where a walk found nothing is found by the same walk. -/
theorem Walk.filled {d d' : Disk} {purpose : Purpose} {links : Nat} {here a : Address}
    {names : List String} {n : Node} (hk : d.Keeps d')
    (h : d.Walk purpose links here names (.vacant a)) (hn : d'.node? a = some n)
    (hlink : n.isLink = false) : d'.Walk .use links here names (.taken a n) := by
  generalize hx : Place.vacant a = x at h
  induction h with
  | stop => cases hx
  | stay hdir hname _ ih =>
    obtain ⟨t', ht'⟩ := hk.directory hdir
    exact .stay ht' hname (ih hx)
  | up hdir _ ih =>
    obtain ⟨t', ht'⟩ := hk.directory hdir
    exact .up ht' (ih hx)
  | @down _ b _ name _ m _ hdir hne hdot hup _ hshort hm hmlink hwalk ih =>
    obtain ⟨t', ht'⟩ := hk.directory hdir
    -- only directories can be walked through
    obtain ⟨s, hs⟩ : ∃ s, d.node? (b ++ [name]) = some (.directory s) := by
      subst hx
      cases hwalk with
      | stay hdir' => exact ⟨_, hdir'⟩
      | up hdir' => exact ⟨_, hdir'⟩
      | down hdir' => exact ⟨_, hdir'⟩
      | jump hdir' => exact ⟨_, hdir'⟩
      | free hdir' => exact ⟨_, hdir'⟩
    obtain ⟨s', hs'⟩ := hk.directory hs
    exact .down ht' hne hdot hup (by simp) hshort hs' rfl (ih hx)
  | jump hdir hne hdot hup _ _ hshort hl htarget _ ih =>
    obtain ⟨t', ht'⟩ := hk.directory hdir
    exact .jump ht' hne hdot hup (by simp) (by simp) hshort (hk.link hl) htarget (ih hx)
  | link => cases hx
  | free hdir hne hdot hup hshort =>
    obtain ⟨t', ht'⟩ := hk.directory hdir
    cases hx
    exact .down ht' hne hdot hup (by simp) hshort hn hlink (.stop hn)

/-! ### Where nothing is a link -/

/-- A disk is a **tree** when each address is listed once, the root is a directory, and whatever
stands somewhere stands in a directory. -/
structure IsTree (d : Disk) : Prop where
  once : (d.entries.map (·.1)).Nodup
  root : ∃ t, d.node? [] = some (.directory t)
  parent : ∀ {a name n}, d.node? (a ++ [name]) = some n → ∃ t, d.node? a = some (.directory t)

theorem IsTree.directory_of_append {d : Disk} (hd : d.IsTree) {a : Address} {names : List String}
    {n : Node} (hne : names ≠ []) (h : d.node? (a ++ names) = some n) :
    ∃ t, d.node? a = some (.directory t) := by
  induction names using List.reverseRecOn generalizing n with
  | nil => exact absurd rfl hne
  | append_singleton names name ih =>
    rw [← List.append_assoc] at h
    obtain ⟨t, ht⟩ := hd.parent h
    by_cases hnames : names = []
    · rw [hnames, List.append_nil] at ht
      exact ⟨t, ht⟩
    · exact ih hnames ht

/-- What is used is no link. -/
theorem Walk.isLink_eq_false {d : Disk} (hd : d.IsTree) {links : Nat} {here a : Address}
    {names : List String} {n : Node} (h : d.Walk .use links here names (.taken a n))
    (hhere : ∀ target, d.node? here ≠ some (.link target)) : n.isLink = false := by
  have hdirectory : ∀ {b t}, d.node? b = some (.directory t) →
      ∀ target, d.node? b ≠ some (.link target) := by
    intro b t hb target hlink
    rw [hb] at hlink
    cases hlink
  -- along the walk it stays true that no link stands where the walk is
  generalize hx : Place.taken a n = x at h
  induction h with
  | @stop links b m hm =>
    cases hx
    cases n with
    | link target => exact absurd hm (hhere target)
    | file | directory => rfl
  | stay hdir _ _ ih => exact ih (hdirectory hdir) hx
  | @up links b t rest x hdir hwalk ih =>
    refine ih (fun target hlink => ?_) hx
    rcases List.eq_nil_or_concat b with rfl | ⟨c, name, rfl⟩
    · exact hdirectory hdir target hlink
    · rw [List.concat_eq_append] at hdir hlink
      obtain ⟨s, hs⟩ := hd.parent hdir
      rw [List.dropLast_concat] at hlink
      exact hdirectory hs target hlink
  | @down links b t name rest m x hdir _ _ _ _ _ hm hlink _ ih =>
    refine ih (fun target htarget => ?_) hx
    rw [hm] at htarget
    cases htarget
    cases hlink
  | @jump links b t name rest target x hdir _ _ _ _ _ _ _ _ _ ih =>
    refine ih (fun u hlink => ?_) hx
    rw [startOf] at hlink
    split at hlink
    · obtain ⟨s, hs⟩ := hd.root
      exact hdirectory hs u hlink
    · exact hdirectory hdir u hlink
  | link _ _ _ _ _ hpurpose => cases hpurpose
  | free => cases hx

/-- Nothing is below an address where nothing is. -/
theorem IsTree.node?_append_eq_none {d : Disk} (hd : d.IsTree) {a : Address}
    (ha : d.node? a = none) (name : String) : d.node? (a ++ [name]) = none := by
  rcases hn : d.node? (a ++ [name]) with _ | n
  · rfl
  · obtain ⟨t, ht⟩ := hd.parent hn
    rw [ha] at ht
    cases ht

/-- Where nothing on the way is a link, names lead to the address that they write, if anything
stands there. -/
theorem follow_plain {d : Disk} (purpose : Purpose) (links : Nat) (here : Address) (hd : d.IsTree)
    {names : List String} (hnames : ∀ s ∈ names, s ≠ "" ∧ s ≠ "." ∧ s ≠ "..")
    (hshort : ∀ s ∈ names, s.utf8ByteSize ≤ nameLimit)
    (hplain : ∀ b target, b <+: here ++ names → d.node? b ≠ some (.link target)) :
    (∃ n, d.node? (here ++ names) = some n ∧
      d.follow purpose links here names = .ok (.taken (here ++ names) n)) ∨
    d.node? (here ++ names) = none ∧
      (d.follow purpose links here names = .ok (.vacant (here ++ names)) ∨
        d.follow purpose links here names = .error .notFound ∨
        d.follow purpose links here names = .error .notDirectory) := by
  induction names generalizing here with
  | nil =>
    rw [List.append_nil, follow_nil]
    rcases d.node? here with _ | n
    · exact .inr ⟨rfl, .inr (.inl rfl)⟩
    · exact .inl ⟨n, rfl, rfl⟩
  | cons name rest ih =>
    have happ : here ++ name :: rest = here ++ [name] ++ rest := by simp
    obtain ⟨hne, hdot, hup⟩ := hnames name List.mem_cons_self
    have hmake : ¬(purpose = .create ∧ rest = [""]) := fun h =>
      (hnames "" (by simp [h.2])).1 rfl
    by_cases hdir : ∃ t, d.node? here = some (.directory t)
    · -- the first name is followed down, and the rest by induction
      obtain ⟨t, ht⟩ := hdir
      rw [follow_down ht hne hdot hup hmake,
        if_neg (Nat.not_lt.mpr (hshort name List.mem_cons_self)), happ]
      have hrest := ih (here ++ [name]) (fun s hs => hnames s (List.mem_cons_of_mem _ hs))
        (fun s hs => hshort s (List.mem_cons_of_mem _ hs)) (by simpa using hplain)
      rcases hn : d.node? (here ++ [name]) with _ | (_ | _ | target)
      · rcases rest with _ | ⟨next, rest⟩
        · rw [List.append_nil]
          exact .inr ⟨hn, .inl rfl⟩
        · refine .inr ⟨?_, .inr (.inl rfl)⟩
          rcases hm : d.node? (here ++ [name] ++ next :: rest) with _ | m
          · rfl
          · obtain ⟨t', ht'⟩ := hd.directory_of_append (by simp) hm
            simp [hn] at ht'
      · exact hrest
      · exact hrest
      · exact absurd hn (hplain _ _ ⟨rest, happ.symm⟩)
    · refine .inr ⟨?_, ?_⟩
      · rcases hm : d.node? (here ++ name :: rest) with _ | m
        · rfl
        · exact absurd (hd.directory_of_append (by simp) hm) hdir
      · rw [follow_cons_of_not_directory fun t ht => hdir ⟨t, ht⟩]
        split
        · exact .inr (.inr rfl)
        · exact .inr (.inl rfl)

/-- Where nothing on the way is a link, no number of links is too small. -/
theorem follow_plain_ne_tooManyLinks {d : Disk} {purpose : Purpose} {links : Nat} {here : Address}
    {names : List String} (hnames : ∀ s ∈ names, s ≠ "" ∧ s ≠ "." ∧ s ≠ "..")
    (hplain : ∀ b target, b <+: here ++ names → d.node? b ≠ some (.link target)) :
    d.follow purpose links here names ≠ .error .tooManyLinks := by
  induction names generalizing here with
  | nil =>
    rw [follow_nil]
    rcases d.node? here with _ | n <;> simp
  | cons name rest ih =>
    obtain ⟨hne, hdot, hup⟩ := hnames name List.mem_cons_self
    have hmake : ¬(purpose = .create ∧ rest = [""]) := fun h =>
      (hnames "" (by simp [h.2])).1 rfl
    by_cases hdir : ∃ t, d.node? here = some (.directory t)
    · obtain ⟨t, ht⟩ := hdir
      have hrest := @ih (here ++ [name]) (fun s hs => hnames s (List.mem_cons_of_mem _ hs))
        (by simpa using hplain)
      rw [follow_down ht hne hdot hup hmake]
      split
      · simp
      · rcases hn : d.node? (here ++ [name]) with _ | (_ | _ | target)
        · simp only
          split <;> simp
        · exact hrest
        · exact hrest
        · exact absurd hn (hplain _ _ ⟨rest, by simp⟩)
    · rw [follow_cons_of_not_directory fun t ht => hdir ⟨t, ht⟩]
      split <;> simp

/-- Where a place is. -/
def Place.address : Place → Address
  | taken a _ | vacant a => a

@[simp] theorem Place.address_taken (a : Address) (n : Node) : (taken a n).address = a := rfl

@[simp] theorem Place.address_vacant (a : Address) : (vacant a).address = a := rfl

/-- A walk along names of which none is a link ends at the address that they write. -/
theorem Walk.eq_append {d : Disk} {purpose : Purpose} {links : Nat} {here : Address}
    {names : List String} {x : Place} (hnames : ∀ s ∈ names, s ≠ "" ∧ s ≠ "." ∧ s ≠ "..")
    (hplain : ∀ b target, b <+: here ++ names → d.node? b ≠ some (.link target))
    (h : d.Walk purpose links here names x) : x.address = here ++ names := by
  induction h with
  | stop => rw [List.append_nil]; rfl
  | stay _ hname =>
    obtain ⟨hne, hdot, -⟩ := hnames _ List.mem_cons_self
    exact absurd hname (not_or.mpr ⟨hne, hdot⟩)
  | up => exact absurd rfl (hnames _ List.mem_cons_self).2.2
  | @down links b t name rest m x _ _ _ _ _ _ _ _ _ ih =>
    have happ : b ++ name :: rest = b ++ [name] ++ rest := by simp
    rw [happ]
    exact ih (fun s hs => hnames s (List.mem_cons_of_mem _ hs)) (by rwa [happ] at hplain)
  | @jump links b t name rest target x _ _ _ _ _ _ _ hl =>
    exact absurd hl (hplain _ _ ⟨rest, by simp⟩)
  | link => rfl
  | free => rfl

end OptIn.Disk
