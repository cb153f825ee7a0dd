import OptIn.Proofs.Host.Files

/-!
# Paths that keep clear of a directory

A path that leads to nothing ends at an address where something is missing (`Disk.Misses`), unless
it fails whatever may be made; as long as nothing comes to that address, it goes on leading to
nothing for the same reason (`Disk.follow_eq_of_missing`). A path avoids a directory when neither
what it leads to nor what it misses stands in there (`Host.Avoids`), and such a path cannot tell
what happens in the directory (`Host.Avoids.stat_eq`). On the way of a resolved path, that is a
matter of its parts (`Host.Resolved.avoids`).
-/

namespace OptIn

namespace Disk

/-- How following names, so as to use what they lead to, gets to a **missing** address. -/
inductive Misses (d : Disk) : Nat → Address → List String → Address → Prop
  | start {links a names} : d.node? a = none → Misses d links a names a
  | stay {links a t name rest x} : d.node? a = some (.directory t) → name = "" ∨ name = "." →
      Misses d links a rest x → Misses d links a (name :: rest) x
  | up {links a t rest x} : d.node? a = some (.directory t) →
      Misses d links a.dropLast rest x → Misses d links a (".." :: rest) x
  | down {links a t name rest n x} : d.node? a = some (.directory t) → name ≠ "" → name ≠ "." →
      name ≠ ".." → name.utf8ByteSize ≤ nameLimit → d.node? (a ++ [name]) = some n →
      n.isLink = false → Misses d links (a ++ [name]) rest x → Misses d links a (name :: rest) x
  | jump {links a t name rest target x} : d.node? a = some (.directory t) → name ≠ "" →
      name ≠ "." → name ≠ ".." → name.utf8ByteSize ≤ nameLimit →
      d.node? (a ++ [name]) = some (.link target) → target ≠ "" →
      Misses d links (startOf a target) (namesOf target ++ rest) x →
      Misses d (links + 1) a (name :: rest) x
  | free {links a t name rest} : d.node? a = some (.directory t) → name ≠ "" → name ≠ "." →
      name ≠ ".." → name.utf8ByteSize ≤ nameLimit → d.node? (a ++ [name]) = none →
      Misses d links a (name :: rest) (a ++ [name])

variable {d d' : Disk} {links : Nat} {here a : Address} {name : String} {names rest : List String}
  {t : Int}

/-- A disk **extends** another one when it has its directories, its links and its files. -/
structure Extends (d d' : Disk) : Prop extends Keeps d d' where
  file : ∀ {a n}, d.node? a = some n → n.isFile = true →
    ∃ n', d'.node? a = some n' ∧ n'.isFile = true

/-- Names that lead to nothing lead to nothing on a larger disk, and for the same reason, if nothing
has come where they miss something. -/
def StillLost (d d' : Disk) (links : Nat) (here : Address) (names : List String) : Prop :=
  (∀ a n, d.follow .use links here names ≠ .ok (.taken a n)) →
    (∀ x, d.Misses links here names x → d'.node? x = none) →
      d'.follow .use links here names = d.follow .use links here names

/-- A step down on a larger disk. -/
theorem Extends.stillLost_down (he : d.Extends d') (ht : d.node? here = some (.directory t))
    (hne : name ≠ "") (hdot : name ≠ ".") (hup : name ≠ "..")
    (hlinks : ∀ left, links = left + 1 → ∀ here names, d.StillLost d' left here names)
    (ih : ∀ here, d.StillLost d' links here rest) : d.StillLost d' links here (name :: rest) := by
  intro hnot hmiss
  obtain ⟨t', ht'⟩ := he.directory ht
  rw [follow_down ht hne hdot hup (by simp)] at hnot ⊢
  rw [follow_down ht' hne hdot hup (by simp)]
  by_cases hlong : nameLimit < name.utf8ByteSize
  · rw [if_pos hlong, if_pos hlong]
  · have hshort := Nat.le_of_not_lt hlong
    rw [if_neg hlong] at hnot ⊢
    rw [if_neg hlong]
    -- whatever stands under the name, a node of the same kind does on the larger disk
    rcases hn : d.node? (here ++ [name]) with _ | (⟨bytes, x, s⟩ | s | target)
    · rw [hmiss _ (.free ht hne hdot hup hshort hn)]
    · obtain ⟨n', hn', hfile⟩ := he.file hn rfl
      rw [hn] at hnot
      cases n' with
      | file bytes' x' s' =>
        rw [hn']
        exact ih _ hnot fun x hx => hmiss x (.down ht hne hdot hup hshort hn rfl hx)
      | directory | link => cases hfile
    · obtain ⟨s', hs'⟩ := he.directory hn
      rw [hn] at hnot
      rw [hs']
      exact ih _ hnot fun x hx => hmiss x (.down ht hne hdot hup hshort hn rfl hx)
    · rw [hn] at hnot
      rw [he.link hn]
      by_cases htarget : target = ""
      · simp [htarget]
      · simp only [reduceCtorEq, false_and, if_false, String.isEmpty_iff, if_neg htarget] at hnot ⊢
        rcases links with _ | left
        · rfl
        · exact hlinks left rfl _ _ hnot fun x hx =>
            hmiss x (.jump ht hne hdot hup hshort hn htarget hx)

/-- Names that lead to nothing lead to nothing on a larger disk, as long as nothing has come where
they miss something. -/
theorem Extends.follow_eq_of_missing (he : d.Extends d') (links : Nat) (here : Address)
    (names : List String) : d.StillLost d' links here names := by
  induction links, here, names using follow_induct with
  | nil links here =>
    intro hnot hmiss
    rw [follow_nil] at hnot ⊢
    rcases hn : d.node? here with _ | n
    · rw [follow_nil, hmiss here (.start hn), hn]
    · rw [hn] at hnot
      exact absurd rfl (hnot here n)
  | cons links here name rest hlinks ih =>
    by_cases hdir : ∃ t, d.node? here = some (.directory t)
    · obtain ⟨t, ht⟩ := hdir
      rcases name_cases name with hstay | rfl | ⟨hne, hdot, hup⟩
      · intro hnot hmiss
        obtain ⟨t', ht'⟩ := he.directory ht
        rw [follow_stay ht hstay] at hnot ⊢
        rw [follow_stay ht' hstay]
        exact ih here hnot fun x hx => hmiss x (.stay ht hstay hx)
      · intro hnot hmiss
        obtain ⟨t', ht'⟩ := he.directory ht
        rw [follow_up ht] at hnot ⊢
        rw [follow_up ht']
        exact ih here.dropLast hnot fun x hx => hmiss x (.up ht hx)
      · exact he.stillLost_down ht hne hdot hup hlinks ih
    · -- where no directory stands, none has come either
      intro _ hmiss
      rw [follow_cons_of_not_directory fun t ht => hdir ⟨t, ht⟩]
      rcases hn : d.node? here with _ | (⟨bytes, x, s⟩ | s | target)
      · have hn' := hmiss here (.start hn)
        rw [follow_cons_of_not_directory (by simp [hn']), hn']
      · obtain ⟨n', hn', hfile⟩ := he.file hn rfl
        have hnot' : ∀ t, d'.node? here ≠ some (.directory t) := by
          intro t ht
          rw [hn'] at ht
          cases ht
          cases hfile
        rw [follow_cons_of_not_directory hnot', hn']
        rfl
      · exact absurd ⟨s, hn⟩ hdir
      · rw [follow_cons_of_not_directory (by simp [he.link hn]), he.link hn]

/-- Nothing stands where something is missing. -/
theorem Misses.node?_eq (h : d.Misses links here names a) : d.node? a = none := by
  induction h with
  | start hn => exact hn
  | stay _ _ _ ih | up _ _ ih | down _ _ _ _ _ _ _ _ ih | jump _ _ _ _ _ _ _ _ ih => exact ih
  | free _ _ _ _ _ hn => exact hn

/-- Where nothing on the way is a link, what is missing stands on the way. -/
theorem Misses.isPrefix_of_plain (h : d.Misses links here names a)
    (hnames : ∀ s ∈ names, s ≠ "" ∧ s ≠ "." ∧ s ≠ "..")
    (hplain : ∀ ys, ys <+: names → ys ≠ [] → ∀ target, d.node? (here ++ ys) ≠ some (.link target)) :
    a <+: here ++ names := by
  induction h with
  | start => exact List.prefix_append _ _
  | stay _ hname =>
    have := hnames _ List.mem_cons_self
    rcases hname with rfl | rfl <;> simp at this
  | up => exact absurd rfl (hnames _ List.mem_cons_self).2.2
  | @down links a t name rest n x _ _ _ _ _ _ _ _ ih =>
    rw [List.append_cons]
    refine ih (fun s hs => hnames s (List.mem_cons_of_mem _ hs)) fun ys hys _ target => ?_
    rw [List.append_assoc]
    exact hplain (name :: ys) (List.cons_prefix_cons.mpr ⟨rfl, hys⟩) (List.cons_ne_nil _ _) target
  | @jump links a t name rest target x _ _ _ _ _ hl =>
    exact absurd hl (hplain [name] (List.prefix_append _ _) (List.cons_ne_nil _ _) target)
  | @free _ a _ name rest =>
    exact List.append_cons a name rest ▸ List.prefix_append (a ++ [name]) rest

end Disk

namespace Host

variable {h h' : Host} {within : Address → Prop} {p : Path} {a c : Address} {n : Node}

theorem Grows.extends (hg : h.Grows within h') : h.disk.Extends h'.disk where
  toKeeps := hg.keeps
  file {a n} hn hfile := by
    cases n with
    | file bytes x t =>
      obtain ⟨t', ht'⟩ := hg.file hn
      exact ⟨_, ht', rfl⟩
    | directory | link => cases hfile

/-- A path **avoids** an address when neither what it leads to nor what it misses stands there or
below. -/
structure Avoids (h : Host) (c : Address) (p : Path) : Prop where
  there : ∀ {a n}, h.stat p = .ok (a, n) → ¬c <+: a
  missing : ∀ {a}, h.disk.Misses Disk.linkLimit (h.startOf p) p.parts a → ¬c <+: a

/-- Whatever comes at an address and below it, a path that avoids it leads where it did. -/
theorem Avoids.stat_eq (ha : h.Avoids c p) (ho : h.Orderly) (hp : p.Proper)
    (hg : h.Grows within h') (hsame : ∀ a, ¬c <+: a → h'.disk.node? a = h.disk.node? a) :
    h'.stat p = h.stat p := by
  have ho' := hg.orderly ho
  by_cases hask : p.Askable
  · rcases hs : h.stat p with e | ⟨a, n⟩
    · have hstart : h'.startOf p = h.startOf p := by rw [startOf, startOf, hg.cwd]
      have hnot : ∀ a n, h.disk.follow .use Disk.linkLimit (h.startOf p) p.parts ≠
          .ok (.taken a n) := by
        intro a n hf
        rw [(stat_eq_ok_iff ho hp).mpr ⟨hask, Disk.follow_eq_ok_iff.mp hf⟩] at hs
        cases hs
      have hfollow := hg.extends.follow_eq_of_missing Disk.linkLimit (h.startOf p) p.parts hnot
        fun x hx => ?_
      · rw [← hs, stat, stat, statText, statText, placeOf_eq .use ho hp hask,
          placeOf_eq .use ho' hp hask, hstart, hfollow]
      · rw [hsame x (ha.missing hx)]
        exact hx.node?_eq
    · have hn := node?_of_stat ho hp hs
      refine stat_keeps ho ho' hp hg.keeps hg.cwd hs ?_ (isLink_eq_false_of_stat ho hp hs)
      rw [hsame a (ha.there hs)]
      exact hn
  · rw [stat_of_error (placeOf_of_not_askable hp hask),
      stat_of_error (placeOf_of_not_askable hp hask)]

/-- A resolved path that is not written below an address avoids it. -/
theorem Resolved.avoids (hr : h.Resolved p) (ho : h.Orderly) (hc : ¬c <+: p.parts) :
    h.Avoids c p where
  there hs := hr.address_eq ho hs ▸ hc
  missing hm hca := by
    rw [hr.startOf] at hm
    have hprefix := hm.isPrefix_of_plain hr.names fun ys hys _ target => hr.plain hys
    exact hc (hca.trans hprefix)

end Host

end OptIn
