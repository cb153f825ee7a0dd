import OptIn.Proofs.Cache.Sequel
import OptIn.Proofs.Run.Lockstep

/-!
# The same run earlier and later

A driver that uses its cache alone comes to the same whether it runs at once or after others, which
use drawers of their own: the two runs go in lockstep (`DriverRun.lockstep_abreast`). What this asks
of the paths is `Host.Listing`. Two paths can have one marker, and then it matters when the first of
them has passed, unless the second has been changed before all this.
-/

namespace OptIn

open Host (Sequel Label Alike BelongsAt)
open Invoker (Recorded)

namespace Host

variable {h₀ h h' : Host} {root : Path} {ps : List Path} {untouched : String → Prop} {p : Path}

/-- A list of paths that can be run on beside a cabinet: they are resolved, their names are short,
none of them lies in the cabinet, and of two that have one marker the second is not from the
future. -/
structure Listing (h : Host) (root : Path) (ps : List Path) : Prop where
  resolved : ∀ p ∈ ps, h.Resolved p
  short : ∀ p ∈ ps, ∀ s ∈ p.parts, s.utf8ByteSize ≤ Disk.nameLimit
  outside : ∀ c, h.BelongsAt root c → ∀ p ∈ ps, ¬c <+: p.parts
  past : ps.Pairwise fun p q => p ≠ q → cacheKey p = cacheKey q →
    ∀ t, h.changed q = .ok t → t < h.clock

theorem Listing.not_stored (hl : h₀.Listing root ps) (hp : p ∈ ps) :
    ¬h₀.Stored root p.parts := by
  rintro ⟨c, name, hc, key, hparts⟩
  exact hl.outside c hc p hp ⟨[name] ++ [key], by rw [hparts, List.append_assoc]⟩

/-- A listed path is that of a file as before. -/
theorem Listing.isFile_eq (hl : h₀.Listing root ps) (ho : h₀.Orderly)
    (hs : Sequel root untouched h₀ h) (hp : p ∈ ps) : h.isFile p = h₀.isFile p := by
  have hr := hl.resolved p hp
  by_cases ha : p.Askable
  · exact hs.grows.isFile_of_delivered ho ⟨hr, ha.short, hl.short p hp⟩ (hl.not_stored hp)
  · rw [isFile_of_not_askable h hr.proper hr.noNull ha,
      isFile_of_not_askable h₀ hr.proper hr.noNull ha]

/-- A listed file stands where it stood, with the same bytes and the same time. -/
theorem Listing.exists_stat (hl : h₀.Listing root ps) (ho : h₀.Orderly)
    (hs : Sequel root untouched h₀ h) (hp : p ∈ ps) (hf : h.isFile p = .ok true) :
    ∃ bytes x t, h₀.stat p = .ok (p.parts, .file bytes x t) ∧
      h.stat p = .ok (p.parts, .file bytes x t) := by
  rw [hl.isFile_eq ho hs hp] at hf
  obtain ⟨a, bytes, x, t, hstat⟩ := isFile_eq_true_iff.mp hf
  have hr := hl.resolved p hp
  obtain rfl := hr.address_eq ho hstat
  obtain ⟨t', hstat', hsame⟩ := hs.grows.stat_file ho hr.proper hstat
  obtain rfl := hsame (hl.not_stored hp)
  exact ⟨bytes, x, t', hstat, hstat'⟩

end Host

namespace DriverRun

variable {r : DriverRun} {h₀ h h' h₁ h₁' : Host} {untouched : String → Prop}
  {all seen ps : List Path} {p : Path}

/-- Two sequels of a host **abreast**, in the middle of the same run: the drawer of its driver is
alike on both, apart from markers of files that have been seen, or its cache is shut. -/
structure Abreast (r : DriverRun) (h₀ : Host) (untouched : String → Prop) (all seen ps : List Path)
    (h h' : Host) : Prop where
  whole : seen.reverse ++ ps = all
  left : Sequel r.settings.cacheRoot untouched h₀ h
  right : Sequel r.settings.cacheRoot untouched h₀ h'
  cache : r.driver.useCache = true → r.store.Shut h h' ∨
    Label r.settings.cacheRoot r.driver.name ∧ ∃ c, h₀.BelongsAt r.settings.cacheRoot c ∧
      h.Drawer r.settings.cacheRoot c r.driver.name ∧
      h'.Drawer r.settings.cacheRoot c r.driver.name ∧
      Alike h₀.clock (fun key => ∃ q ∈ seen, cacheKey q = key) (c ++ [r.driver.name]) h h'

namespace Abreast

theorem mem (ha : r.Abreast h₀ untouched all seen (p :: ps) h h') : p ∈ all := by
  rw [← ha.whole]
  simp

theorem next (ha : r.Abreast h₀ untouched all seen (p :: ps) h h') :
    r.Abreast h₀ untouched all (p :: seen) ps h h' where
  whole := by
    rw [← ha.whole]
    simp
  left := ha.left
  right := ha.right
  cache huse := by
    refine (ha.cache huse).imp_right ?_
    rintro ⟨hl, c, hc, hd, hd', halike⟩
    refine ⟨hl, c, hc, hd, hd', halike.mono ?_⟩
    rintro key ⟨q, hq, hkey⟩
    exact ⟨q, List.mem_cons_of_mem _ hq, hkey⟩

theorem later (ha : r.Abreast h₀ untouched all seen ps h h') (hl : h.Later h₁)
    (hl' : h'.Later h₁') : r.Abreast h₀ untouched all seen ps h₁ h₁' where
  whole := ha.whole
  left := ha.left.later hl
  right := ha.right.later hl'
  cache huse := by
    refine (ha.cache huse).imp (·.later hl hl') ?_
    rintro ⟨hlabel, c, hc, hd, hd', halike⟩
    exact ⟨hlabel, c, hc, hd.later hl, hd'.later hl', halike.of_disk_eq hl.disk_eq hl'.disk_eq⟩

/-- The file at the next path is the same on both sides. -/
theorem exists_stat (ha : r.Abreast h₀ untouched all seen (p :: ps) h h') (ho : h₀.Orderly)
    (hlist : h₀.Listing r.settings.cacheRoot all) (hf : h.isFile p = .ok true) :
    ∃ bytes x t, h₀.stat p = .ok (p.parts, .file bytes x t) ∧
      h.stat p = .ok (p.parts, .file bytes x t) ∧ h'.stat p = .ok (p.parts, .file bytes x t) := by
  obtain ⟨bytes, x, t, hs₀, hs⟩ := hlist.exists_stat ho ha.left ha.mem hf
  have hf' := ((hlist.isFile_eq ho ha.right ha.mem).trans
    (hlist.isFile_eq ho ha.left ha.mem).symm).trans hf
  obtain ⟨bytes', x', t', hs₀', hs'⟩ := hlist.exists_stat ho ha.right ha.mem hf'
  cases hs₀.symm.trans hs₀'
  exact ⟨bytes, x, t, hs₀, hs, hs'⟩

theorem considered_eq (ha : r.Abreast h₀ untouched all seen (p :: ps) h h') (ho : h₀.Orderly)
    (hlist : h₀.Listing r.settings.cacheRoot all) (hdetect : r.detect = shebangDetector) :
    r.driver.considered r.detect seen p h' = r.driver.considered r.detect seen p h := by
  have hfile := (hlist.isFile_eq ho ha.right ha.mem).trans
    (hlist.isFile_eq ho ha.left ha.mem).symm
  refine Driver.considered_congr hfile fun hf => ?_
  obtain ⟨bytes, x, t, -, hs, hs'⟩ := ha.exists_stat ho hlist hf
  rw [hdetect, shebangDetector_of_stat hs, shebangDetector_of_stat hs']

/-- If an earlier path has the same marker, the next one is not from the future. -/
theorem past (ha : r.Abreast h₀ untouched all seen (p :: ps) h h')
    (hlist : h₀.Listing r.settings.cacheRoot all) (hnew : p ∉ seen)
    (hkey : ∃ q ∈ seen, cacheKey q = cacheKey p) {t : Int} (ht : h₀.changed p = .ok t) :
    t < h₀.clock := by
  obtain ⟨q, hq, hkey⟩ := hkey
  have hpast := hlist.past
  rw [← ha.whole, List.pairwise_append] at hpast
  refine hpast.2.2 q (List.mem_reverse.mpr hq) p List.mem_cons_self ?_ hkey t ht
  rintro rfl
  exact hnew hq

theorem directory_store (hn : Path.ProperName r.driver.name) :
    r.store.directory = r.settings.cacheRoot.down r.driver.name := Path.child_eq_down _ hn

theorem vouchedBy_eq (ha : r.Abreast h₀ untouched all seen (p :: ps) h h') (ho : h₀.Orderly)
    (hlist : h₀.Listing r.settings.cacheRoot all) (hf : h.isFile p = .ok true) (hnew : p ∉ seen) :
    r.invoker.vouchedBy p h' = r.invoker.vouchedBy p h := by
  rw [Invoker.vouchedBy, Invoker.vouchedBy]
  rcases hcache : r.invoker.cache? with _ | cache
  · rfl
  · obtain ⟨huse, rfl⟩ := cache?_eq_some_iff.mp hcache
    obtain ⟨bytes, x, t, hs₀, hs, hs'⟩ := ha.exists_stat ho hlist hf
    have hproper := (hlist.resolved p ha.mem).proper
    have hleft := ha.left.grows.orderly ho
    rcases ha.cache huse with hshut | ⟨hl, c, hc, hd, hd', halike⟩
    · exact ResultCache.vouches_eq_of_shut hshut (Host.markable_of_stat hleft hproper hs)
        ((Host.changed_of_stat hs').trans (Host.changed_of_stat hs).symm)
    · exact ResultCache.vouches_eq_of_alike halike (directory_store hl.proper) hl hd hd' hleft
        (ha.right.grows.orderly ho) hproper hs hs'
        fun hkey => ha.past hlist hnew hkey (Host.changed_of_stat hs₀)

/-- Recording a success comes to the same on both sides. -/
theorem recorded (ha : r.Abreast h₀ untouched all seen (p :: ps) h h') (ho : h₀.Orderly)
    (hlist : h₀.Listing r.settings.cacheRoot all) (hname : ¬untouched r.driver.name)
    (hf : h.isFile p = .ok true) {x x' : Except Fault Unit} (hr : Recorded r.invoker p h x h₁)
    (hr' : Recorded r.invoker p h' x' h₁') :
    x' = x ∧ r.Abreast h₀ untouched all (p :: seen) ps h₁ h₁' := by
  obtain ⟨bytes, y, t, -, hs, -⟩ := ha.exists_stat ho hlist hf
  have hmark := Host.markable_of_stat (ha.left.grows.orderly ho)
    (hlist.resolved p ha.mem).proper hs
  have hnext := ha.next
  cases hr with
  | uncached hnone =>
    cases hr' with
    | uncached => exact ⟨rfl, hnext⟩
    | cached hsome => cases hnone.symm.trans hsome
  | @cached cache w _ w₁ hsome hrun =>
    cases hr' with
    | uncached hnone => cases hnone.symm.trans hsome
    | @cached cache' w' _ w₁' hsome' hrun' =>
      obtain ⟨huse, rfl⟩ := cache?_eq_some_iff.mp hsome
      obtain ⟨-, rfl⟩ := cache?_eq_some_iff.mp hsome'
      rcases hnext.cache huse with hshut | ⟨hl, c, hc, hd, hd', halike⟩
      · obtain ⟨rfl, hsame, hsame'⟩ := ResultCache.records_of_shut hshut hrun hrun'
        rw [hsame, hsame']
        exact ⟨rfl, hnext⟩
      · obtain ⟨rfl, hfiled, hfiled', halike'⟩ := ResultCache.records_of_alike halike
          (directory_store hl.proper) hl hd hd' (ha.left.grows.orderly ho)
          (ha.right.grows.orderly ho) hmark ⟨p, List.mem_cons_self, rfl⟩ ha.left.grows.clock
          ha.right.grows.clock hrun hrun'
        have hleft := ha.left.filed hc hfiled hname
        have hright := ha.right.filed hc hfiled' hname
        exact ⟨rfl, hnext.whole, hleft, hright, fun _ => .inr ⟨hl, c, hc,
          hfiled.drawer hl (hleft.grows.orderly ho), hfiled'.drawer hl (hright.grows.orderly ho),
          halike'⟩⟩

end Abreast

/-- A run goes in lockstep on two sequels of a host that are abreast. -/
theorem lockstep_abreast (ho : h₀.Orderly) (hlist : h₀.Listing r.settings.cacheRoot all)
    (hdetect : r.detect = shebangDetector) (hname : ¬untouched r.driver.name) :
    r.Lockstep (r.Abreast h₀ untouched all) where
  considered ha := ha.considered_eq ho hlist hdetect
  read ha hf hnew := by
    obtain ⟨bytes, x, t, -, hs, hs'⟩ := ha.exists_stat ho hlist hf
    exact ⟨(Host.read_of_stat hs').trans (Host.read_of_stat hs).symm,
      ha.vouchedBy_eq ho hlist hf hnew⟩
  next ha := ha.next
  later ha hl hl' := ha.later hl hl'
  recorded ha hf hr hr' := ha.recorded ho hlist hname hf hr hr'

end DriverRun

end OptIn
