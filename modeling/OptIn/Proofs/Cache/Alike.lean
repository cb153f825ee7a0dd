import OptIn.Proofs.Cache.Cabinet

/-!
# Caches that answer alike

The same cache on two hosts: either no directory can be made for it on both (`ResultCache.Shut`), or
it has a drawer on both, with markers of the same times, apart from those that were stamped on both
since a certain time (`Host.Alike`). It then vouches for the same files, as long as a file whose
marker has been stamped is older than that (`vouches_eq_of_shut`, `vouches_eq_of_alike`), and
recording a success comes to the same on both hosts and keeps them alike (`records_of_shut`,
`records_of_alike`).
-/

namespace OptIn

namespace Host

variable {h h' h₁ h₁' : Host} {a c : Address} {start : Int} {known : String → Prop} {root : Path}
  {name key : String}

/-- What stands at an address is not older than a time. -/
def YoungAt (h : Host) (start : Int) (a : Address) : Prop :=
  ∃ n, h.disk.node? a = some n ∧ start ≤ n.changed

/-- Two directories are **alike** when both are there, or none of them, and what stands in them
under the same name has the same time, unless that name is known and what it names is young in both.
-/
structure Alike (start : Int) (known : String → Prop) (a : Address) (h h' : Host) : Prop where
  made : h.disk.node? a = none ↔ h'.disk.node? a = none
  markers : ∀ key, (h'.disk.node? (a ++ [key])).map Node.changed =
      (h.disk.node? (a ++ [key])).map Node.changed ∨
    known key ∧ h.YoungAt start (a ++ [key]) ∧ h'.YoungAt start (a ++ [key])

theorem Alike.of_disk_eq (ha : Alike start known a h h') (hd : h₁.disk = h.disk)
    (hd' : h₁'.disk = h'.disk) : Alike start known a h₁ h₁' := by
  refine ⟨?_, fun key => ?_⟩
  · rw [hd, hd']
    exact ha.made
  · rw [YoungAt, YoungAt, hd, hd']
    exact ha.markers key

theorem Alike.mono {known' : String → Prop} (ha : Alike start known a h h')
    (hsub : ∀ key, known key → known' key) : Alike start known' a h h' :=
  ⟨ha.made, fun key => (ha.markers key).imp_right fun hy => ⟨hsub key hy.1, hy.2⟩⟩

theorem Tray.node?_ne_none {dir : Path} (ht : h.Tray dir a) (ho : h.Orderly) (hdir : dir.Proper) :
    h.disk.node? a ≠ none := by
  obtain ⟨t, hs⟩ := ht.there
  rw [node?_of_stat ho hdir hs]
  exact fun h => nomatch h

/-- Filing the same on both sides keeps drawers alike. -/
theorem Alike.filed (ha : Alike start known (c ++ [name]) h h') (hf : h.Filed h₁ root c name key)
    (hf' : h'.Filed h₁' root c name key) (hl : Label root name) (ho : h₁.Orderly)
    (ho' : h₁'.Orderly)
    (hkey : (h₁'.disk.node? (c ++ [name] ++ [key])).map Node.changed =
        (h₁.disk.node? (c ++ [name] ++ [key])).map Node.changed ∨
      known key ∧ h₁.YoungAt start (c ++ [name] ++ [key]) ∧
        h₁'.YoungAt start (c ++ [name] ++ [key])) : Alike start known (c ++ [name]) h₁ h₁' := by
  refine ⟨?_, fun k => ?_⟩
  · have hproper := hl.above.down hl.proper
    exact iff_of_false (hf.tray.node?_ne_none ho hproper) (hf'.tray.node?_ne_none ho' hproper)
  · by_cases hk : k = key
    · exact hk ▸ hkey
    · rw [YoungAt, YoungAt, hf.others hk, hf'.others hk]
      exact ha.markers k

/-- A drawer in which something has been filed is a drawer still. -/
theorem Filed.drawer (hf : h.Filed h' root c name key) (hl : Label root name) (ho : h'.Orderly) :
    h'.Drawer root c name where
  cabinet := .inl hf.cabinet
  free n hn := by
    obtain ⟨t, hs⟩ := hf.tray.there
    rw [node?_of_stat ho (hl.above.down hl.proper) hs] at hn
    cases hn
    rfl
  plain := hf.tray.plain

end Host

namespace ResultCache

open Host (Label Alike)

variable {cache : ResultCache} {h h' h₁ h₁' : Host} {w w' w₁ w₁' : World} {p root : Path}
  {a b b' c : Address} {start t : Int} {known : String → Prop} {name : String}
  {bytes : List UInt8} {x : Bool} {r r' : Except Fault Unit}

/-- What a cache says is a matter of what stands at the marker and when the file was changed. -/
theorem vouches_congr (hentry : h'.stat (cache.entry p) = h.stat (cache.entry p))
    (hfile : h'.changed p = h.changed p) : cache.vouches p h' = cache.vouches p h := by
  have hmarker : h'.changed (cache.entry p) = h.changed (cache.entry p) := by
    rw [Host.changed, Host.changed, hentry]
  rw [vouches, vouches, times, times, hmarker, hfile]

/-! ### Caches that are shut -/

/-- A cache is **shut** on two hosts alike when its directory is barred on both, and what stands at
its markers is the same. -/
structure Shut (cache : ResultCache) (h h' : Host) : Prop where
  barred : ∃ e, h.Barred cache.directory e ∧ h'.Barred cache.directory e
  entries : ∀ {p}, p.Markable → h'.stat (cache.entry p) = h.stat (cache.entry p)

theorem Shut.later (hs : cache.Shut h h') (hl : h.Later h₁) (hl' : h'.Later h₁') :
    cache.Shut h₁ h₁' where
  barred := by
    obtain ⟨e, he, he'⟩ := hs.barred
    exact ⟨e, he.later hl, he'.later hl'⟩
  entries hp := by
    rw [hl.stat_eq, hl'.stat_eq]
    exact hs.entries hp

theorem vouches_eq_of_shut (hs : cache.Shut h h') (hp : p.Markable)
    (hfile : h'.changed p = h.changed p) : cache.vouches p h' = cache.vouches p h :=
  vouches_congr (hs.entries hp) hfile

/-- A cache that is shut records nothing, and says the same on both hosts. -/
theorem records_of_shut (hs : cache.Shut w.host w'.host) (hrun : (cache.record p).run w = (r, w₁))
    (hrun' : (cache.record p).run w' = (r', w₁')) :
    r' = r ∧ w₁.host = w.host ∧ w₁'.host = w'.host := by
  obtain ⟨e, he, he'⟩ := hs.barred
  cases hrun.symm.trans (run_record_of_error he.run)
  cases hrun'.symm.trans (run_record_of_error he'.run)
  exact ⟨rfl, rfl, rfl⟩

/-! ### Caches with drawers that are alike -/

/-- Drawers that are alike vouch for the same files. -/
theorem vouches_eq_of_alike (ha : Alike start known (c ++ [name]) h h')
    (hdir : cache.directory = root.down name) (hl : Label root name)
    (hd : h.Drawer root c name) (hd' : h'.Drawer root c name) (ho : h.Orderly) (ho' : h'.Orderly)
    (hp : p.Proper) (hs : h.stat p = .ok (b, .file bytes x t))
    (hs' : h'.stat p = .ok (b', .file bytes x t)) (hpast : known (cacheKey p) → t < start) :
    cache.vouches p h' = cache.vouches p h := by
  have hproper : cache.directory.Proper := hdir ▸ hl.above.down hl.proper
  have hmark := Host.markable_of_stat ho hp hs
  rcases hd.cases hl ho with ⟨hmade, -, htray⟩ | ⟨hfree, hcreatable⟩
  · rcases hd'.cases hl ho' with ⟨-, -, htray'⟩ | ⟨hfree', -⟩
    · rw [← hdir] at htray htray'
      by_cases hfits : cache.Fits p
      · rw [vouches_of_tray ho hproper htray hp hs hfits,
          vouches_of_tray ho' hproper htray' hp hs' hfits]
        rcases ha.markers (cacheKey p) with hsame | ⟨hknown, ⟨n, hn, hyoung⟩, n', hn', hyoung'⟩
        · have hany : ∀ o : Option Node,
              (o.any fun n => t < n.changed) = (o.map Node.changed).any fun m => t < m := by
            rintro (_ | n) <;> rfl
          rw [hany, hany, hsame]
        · -- a marker that has been stamped on both hosts is younger than the file on both
          have hlt := hpast hknown
          have htrue : t < n.changed := Int.lt_of_lt_of_le hlt hyoung
          have htrue' : t < n'.changed := Int.lt_of_lt_of_le hlt hyoung'
          rw [hn, hn']
          simp [htrue, htrue']
      · rw [vouches_of_tray_of_misfit ho hproper htray hmark hfits,
          vouches_of_tray_of_misfit ho' hproper htray' hmark hfits]
    · exact absurd (ha.made.mpr hfree') hmade
  · rcases hd'.cases hl ho' with ⟨hmade', -, -⟩ | ⟨-, hcreatable'⟩
    · exact absurd (ha.made.mp hfree) hmade'
    · rw [← hdir] at hcreatable hcreatable'
      rw [vouches_of_creatable ho hproper hcreatable hmark,
        vouches_of_creatable ho' hproper hcreatable' hmark]

/-- Recording a success in drawers that are alike comes to the same, and keeps them alike. -/
theorem records_of_alike (ha : Alike start known (c ++ [name]) w.host w'.host)
    (hdir : cache.directory = root.down name) (hl : Label root name)
    (hd : w.host.Drawer root c name) (hd' : w'.host.Drawer root c name) (ho : w.host.Orderly)
    (ho' : w'.host.Orderly) (hp : p.Markable) (hknown : known (cacheKey p))
    (hclock : start ≤ w.host.clock) (hclock' : start ≤ w'.host.clock)
    (hrun : (cache.record p).run w = (r, w₁)) (hrun' : (cache.record p).run w' = (r', w₁')) :
    r' = r ∧ w.host.Filed w₁.host root c name (cacheKey p) ∧
      w'.host.Filed w₁'.host root c name (cacheKey p) ∧
      Alike start known (c ++ [name]) w₁.host w₁'.host := by
  obtain ⟨hf, hcases⟩ := filed_of_record hd hl ho hdir hp hrun
  obtain ⟨hf', hcases'⟩ := filed_of_record hd' hl ho' hdir hp hrun'
  have hfiled := ha.filed hf hf' hl (hf.grows.orderly ho) (hf'.grows.orderly ho')
  rcases hcases with ⟨hfits, rfl, n, hn, hchanged⟩ | ⟨hmisfit, rfl, hsame⟩
  · rcases hcases' with ⟨-, rfl, n', hn', hchanged'⟩ | ⟨hmisfit, -⟩
    · exact ⟨rfl, hf, hf', hfiled (.inr ⟨hknown, ⟨n, hn, hchanged ▸ hclock⟩,
        n', hn', hchanged' ▸ hclock'⟩)⟩
    · exact absurd hfits hmisfit
  · rcases hcases' with ⟨hfits, -⟩ | ⟨-, rfl, hsame'⟩
    · exact absurd hfits hmisfit
    · refine ⟨rfl, hf, hf', hfiled ?_⟩
      rw [Host.YoungAt, Host.YoungAt, hsame, hsame']
      exact ha.markers _

end ResultCache

end OptIn
