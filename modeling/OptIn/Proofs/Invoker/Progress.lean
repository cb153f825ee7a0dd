import OptIn.Proofs.Cache.Usable
import OptIn.Proofs.Invoker.Effect

/-!
# Candidates that come to a result

With a usable cache and a runner that answers each command, or says that there is no such tool, a
candidate that is a regular file comes to a result as long as its marker fits (`Invoked.step`); and
if the tool finds no fault it gets one only then (`Invoked.fits_of_success`).
-/

namespace OptIn

open ToolRunner (Answers benign success)
open Host (InStore)

namespace Invoker

variable {i : Invoker} {answers : Answers} {c : Candidate} {h h' : Host} {a b : Address}
  {k k' : Option ToolProbe} {x : Except Fault LintResult} {z : LintResult} {p : ToolProbe}
  {bytes : List UInt8} {y : Bool} {t : Int}

/-- The cache of an invoker, if it has one, is usable. -/
def CacheUsable (i : Invoker) (h : Host) (a : Address) : Prop :=
  ∀ cache, i.cache? = some cache → cache.directory.Proper ∧ h.Offers cache.directory a

theorem CacheUsable.later (hu : i.CacheUsable h a) (hl : h.Later h') : i.CacheUsable h' a :=
  fun cache hc => ⟨(hu cache hc).1, (hu cache hc).2.later hl⟩

/-- Recording a success whose marker fits. -/
theorem Recorded.of_fits {q : Path} {r : Except Fault Unit} (hr : Recorded i q h r h')
    (ho : h.Orderly) (hu : i.CacheUsable h a) (hp : q.Markable)
    (hfits : ∀ cache, i.cache? = some cache → cache.Fits q) :
    r = .ok () ∧ (i.cache? = none ∧ h' = h ∨ ∃ cache, i.cache? = some cache ∧
      h.Stamped h' cache.directory a (cacheKey q)) := by
  cases hr with
  | uncached hc => exact ⟨rfl, .inl ⟨hc, rfl⟩⟩
  | @cached cache w _ w' hc hrun =>
    obtain ⟨hdir, hoffers⟩ := hu cache hc
    obtain ⟨w₁, hrun', hstamped⟩ := cache.run_record_of_offers ho hdir hoffers hp (hfits cache hc)
    rw [hrun] at hrun'
    cases hrun'
    exact ⟨rfl, .inr ⟨cache, hc, hstamped⟩⟩

/-- What a cache says of a file whose marker fits. -/
theorem vouchedBy_of_fits (ho : h.Orderly) (hu : i.CacheUsable h a) (hp : c.path.Proper)
    (hs : h.stat c.path = .ok (b, .file bytes y t))
    (hfits : ∀ cache, i.cache? = some cache → cache.Fits c.path) :
    i.vouchedBy c.path h = .ok (i.cache?.isSome &&
      (h.disk.node? (a ++ [cacheKey c.path])).any fun n => t < n.changed) := by
  rw [vouchedBy]
  rcases hc : i.cache? with _ | cache
  · rfl
  · obtain ⟨hdir, hoffers⟩ := hu cache hc
    exact cache.vouches_of_offers ho hdir hoffers hp hs (hfits cache hc)

/-- A candidate **asks** on a host to be linted: its header does, or all are to be linted. -/
def AsksFor (i : Invoker) (h : Host) (p : Path) : Prop :=
  ∃ bytes, h.read p = .ok bytes ∧ i.asks (i.driver.scanFileText (Text.Utf8.decode bytes)) = true

theorem Linted.step (hl : Linted i answers c k h x k' h')
    (hbenign : ∀ c x, answers c x → benign c x) (ho : h.Orderly) (hu : i.CacheUsable h a)
    (hp : c.path.Markable) (hfits : ∀ cache, i.cache? = some cache → cache.Fits c.path) :
    ∃ z, x = .ok z ∧ z.candidate = c ∧ h.Grows (InStore a) h' ∧ i.CacheUsable h' a := by
  have hrecord : ∀ {h₁ r}, h.Later h₁ → Recorded i c.path h₁ r h' →
      r = .ok () ∧ h.Grows (InStore a) h' ∧ i.CacheUsable h' a := by
    intro h₁ r hlater hr
    have hg := hlater.grows (InStore a)
    obtain ⟨hok, ⟨-, rfl⟩ | ⟨cache, hc, hstamped⟩⟩ :=
      hr.of_fits (hg.orderly ho) (hu.later hlater) hp hfits
    · exact ⟨hok, hg, hu.later hlater⟩
    · refine ⟨hok, hg.trans (hstamped.grows.mono fun b hb => ⟨_, hb⟩), fun cache' hc' => ?_⟩
      obtain rfl : cache = cache' := Option.some.inj (hc.symm.trans hc')
      exact ⟨(hu cache hc).1, .inl hstamped.shelf⟩
  cases hl with
  | passed _ _ hlater hr =>
    obtain ⟨-, hgrows, husable⟩ := hrecord hlater hr
    exact ⟨_, rfl, rfl, hgrows, husable⟩
  | unrecorded _ _ hlater hr =>
    obtain ⟨hok, -, -⟩ := hrecord hlater hr
    cases hok
  | failed _ _ hlater => exact ⟨_, rfl, rfl, hlater.grows _, hu.later hlater⟩
  | missing _ _ hlater => exact ⟨_, rfl, rfl, hlater.grows _, hu.later hlater⟩
  | broken hanswer hmissing => exact absurd (hbenign _ _ hanswer) hmissing

/-- A step of a run: a candidate that is a regular file comes to a result, as long as its marker
fits. -/
theorem Invoked.step (hi : Invoked i answers c k h x k' h')
    (hbenign : ∀ c x, answers c x → benign c x) (ho : h.Orderly) (hu : i.CacheUsable h a)
    (hp : c.path.Proper) (hf : h.isFile c.path = .ok true)
    (hfits : i.AsksFor h c.path → ∀ cache, i.cache? = some cache → cache.Fits c.path) :
    ∃ z, x = .ok z ∧ z.candidate.path = c.path ∧ h.Grows (InStore a) h' ∧
      i.CacheUsable h' a := by
  obtain ⟨b, bytes, y, t, hs⟩ := Host.isFile_eq_true_iff.mp hf
  have hread := Host.read_of_stat hs
  have hmark := Host.markable_of_stat ho hp hs
  cases hi with
  | read hread' hsettled =>
    cases Except.ok.inj (hread.symm.trans hread')
    cases hsettled with
    | skipped => exact ⟨_, rfl, rfl, .refl _ h, hu⟩
    | cached => exact ⟨_, rfl, path_withDirective _ _, .refl _ h, hu⟩
    | unclear hasks hv =>
      rw [vouchedBy_of_fits ho hu hp hs (hfits ⟨bytes, hread, hasks⟩)] at hv
      cases hv
    | unprobed _ _ hprobe =>
      cases hprobe with
      | broken hanswer hmissing => exact absurd (hbenign _ _ hanswer) hmissing
    | unusable _ _ hprobe =>
      have hlater := hprobe.later
      exact ⟨_, rfl, path_withDirective _ _, hlater.grows _, hu.later hlater⟩
    | linted hasks _ hprobe _ hlint =>
      -- the tool has been looked for before, which takes time and changes nothing
      have hlater := hprobe.later
      have hg := hlater.grows (InStore a)
      have hfits' := hfits ⟨bytes, hread, hasks⟩
      rw [← path_withDirective c (i.driver.scanFileText (Text.Utf8.decode bytes))] at hmark hfits'
      obtain ⟨z, rfl, hz, hg', hu'⟩ :=
        hlint.step hbenign (hg.orderly ho) (hu.later hlater) hmark hfits'
      refine ⟨z, rfl, ?_, hg.trans hg', hu'⟩
      rw [hz, path_withDirective]
  | unread hread' | broken hread' =>
    rw [hread] at hread'
    cases hread'

theorem Probed.usable (hp : Probed i success k h (.ok p) k' h')
    (hk : ∀ q, k = some q → q.usable = true) :
    p.usable = true ∧ ∀ q, k' = some q → q.usable = true := by
  cases hp with
  | known => exact ⟨hk p rfl, hk⟩
  | answered hanswer hshown =>
    have husable : p.usable = true := (ToolProbe.usable_of_ofCompleted hshown).mpr hanswer
    exact ⟨husable, fun q hq => Option.some.inj hq ▸ husable⟩
  | missing hanswer => exact hanswer.elim

/-- If the tool finds no fault, a linted candidate gets a result only if its marker fits. -/
theorem Linted.fits_of_success (hl : Linted i success c k h (.ok z) k' h') (ho : h.Orderly)
    (hu : i.CacheUsable h a) (hp : c.path.Markable) :
    k' = k ∧ ∀ cache, i.cache? = some cache → cache.Fits c.path := by
  cases hl with
  | passed _ _ hlater hr =>
    refine ⟨rfl, fun cache hc => ?_⟩
    by_contra hmisfit
    obtain ⟨hdir, hoffers⟩ := (hu.later hlater) cache hc
    cases hr with
    | uncached hnone =>
      rw [hc] at hnone
      cases hnone
    | @cached cache' w _ w' hc' hrun =>
      obtain rfl : cache = cache' := Option.some.inj (hc.symm.trans hc')
      have ho' := (hlater.grows fun _ => False).orderly ho
      obtain ⟨w₁, hrefused⟩ := cache.run_record_of_offers_of_misfit ho' hdir hoffers hp hmisfit
      rw [hrun] at hrefused
      cases hrefused
  | failed hanswer hstatus => exact absurd hanswer hstatus
  | missing hanswer => exact hanswer.elim

/-- If the tool finds no fault, a candidate that asks for linting gets a result only if its marker
fits. -/
theorem Invoked.fits_of_success (hi : Invoked i success c k h (.ok z) k' h') (ho : h.Orderly)
    (hu : i.CacheUsable h a) (hp : c.path.Proper) (hf : h.isFile c.path = .ok true)
    (hk : ∀ q, k = some q → q.usable = true) :
    (i.AsksFor h c.path → ∀ cache, i.cache? = some cache → cache.Fits c.path) ∧
      ∀ q, k' = some q → q.usable = true := by
  obtain ⟨b, bytes, y, t, hs⟩ := Host.isFile_eq_true_iff.mp hf
  have hread := Host.read_of_stat hs
  have hmark := Host.markable_of_stat ho hp hs
  cases hi with
  | read hread' hsettled =>
    cases Except.ok.inj (hread.symm.trans hread')
    cases hsettled with
    | skipped hskip =>
      refine ⟨fun hasks => ?_, hk⟩
      obtain ⟨bytes', hread', hasks⟩ := hasks
      cases Except.ok.inj (hread.symm.trans hread')
      rw [hskip] at hasks
      cases hasks
    | cached _ hv =>
      -- what is vouched for has a marker, so its marker fits
      refine ⟨fun _ cache hc => ?_, hk⟩
      rw [vouchedBy, hc] at hv
      by_contra hmisfit
      obtain ⟨hdir, hoffers⟩ := hu cache hc
      exact cache.vouches_of_misfit ho hdir hoffers hmark hmisfit hv
    | unusable _ _ hprobe hbad =>
      rw [(hprobe.usable hk).1] at hbad
      cases hbad
    | linted _ _ hprobe _ hlint =>
      have hlater := hprobe.later
      rw [← path_withDirective c (i.driver.scanFileText (Text.Utf8.decode bytes))] at hmark ⊢
      obtain ⟨rfl, hfits⟩ := hlint.fits_of_success
        ((hlater.grows fun _ => False).orderly ho) (hu.later hlater) hmark
      exact ⟨fun _ => hfits, (hprobe.usable hk).2⟩
  | unread hread' =>
    rw [hread] at hread'
    cases hread'

end Invoker

end OptIn
