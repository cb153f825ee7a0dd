import OptIn.Proofs.Host.Checked
import OptIn.Proofs.Invoker.Verdict
import OptIn.Proofs.Run.Progress

/-!
# The results of a run as a table

With a steady tool the result of each candidate should be the verdict on it alone: on its file, and
on its marker as it was before the run (`DriverRun.verdictOn`). Through the cache an earlier
candidate can influence a later one, if the names of their markers coincide. `DriverRun.Apart` says
when it does not; a run has the results of the table whenever all its candidates are apart, and, if
no file is from the future, only then (`results_eq_verdicts`).
-/

namespace OptIn

open ToolRunner (Answers Steady)
open Host (InStore)

/-- Whether the first of two times is known to be later than the second. -/
def isLater : Except Fault Int → Except Fault Int → Bool
  | .ok m, .ok t => t < m
  | _, _ => false

/-- What stands at a path was last changed before the present time. -/
def Host.Past (h : Host) (p : Path) : Prop := ∃ t, h.changed p = .ok t ∧ t < h.clock

theorem Host.past_iff {h : Host} {p : Path} {a : Address} {bytes : List UInt8} {y : Bool} {t : Int}
    (hs : h.stat p = .ok (a, .file bytes y t)) : h.Past p ↔ t < h.clock := by
  rw [Past, changed_of_stat hs]
  simp [Node.changed]

theorem ResultCache.isLater_of_vouches {c : ResultCache} {p : Path} {h : Host} {b : Bool}
    (hv : c.vouches p h = .ok b) : isLater (h.changed (c.entry p)) (h.changed p) = b := by
  rw [vouches, times] at hv
  rcases hm : h.changed (c.entry p) with e | m
  · rw [hm] at hv
    simp only [bind, Except.bind, younger] at hv
    split at hv
    · exact Except.ok.inj hv
    · cases hv
  · rcases ht : h.changed p with e | t
    · rw [hm, ht] at hv
      simp only [bind, Except.bind, younger] at hv
      split at hv
      · exact Except.ok.inj hv
      · cases hv
    · rw [hm, ht] at hv
      exact Except.ok.inj hv

namespace DriverRun

/-- The directive in the header of a file. -/
def directiveAt (r : DriverRun) (h : Host) (p : Path) : Directive :=
  r.driver.scanFileText (Text.Utf8.decode ((h.read p).toOption.getD []))

/-- Whether there is a marker of a file that is younger than the file. -/
def vouchedOn (r : DriverRun) (h : Host) (p : Path) : Bool :=
  r.driver.useCache && isLater (h.changed (r.store.entry p)) (h.changed p)

/-- The verdict on a candidate alone, with its file and its marker as they are on a host. -/
def verdictOn (r : DriverRun) (version : Option Int) (code : List String → Int) (h : Host)
    (c : Candidate) : LintResult :=
  r.invoker.verdict version code c (r.directiveAt h c.path) (r.vouchedOn h c.path)

/-- A candidate and a later one are **apart** when a success of the first cannot be taken for one of
the second: their markers have different names, or it makes no difference, as the second is skipped,
or vouched for anyway and not from the future. -/
def Apart (r : DriverRun) (version : Option Int) (code : List String → Int) (h : Host)
    (c d : Candidate) : Prop :=
  r.driver.useCache = true → (r.verdictOn version code h c).classification = .passed →
    cacheKey c.path = cacheKey d.path →
      (r.verdictOn version code h d).classification = .skipped ∨
        (r.verdictOn version code h d).classification = .cached ∧ h.Past d.path

variable {r : DriverRun} {version : Option Int} {code : List String → Int} {h h' h₀ : Host}
  {a : Address} {seen ps : List Path} {k k' : Option ToolProbe} {xs : List LintResult}
  {e : Option Fault} {done cs : List Candidate} {c : Candidate} {p : Path}

/-- What is known in the middle of a run whose results so far are their verdicts: the markers of the
successes are young, the others are as they were before. -/
structure Told (r : DriverRun) (version : Option Int) (code : List String → Int) (a : Address)
    (h₀ : Host) (done : List Candidate) (k : Option ToolProbe) (h : Host) : Prop where
  grows : h₀.Grows (InStore a) h
  usable : r.invoker.CacheUsable h a
  known : Invoker.Known version k
  same : r.driver.useCache = true → ∀ key,
    (∀ c ∈ done, (r.verdictOn version code h₀ c).classification = .passed →
      cacheKey c.path ≠ key) → h.disk.node? (a ++ [key]) = h₀.disk.node? (a ++ [key])
  young : r.driver.useCache = true → ∀ c ∈ done,
    (r.verdictOn version code h₀ c).classification = .passed →
      ∃ n, h.disk.node? (a ++ [cacheKey c.path]) = some n ∧ h₀.clock ≤ n.changed

theorem Told.refl (hu : r.invoker.CacheUsable h a) : r.Told version code a h [] none h where
  grows := .refl _ h
  usable := hu
  known _ hp := nomatch hp
  same _ _ _ := rfl
  young _ _ hc := nomatch hc

theorem isSome_cache? : r.invoker.cache?.isSome = r.driver.useCache := by
  rw [cache?_invoker, DriverRun.cache?]
  split
  · rename_i huse
    rw [huse]
    rfl
  · rename_i huse
    simpa using huse

/-- Behind a candidate whose result is its verdict. -/
theorem Told.next (ht : r.Told version code a h₀ done k h) (hk : Invoker.Known version k')
    (hleaves : r.invoker.Leaves a c.path h (r.verdictOn version code h₀ c).classification h') :
    r.Told version code a h₀ (c :: done) k' h' := by
  generalize hx : (r.verdictOn version code h₀ c).classification = x at hleaves
  cases hleaves with
  | later hnone hlater =>
    refine ⟨ht.grows.trans (hlater.grows _), ht.usable.later hlater, hk, fun huse key hkey => ?_,
      fun huse d hd hpassed => ?_⟩
    · rw [hlater.disk_eq]
      exact ht.same huse key fun d hd => hkey d (List.mem_cons_of_mem _ hd)
    · rw [hlater.disk_eq]
      rcases List.mem_cons.mp hd with rfl | hd
      · have hcache := isSome_cache? (r := r)
        rw [hnone (hx.symm.trans hpassed), huse] at hcache
        cases hcache
      · exact ht.young huse d hd hpassed
  | @stamped cache h₁ _ hc hlater hstamped =>
    -- the marker of this candidate bears a time of the run, and the others are as they were
    have hclock : h₀.clock ≤ h₁.clock := Int.le_trans ht.grows.clock hlater.clock_le
    refine ⟨ht.grows.trans ((hlater.grows _).trans (hstamped.grows.mono fun b hb => ⟨_, hb⟩)),
      fun cache' hc' => ?_, hk, fun huse key hkey => ?_, fun huse d hd hpassed => ?_⟩
    · obtain rfl : cache = cache' := Option.some.inj (hc.symm.trans hc')
      exact ⟨(ht.usable cache hc).1, .inl hstamped.shelf⟩
    · rw [hstamped.others (hkey c List.mem_cons_self hx).symm, hlater.disk_eq]
      exact ht.same huse key fun d hd => hkey d (List.mem_cons_of_mem _ hd)
    · by_cases hkey : cacheKey d.path = cacheKey c.path
      · obtain ⟨bytes, y, hmarker⟩ := hstamped.marker
        rw [hkey]
        exact ⟨_, hmarker, hclock⟩
      · rw [hstamped.others hkey, hlater.disk_eq]
        rcases List.mem_cons.mp hd with rfl | hd
        · exact absurd rfl hkey
        · exact ht.young huse d hd hpassed

/-- The table asks whether there is a younger marker, which is what the cache answers. -/
theorem vouchesAt_eq_vouchedOn {b : Address} {bytes : List UInt8} {y : Bool} {t : Int}
    (ho : h.Orderly) (hu : r.invoker.CacheUsable h a) (hp : p.Proper)
    (hs : h.stat p = .ok (b, .file bytes y t)) (hfits : ∀ cache, r.invoker.cache? = some cache →
      cache.Fits p) : r.invoker.vouchesAt h a p t = r.vouchedOn h p := by
  rw [Invoker.vouchesAt, vouchedOn, isSome_cache?]
  rcases huse : r.driver.useCache with _ | _
  · rw [Bool.false_and, Bool.false_and]
  · have hc : r.invoker.cache? = some r.store := cache?_eq_some_iff.mpr ⟨huse, rfl⟩
    obtain ⟨hdir, hoffers⟩ := hu _ hc
    rw [ResultCache.isLater_of_vouches
      (r.store.vouches_of_offers ho hdir hoffers hp hs (hfits _ hc))]

/-- The cache answers as before the run, if no success so far has a marker of the same name. -/
theorem Told.vouchesAt_eq (ht : r.Told version code a h₀ done k h) {t : Int}
    (hno : r.driver.useCache = true → ∀ d ∈ done,
      (r.verdictOn version code h₀ d).classification = .passed →
        cacheKey d.path ≠ cacheKey p) :
    r.invoker.vouchesAt h a p t = r.invoker.vouchesAt h₀ a p t := by
  rw [Invoker.vouchesAt, Invoker.vouchesAt, isSome_cache?]
  rcases huse : r.driver.useCache with _ | _
  · rw [Bool.false_and, Bool.false_and]
  · rw [ht.same huse _ (hno huse)]

/-- After a success with a marker of the same name, the cache vouches for any older file. -/
theorem Told.vouchesAt_eq_true (ht : r.Told version code a h₀ done k h) {t : Int} {d : Candidate}
    (huse : r.driver.useCache = true) (hd : d ∈ done)
    (hpassed : (r.verdictOn version code h₀ d).classification = .passed)
    (hkey : cacheKey d.path = cacheKey p) (htime : t < h₀.clock) :
    r.invoker.vouchesAt h a p t = true := by
  obtain ⟨n, hn, hyoung⟩ := ht.young huse d hd hpassed
  rw [hkey] at hn
  rw [Invoker.vouchesAt, isSome_cache?, huse, hn]
  simpa using Int.lt_of_lt_of_le htime hyoung

theorem asksFor_iff_of_stat {b : Address} {bytes : List UInt8} {y : Bool} {t : Int}
    (hs : h.stat p = .ok (b, .file bytes y t)) :
    r.invoker.AsksFor h p ↔ r.invoker.asks (r.directiveAt h p) = true := by
  have hread := Host.read_of_stat hs
  have hdirective : r.directiveAt h p = r.driver.scanFileText (Text.Utf8.decode bytes) := by
    rw [directiveAt, hread]
    rfl
  rw [hdirective]
  constructor
  · rintro ⟨bytes', hread', hasks⟩
    cases Except.ok.inj (hread.symm.trans hread')
    exact hasks
  · exact fun hasks => ⟨bytes, hread, hasks⟩

/-- The verdict on the answer that the cache gives now is that of the table, if all earlier
candidates are apart. -/
theorem Told.verdict_eq (ht : r.Told version code a h₀ done k h) {t : Int}
    (hvouched : r.invoker.asks (r.directiveAt h₀ c.path) = true →
      r.invoker.vouchesAt h₀ a c.path t = r.vouchedOn h₀ c.path)
    (htime : h₀.Past c.path → t < h₀.clock) (hapart : ∀ d ∈ done, r.Apart version code h₀ d c) :
    r.invoker.verdict version code c (r.directiveAt h₀ c.path)
      (r.invoker.vouchesAt h a c.path t) = r.verdictOn version code h₀ c := by
  rw [verdictOn]
  rcases hasks : r.invoker.asks (r.directiveAt h₀ c.path) with _ | _
  · exact Invoker.verdict_eq_of_not_asks hasks
  · have hvouched := hvouched hasks
    rw [← hvouched]
    by_cases hno : r.driver.useCache = true → ∀ d ∈ done,
        (r.verdictOn version code h₀ d).classification = .passed → cacheKey d.path ≠ cacheKey c.path
    · rw [ht.vouchesAt_eq hno]
    · -- a success of the same name makes no difference, as the candidate was vouched for before
      push Not at hno
      obtain ⟨huse, d, hmem, hpassed, hkey⟩ := hno
      rcases hapart d hmem huse hpassed hkey with hskipped | ⟨hcached, hpast⟩
      · rw [verdictOn, Invoker.classification_verdict_eq_skipped_iff, hasks] at hskipped
        cases hskipped
      · rw [verdictOn, Invoker.classification_verdict_eq_cached_iff] at hcached
        rw [hvouched, hcached.2, ht.vouchesAt_eq_true huse hmem hpassed hkey (htime hpast)]

/-- For a file that is not from the future, it is so only then. -/
theorem Told.apart (ht : r.Told version code a h₀ done k h) {t : Int} (hpast : h₀.Past c.path)
    (htime : t < h₀.clock)
    (hverdict : r.invoker.verdict version code c (r.directiveAt h₀ c.path)
      (r.invoker.vouchesAt h a c.path t) = r.verdictOn version code h₀ c) :
    ∀ d ∈ done, r.Apart version code h₀ d c := by
  intro d hmem huse hpassed hkey
  rcases hasks : r.invoker.asks (r.directiveAt h₀ c.path) with _ | _
  · left
    rw [verdictOn, Invoker.classification_verdict_eq_skipped_iff, hasks]
  · right
    refine ⟨?_, hpast⟩
    rw [← hverdict, ht.vouchesAt_eq_true huse hmem hpassed hkey htime,
      Invoker.classification_verdict_eq_cached_iff]
    exact ⟨hasks, rfl⟩

/-- A step of a run: the result is the verdict of the table if all earlier candidates are apart; for
a file that is not from the future, only then. -/
theorem Told.judged {x : Except Fault LintResult} (ht : r.Told version code a h₀ done k h)
    (ho : h₀.Orderly) (hu : r.invoker.CacheUsable h₀ a) (hd : h₀.Delivered c.path)
    (hout : ¬InStore a c.path.parts) (hf : h₀.isFile c.path = .ok true)
    (hfits : r.invoker.AsksFor h₀ c.path → ∀ cache, r.invoker.cache? = some cache →
      cache.Fits c.path)
    (hi : r.invoker.Invoked (Steady r.driver.tool version code) c k h x k' h') :
    ∃ z, x = .ok z ∧
      (z = r.verdictOn version code h₀ c → r.Told version code a h₀ (c :: done) k' h') ∧
      ((∀ d ∈ done, r.Apart version code h₀ d c) → z = r.verdictOn version code h₀ c) ∧
      (h₀.Past c.path → z = r.verdictOn version code h₀ c →
        ∀ d ∈ done, r.Apart version code h₀ d c) := by
  obtain ⟨b, bytes, y, t, hs₀⟩ := Host.isFile_eq_true_iff.mp hf
  obtain rfl : b = c.path.parts := hd.toResolved.address_eq ho hs₀
  -- the file has not changed since the run began, for it is not in the store
  obtain ⟨t', hs, hsame⟩ := ht.grows.stat_file ho hd.proper hs₀
  obtain rfl := hsame hout
  have hdirective : r.invoker.driver.scanFileText (Text.Utf8.decode bytes) =
      r.directiveAt h₀ c.path := by
    rw [directiveAt, Host.read_of_stat hs₀]
    rfl
  have ho' := ht.grows.orderly ho
  obtain ⟨hk', z, rfl, hleaves, hz⟩ := hi.eq_verdict ho' ht.usable hd.proper hs (fun hasks =>
    hfits ((asksFor_iff_of_grows ht.grows ho hd.proper hf).mp hasks)) ht.known
  rw [hdirective] at hz
  have htime := (Host.past_iff hs₀).mp
  refine ⟨z, rfl, fun hverdict => ht.next hk' (hverdict ▸ hleaves), fun hapart => ?_,
    fun hpast hverdict => ht.apart hpast (htime hpast) (hz.symm.trans hverdict)⟩
  rw [hz]
  exact ht.verdict_eq (fun hasks => vouchesAt_eq_vouchedOn ho hu hd.proper hs₀
    (hfits ((asksFor_iff_of_stat hs₀).mpr hasks))) htime hapart

/-- Files whose paths are written without `%` are apart. -/
theorem pairwise_apart (ho : h.Orderly) (hps : ∀ p ∈ ps, h.Delivered p)
    (hmark : ∀ p ∈ ps, ∀ s ∈ p.parts, '%' ∉ s.toList)
    (hcs : r.driver.classifiedAfter r.detect h seen ps = .ok cs) :
    cs.Pairwise (r.Apart version code h) := by
  have hfile : ∀ c ∈ cs, c.path ∈ ps ∧ c.path.Markable := by
    intro c hc
    obtain ⟨hmem, hf⟩ := Driver.mem_of_mem_classifiedAfter hcs hc
    obtain ⟨b, bytes, y, t, hs⟩ := Host.isFile_eq_true_iff.mp hf
    exact ⟨hmem, Host.markable_of_stat ho (hps _ hmem).proper hs⟩
  refine (Driver.pairwise_of_classifiedAfter hcs).1.imp_of_mem fun {c d} hc hd hne _ _ hkey => ?_
  obtain ⟨hcmem, hc⟩ := hfile c hc
  obtain ⟨hdmem, hd⟩ := hfile d hd
  have hparts := parts_eq_of_cacheKey_eq_cacheKey hc.proper hd.proper hc.ne_nil hd.ne_nil
    (hmark _ hcmem) (hmark _ hdmem) hkey
  have hanchor := (hps _ hcmem).anchor.trans (hps _ hdmem).anchor.symm
  exact absurd (Path.ext hanchor hparts) hne

/-- Candidates to come are apart from each other and from those that are done. -/
def AllApart (r : DriverRun) (version : Option Int) (code : List String → Int) (h : Host)
    (done cs : List Candidate) : Prop :=
  (∀ c ∈ done, ∀ d ∈ cs, r.Apart version code h c d) ∧ cs.Pairwise (r.Apart version code h)

theorem allApart_cons_iff : r.AllApart version code h done (c :: cs) ↔
    (∀ d ∈ done, r.Apart version code h d c) ∧ r.AllApart version code h (c :: done) cs := by
  rw [AllApart, AllApart, List.pairwise_cons]
  constructor
  · rintro ⟨hdone, hfirst, hpair⟩
    refine ⟨fun d hd => hdone d hd c List.mem_cons_self, fun d hd e he => ?_, hpair⟩
    rcases List.mem_cons.mp hd with rfl | hd
    · exact hfirst e he
    · exact hdone d hd e (List.mem_cons_of_mem _ he)
  · rintro ⟨hc, hdone, hpair⟩
    refine ⟨fun d hd e he => ?_, fun e he => hdone c List.mem_cons_self e he, hpair⟩
    rcases List.mem_cons.mp he with rfl | he
    · exact hc d hd
    · exact hdone d (List.mem_cons_of_mem _ hd) e he

/-- In the middle of a run a path makes the candidate that it made at its start. -/
theorem Told.considered_eq (ht : r.Told version code a h₀ done k h) (ho : h₀.Orderly)
    (hdetect : r.detect = shebangDetector) (hp : h₀.Delivered p ∧ ¬InStore a p.parts) :
    r.driver.considered r.detect seen p h = r.driver.considered r.detect seen p h₀ := by
  rw [hdetect]
  exact (hp.1.listed hp.2).considered_eq ht.grows ho r.driver seen

/-- A step of a run, seen from the candidates to come: it is the first of them that is judged. -/
theorem Told.judged_head {x : Except Fault LintResult} (ht : r.Told version code a h₀ done k h)
    (ho : h₀.Orderly) (hdetect : r.detect = shebangDetector) (hu : r.invoker.CacheUsable h₀ a)
    (hp : h₀.Delivered p ∧ ¬InStore a p.parts)
    (hcs : r.driver.classifiedAfter r.detect h₀ seen (p :: ps) = .ok cs) (hfits : r.AllFit h₀ cs)
    (hc : r.driver.considered r.detect seen p h = .ok (some c))
    (hi : r.invoker.Invoked (Steady r.driver.tool version code) c k h x k' h') :
    ∃ z cs', x = .ok z ∧ cs = c :: cs' ∧
      r.driver.classifiedAfter r.detect h₀ (p :: seen) ps = .ok cs' ∧ r.AllFit h₀ cs' ∧
      (z = r.verdictOn version code h₀ c → r.Told version code a h₀ (c :: done) k' h') ∧
      ((∀ d ∈ done, r.Apart version code h₀ d c) → z = r.verdictOn version code h₀ c) ∧
      (h₀.Past c.path → z = r.verdictOn version code h₀ c →
        ∀ d ∈ done, r.Apart version code h₀ d c) := by
  rw [ht.considered_eq ho hdetect hp] at hc
  obtain ⟨cs', rfl, hrest⟩ := Driver.exists_of_classifiedAfter_cons hc hcs
  obtain ⟨heq, -, hfile⟩ := Driver.eq_of_considered hc
  obtain rfl : c.path = p := by rw [heq]
  obtain ⟨z, hz, hsteps⟩ := ht.judged ho hu hp.1 hp.2 hfile (hfits _ List.mem_cons_self) hi
  exact ⟨z, cs', hz, rfl, hrest, fun d hd => hfits d (List.mem_cons_of_mem _ hd), hsteps⟩

/-- A run without a fault whose candidates are apart has the results of the table, and leaves the
markers as the table tells. -/
theorem Treated.told
    (ht : Treated r (Steady r.driver.tool version code) seen ps k h xs e k' h')
    (he : e = none) (ho : h₀.Orderly) (hdetect : r.detect = shebangDetector)
    (hu : r.invoker.CacheUsable h₀ a) (hps : ∀ p ∈ ps, h₀.Delivered p ∧ ¬InStore a p.parts)
    (hcs : r.driver.classifiedAfter r.detect h₀ seen ps = .ok cs) (hfits : r.AllFit h₀ cs)
    (htold : r.Told version code a h₀ done k h) (hapart : r.AllApart version code h₀ done cs) :
    xs = cs.map (r.verdictOn version code h₀) ∧
      r.Told version code a h₀ (cs.reverse ++ done) k' h' := by
  induction ht generalizing done cs with
  | done =>
    cases hcs
    exact ⟨rfl, htold⟩
  | passedOver hc _ ih =>
    rw [htold.considered_eq ho hdetect (hps _ List.mem_cons_self)] at hc
    rw [Driver.classifiedAfter_of_none hc] at hcs
    exact ih he (fun p hp => hps p (List.mem_cons_of_mem _ hp)) hcs hfits htold hapart
  | refused => cases he
  | broken => cases he
  | judged hc hi _ ih =>
    obtain ⟨z, cs', hz, rfl, hrest, hfits', hnext, hverdict, -⟩ :=
      htold.judged_head ho hdetect hu (hps _ List.mem_cons_self) hcs hfits hc hi
    cases hz
    obtain ⟨hdone, hcs'⟩ := allApart_cons_iff.mp hapart
    obtain ⟨hxs, htold'⟩ := ih he (fun p hp => hps p (List.mem_cons_of_mem _ hp)) hrest hfits'
      (hnext (hverdict hdone)) hcs'
    rw [List.map_cons, hxs, hverdict hdone, List.reverse_cons, List.append_assoc]
    exact ⟨rfl, htold'⟩

/-- A run without a fault has the results of the table if its candidates are apart; if no file is
from the future, only then. -/
theorem Treated.results_eq
    (ht : Treated r (Steady r.driver.tool version code) seen ps k h xs e k' h')
    (he : e = none) (ho : h₀.Orderly) (hdetect : r.detect = shebangDetector)
    (hu : r.invoker.CacheUsable h₀ a) (hps : ∀ p ∈ ps, h₀.Delivered p ∧ ¬InStore a p.parts)
    (hcs : r.driver.classifiedAfter r.detect h₀ seen ps = .ok cs) (hfits : r.AllFit h₀ cs)
    (htold : r.Told version code a h₀ done k h) :
    (r.AllApart version code h₀ done cs → xs = cs.map (r.verdictOn version code h₀)) ∧
      ((∀ c ∈ cs, h₀.Past c.path) → xs = cs.map (r.verdictOn version code h₀) →
        r.AllApart version code h₀ done cs) := by
  refine ⟨fun hapart => (ht.told he ho hdetect hu hps hcs hfits htold hapart).1, ?_⟩
  -- as long as the results have been their verdicts, so that `Told` holds
  induction ht generalizing done cs with
  | done =>
    cases hcs
    exact fun _ _ => ⟨fun _ _ _ hd => (nomatch hd), .nil⟩
  | passedOver hc _ ih =>
    rw [htold.considered_eq ho hdetect (hps _ List.mem_cons_self)] at hc
    rw [Driver.classifiedAfter_of_none hc] at hcs
    exact ih he (fun p hp => hps p (List.mem_cons_of_mem _ hp)) hcs hfits htold
  | refused => cases he
  | broken => cases he
  | judged hc hi _ ih =>
    obtain ⟨z, cs', hz, rfl, hrest, hfits', hnext, -, honly⟩ :=
      htold.judged_head ho hdetect hu (hps _ List.mem_cons_self) hcs hfits hc hi
    cases hz
    intro hpast hxs
    obtain ⟨hverdict, hxs⟩ := List.cons.inj hxs
    have hrest' := ih he (fun p hp => hps p (List.mem_cons_of_mem _ hp)) hrest hfits'
      (hnext hverdict) (fun c hc => hpast c (List.mem_cons_of_mem _ hc)) hxs
    exact allApart_cons_iff.mpr ⟨honly (hpast _ List.mem_cons_self) hverdict, hrest'⟩

/-- Where a run keeps its successes; without a cache, a place where no path can lead. -/
theorem exists_store {ps : List Path} (hps : ∀ p ∈ ps, h.Delivered p)
    (hcache : r.driver.useCache = true →
      h.Offers r.store.directory a ∧ ∀ p ∈ ps, ¬InStore a p.parts) :
    ∃ b, (r.driver.useCache = true → h.Offers r.store.directory b) ∧
      ∀ p ∈ ps, ¬InStore b p.parts := by
  rcases huse : r.driver.useCache with _ | _
  · refine ⟨["/"], fun h => (nomatch h), fun p hp hin => ?_⟩
    obtain ⟨name, hname⟩ := hin
    have hslash : Path.ProperName "/" := (hps p hp).proper _ (by simp [hname])
    exact hslash.noSlash (by decide)
  · exact ⟨a, fun _ => (hcache huse).1, (hcache huse).2⟩

/-- **The results of a run.** With a steady tool and a cache that can be used, a run on paths as
sources deliver them, none of them right in the cache, comes to its end if the markers of all
candidates fit. Its results are the verdicts on the candidates, each alone, if all candidates are
apart. If no candidate is from the future, they are the verdicts only then. -/
theorem results_eq_verdicts (r : DriverRun) (version : Option Int) (code : List String → Int)
    (w : World) (ps : List Path) (a : Address)
    (hq : r.runner.Quiet (Steady r.driver.tool version code)) (ho : w.host.Orderly)
    (hdetect : r.detect = shebangDetector) (hroot : w.host.Reachable r.settings.root)
    (hps : ∀ p ∈ ps, w.host.Delivered p) (hproper : r.settings.cacheRoot.Proper)
    (hcache : r.driver.useCache = true →
      w.host.Offers r.store.directory a ∧ ∀ p ∈ ps, ¬InStore a p.parts) :
    ∃ cs w₁, (r.driver.classify r.detect ps).run w = (.ok cs, w₁) ∧
      ((r.driver.useCache = true →
          ∀ c ∈ cs, r.invoker.AsksFor w.host c.path → r.store.Fits c.path) →
        ∃ o w₂, (r.run (.ofPaths ps)).run w = (.ok o, w₂) ∧
          (cs.Pairwise (r.Apart version code w.host) →
            o.summary.results = cs.map (r.verdictOn version code w.host)) ∧
          ((∀ c ∈ cs, w.host.Past c.path) →
            o.summary.results = cs.map (r.verdictOn version code w.host) →
              cs.Pairwise (r.Apart version code w.host))) := by
  obtain ⟨b, hoffers, hout⟩ := exists_store hps hcache
  have hu := cacheUsable_of_offers hproper hoffers
  have hlisted : ∀ p ∈ ps, Host.Listed w.host b p := fun p hp => (hps p hp).listed (hout p hp)
  obtain ⟨cs, hcs⟩ := Driver.exists_classifiedAfter r.driver [] fun p hp =>
    (hlisted p hp).exists_isFile ho
  rw [← hdetect] at hcs
  obtain ⟨w₁, hclassify, -⟩ := Driver.run_classifyAfter r.driver r.detect [] ps w
  rw [hcs] at hclassify
  refine ⟨cs, w₁, hclassify, fun hfits => ?_⟩
  have hbenign : ∀ c x, Steady r.driver.tool version code c x → ToolRunner.benign c x :=
    fun _ _ => ToolRunner.benign_of_steady
  have hreach : ∀ c ∈ cs, w.host.Reachable c.path := by
    intro c hc
    obtain ⟨hmem, hfile⟩ := Driver.mem_of_mem_classifiedAfter hcs hc
    obtain ⟨d, bytes, x, t, hs⟩ := Host.isFile_eq_true_iff.mp hfile
    exact (hps _ hmem).toResolved.reachable hs
  obtain ⟨o, w₂, hrun, -⟩ := exists_run_of_allFit (hq.mono hbenign) hdetect hroot hreach
    ⟨ho, hu, hlisted, hcs⟩ (allFit_iff.mpr hfits)
  obtain ⟨hfault, hresults⟩ := trace_of_run hrun
  obtain ⟨heq, honly⟩ := (treated_trace hq [] ps ⟨w, none⟩).results_eq hfault ho hdetect hu
    (fun p hp => ⟨hps p hp, hout p hp⟩) hcs (allFit_iff.mpr hfits) (.refl hu)
  rw [← hresults] at heq honly
  exact ⟨o, w₂, hrun, fun hpair => heq ⟨fun _ hc => (nomatch hc), hpair⟩,
    fun hpast h => (honly hpast h).2⟩

/-- Two files that ask for linting, with markers of different names: both get their verdicts. -/
theorem results_eq_verdicts_sample : ∃ o w,
    ((sample 0).run (.ofPaths [.absolute ["r", "a.py"], .absolute ["r", "b.py"]])).run
        ⟨.holding [["r"], ["r", "cache"], ["r", "cache", "python"]]
          [(["r", "a.py"], sampleBytes), (["r", "b.py"], sampleBytes)], []⟩ = (.ok o, w) ∧
      o.summary.results.map (·.classification) = [.passed, .passed] := by
  generalize hw : World.mk _ [] = w
  have ho : w.host.Orderly := hw ▸ by decide +kernel
  have hroot : w.host.stat (.absolute ["r"]) = .ok (["r"], .directory 0) := hw ▸ by decide +kernel
  have hshelf : w.host.Shelf (sample 0).store.directory ["r", "cache", "python"] :=
    hw ▸ by decide +kernel
  have hps : ∀ p ∈ [Path.absolute ["r", "a.py"], .absolute ["r", "b.py"]], w.host.Delivered p :=
    hw ▸ by decide +kernel
  have hcs : (((sample 0).driver.classify (sample 0).detect
      [.absolute ["r", "a.py"], .absolute ["r", "b.py"]]).run w).1 =
      .ok [⟨.absolute ["r", "a.py"], .python, []⟩, ⟨.absolute ["r", "b.py"], .python, []⟩] :=
    hw ▸ by decide +kernel
  have hverdicts : ([⟨.absolute ["r", "a.py"], .python, []⟩,
      ⟨.absolute ["r", "b.py"], .python, []⟩] : List Candidate).map (fun c =>
        ((sample 0).verdictOn (some 0) (fun _ => 0) w.host c).classification) =
      [.passed, .passed] := hw ▸ by decide +kernel
  obtain ⟨cs, w₁, hclassify, hruns⟩ := results_eq_verdicts (sample 0) (some 0) (fun _ => 0) w
    [.absolute ["r", "a.py"], .absolute ["r", "b.py"]] ["r", "cache", "python"]
    (ToolRunner.quiet_answering_steady (sample 0).driver.tool fun _ => 0) ho rfl
    (Host.Resolved.reachable (hw ▸ by decide +kernel) hroot) hps (by decide)
    fun _ => ⟨.inl hshelf, by
      rintro p hp ⟨name, hname⟩
      have hlength : p.parts.length = 2 := by
        rcases List.mem_pair.mp hp with rfl | rfl <;> rfl
      rw [hname] at hlength
      simp at hlength⟩
  rw [hclassify] at hcs
  cases hcs
  obtain ⟨o, w₂, hrun, hresults, -⟩ := hruns fun _ c hc _ => by
    rcases List.mem_pair.mp hc with rfl | rfl <;> decide +kernel
  refine ⟨o, w₂, hrun, ?_⟩
  rw [hresults (List.pairwise_pair.mpr fun _ _ hkey => absurd hkey (by decide +kernel)),
    List.map_map]
  exact hverdicts

/-- Of two files whose markers share a name, the second should pass as well, but the success of the
first is taken for its own. -/
theorem results_ne_verdicts :
    ∃ h : Host, h.Orderly ∧ h.Shelf (sample 0).store.directory ["r", "cache", "python"] ∧
      (∀ p ∈ [Path.absolute ["r", "a", "b.py"], .absolute ["r", "a%b.py"]], h.Delivered p) ∧
      (sample 0).runner.Quiet (Steady (sample 0).driver.tool (some 0) fun _ => 0) ∧
      (((sample 0).run (.ofPaths
        [.absolute ["r", "a", "b.py"], .absolute ["r", "a%b.py"]])).run ⟨h, []⟩).1.toOption.map
          (·.summary.results.map (·.classification)) = some [.passed, .cached] ∧
      ((sample 0).verdictOn (some 0) (fun _ => 0) h
        ⟨.absolute ["r", "a%b.py"], .python, []⟩).classification = .passed := by
  refine ⟨.holding [["r"], ["r", "a"], ["r", "cache"], ["r", "cache", "python"]]
    [(["r", "a", "b.py"], sampleBytes), (["r", "a%b.py"], sampleBytes)], ?_⟩
  refine ⟨?_, ?_, ?_, ToolRunner.quiet_answering_steady (sample 0).driver.tool fun _ => 0, ?_, ?_⟩
  · decide +kernel
  · decide +kernel
  · decide +kernel
  · decide +kernel
  · decide +kernel

end DriverRun

end OptIn
