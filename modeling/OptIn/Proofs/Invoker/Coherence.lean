import OptIn.Proofs.Cache.AnyState
import OptIn.Proofs.Invoker.Availability

/-!
# Results that hang together

A result has a candidate, a classification and a status, and only some combinations make sense: a
status is there exactly if the tool has been wanted, and it is 0 exactly for a file that has passed
(`LintResult.Coherent`). `Invoker.coherent_of_run` says this of every result that an invoker gives,
together with where the result comes from: which arguments its candidate has, that a file which has
been skipped or vouched for has cost no command, and that a marker is written for a file that has
passed, if there is a cache to write it to, and for no other. The runner may answer and do what it
likes.
-/

namespace OptIn

/-- A result is **coherent** when its status says the same as its classification. -/
structure LintResult.Coherent (r : LintResult) : Prop where
  absent : r.status = none ↔ r.classification = .skipped ∨ r.classification = .cached
  zero : r.status = some 0 ↔ r.classification = .passed
  other : (∃ n, r.status = some n ∧ n ≠ 0) ↔ r.classification = .failed

/-- A header that does not ask for linting gives no arguments. -/
theorem Directive.options_ofFindings {f : Findings} (hd : (ofFindings f).enabled = false) :
    (ofFindings f).options = [] := by
  rw [ofFindings] at hd ⊢
  split_ifs with hoptions hmark
  · simp [hoptions, enabled] at hd
  · rfl
  · rfl

/-! ### Markers that have been written -/

namespace ResultCache

variable {cache : ResultCache} {p : Path} {h h' : Host}

/-- Between two hosts the marker of a path has been written. -/
def Marks (cache : ResultCache) (p : Path) (h h' : Host) : Prop :=
  ∃ w w', w.host = h ∧ (cache.record p).run w = (.ok (), w') ∧ w'.host = h'

/-- A marker that has been written is there, and bears the time of its writing. -/
theorem Marks.changed_entry (hm : cache.Marks p h h') (ho : h.Orderly)
    (hdir : cache.directory.Proper) : h'.changed (cache.entry p) = .ok h.clock := by
  obtain ⟨w, w', rfl, hrun, rfl⟩ := hm
  rcases hmake : (Host.makeDirectories cache.directory).run w.host with ⟨e | ⟨⟩, h₁⟩
  · cases hrun.symm.trans (run_record_of_error hmake)
  · obtain ⟨hg, hclock, -⟩ := Host.grows_makeDirectories ho hdir hmake
    rcases htouch : (Host.touch (cache.entry p)).run h₁ with ⟨r, h₂⟩
    obtain ⟨w₁, hrun', rfl⟩ := run_record_of_ok hmake htouch
    cases hrun.symm.trans hrun'
    rw [← hclock]
    exact Host.changed_of_touch (hg.orderly ho) (hdir.child _) htouch

end ResultCache

namespace Invoker

variable {i : Invoker} {c : Candidate} {v : Invocation} {r : LintResult} {k k' : Option ToolProbe}
  {xs : List Exchange} {h h₁ h' : Host}

/-! ### The arguments of a candidate -/

/-- The arguments with which a candidate is linted: those in the header of its file, if that can be
read and asks for linting with any, and otherwise its own. -/
def optionsFor (i : Invoker) (h : Host) (c : Candidate) : List String :=
  match h.read c.path with
  | .error _ => c.options
  | .ok bytes =>
    let d := i.driver.scanFileText (Text.Utf8.decode bytes)
    if d.enabled = true ∧ d.options ≠ [] then d.options else c.options

theorem optionsFor_of_error {e : Fault} (hread : h.read c.path = .error e) :
    { c with options := i.optionsFor h c } = c := by
  rw [optionsFor, hread]

theorem optionsFor_of_not_enabled {bytes : List UInt8} (hread : h.read c.path = .ok bytes)
    (hd : (i.driver.scanFileText (Text.Utf8.decode bytes)).enabled = false) :
    { c with options := i.optionsFor h c } = c := by
  simp only [optionsFor, hread, hd]
  rfl

/-- The arguments of a header are taken over, even if the file is linted without asking for it. -/
theorem withDirective_eq {bytes : List UInt8} (hread : h.read c.path = .ok bytes) :
    withDirective c (i.driver.scanFileText (Text.Utf8.decode bytes)) =
      { c with options := i.optionsFor h c } := by
  simp only [optionsFor, hread, withDirective]
  generalize hd : i.driver.scanFileText (Text.Utf8.decode bytes) = d
  by_cases hnone : d.options = []
  · simp [hnone]
  · have henabled : d.enabled = true := by
      by_contra hnot
      rw [Bool.not_eq_true] at hnot
      subst hd
      exact hnone (Directive.options_ofFindings hnot)
    rw [if_neg (by simpa using hnone), if_pos ⟨henabled, hnone⟩]

/-! ### How results come about -/

theorem cache?_eq_some {cache : ResultCache} :
    i.cache? = some cache ↔ i.driver.useCache = true ∧ i.cache = some cache := by
  rw [cache?]
  split_ifs with huse <;> simp [huse]

theorem coherent_passed (c : Candidate) : (LintResult.mk c .passed (some 0)).Coherent :=
  ⟨by simp, by simp, by simp⟩

theorem coherent_failed (c : Candidate) {n : Int} (hn : n ≠ 0) :
    (LintResult.mk c .failed (some n)).Coherent :=
  ⟨by simp, by simpa using hn, by simpa using hn⟩

theorem coherent_of_no_status {cl : Classification} (c : Candidate)
    (hcl : cl = .skipped ∨ cl = .cached) : (LintResult.mk c cl none).Coherent := by
  rcases hcl with rfl | rfl <;> exact ⟨by simp, by simp, by simp⟩

/-- A candidate that has been tried has passed or failed, and only a success is recorded. -/
theorem Tried.result (ht : Tried i c k xs h (.ok r) k' h') :
    r.Coherent ∧ r.candidate = c ∧
      (r.classification = .passed ∧ Recorded i c.path h (.ok ()) h' ∨
        r.classification = .failed ∧ h' = h) := by
  have hunusable : (unusable c).Coherent := coherent_failed c (by decide)
  cases ht with
  | barred => exact ⟨hunusable, rfl, .inr ⟨rfl, rfl⟩⟩
  | refused => exact ⟨hunusable, rfl, .inr ⟨rfl, rfl⟩⟩
  | lost => exact ⟨hunusable, rfl, .inr ⟨rfl, rfl⟩⟩
  | failed _ hstatus => exact ⟨coherent_failed c hstatus, rfl, .inr ⟨rfl, rfl⟩⟩
  | passed _ _ hrecorded => exact ⟨coherent_passed c, rfl, .inl ⟨rfl, hrecorded⟩⟩

/-- What any candidate comes to: it is skipped or vouched for without a command, has passed, or has
failed. -/
theorem Dealt.result (hd : Dealt i h c k xs h₁ (.ok r) k' h') :
    r.Coherent ∧ r.candidate = { c with options := i.optionsFor h c } ∧
      (r.classification = .skipped ∧ i.settings.forceAll = false ∧ xs = [] ∧ h' = h₁ ∨
        r.classification = .cached ∧ i.driver.useCache = true ∧ xs = [] ∧ h' = h₁ ∨
        r.classification = .passed ∧ Recorded i c.path h₁ (.ok ()) h' ∨
        r.classification = .failed ∧ h' = h₁) := by
  cases hd with
  | unread hread =>
    exact ⟨coherent_failed c (by decide), (optionsFor_of_error hread).symm,
      .inr (.inr (.inr ⟨rfl, rfl⟩))⟩
  | read hread hweighed =>
    cases hweighed with
    | skipped hasks =>
      obtain ⟨hd, hforce⟩ := Bool.or_eq_false_iff.mp hasks
      exact ⟨coherent_of_no_status c (.inl rfl), (optionsFor_of_not_enabled hread hd).symm,
        .inl ⟨rfl, hforce, rfl, rfl⟩⟩
    | cached _ hvouched =>
      obtain ⟨cache, hcache⟩ : ∃ cache, i.cache? = some cache := by
        rw [← Option.ne_none_iff_exists']
        intro hnone
        rw [vouchedBy, hnone] at hvouched
        cases hvouched
      exact ⟨coherent_of_no_status _ (.inr rfl), withDirective_eq hread,
        .inr (.inl ⟨rfl, (cache?_eq_some.mp hcache).1, rfl, rfl⟩)⟩
    | tried _ _ htried =>
      obtain ⟨hcoherent, hcandidate, hcases⟩ := htried.result
      rw [path_withDirective] at hcases
      exact ⟨hcoherent, hcandidate.trans (withDirective_eq hread), .inr (.inr hcases)⟩

/-- A result **hangs together** with the invocation that it comes from. -/
structure HangsTogether (i : Invoker) (v : Invocation) (r : LintResult) : Prop where
  coherent : r.Coherent
  candidate : r.candidate =
    { v.candidate with options := i.optionsFor v.before.world.host v.candidate }
  /-- What is not judged has cost no command. -/
  idle : r.classification = .skipped ∨ r.classification = .cached → i.calls v = []
  skipped : r.classification = .skipped → i.settings.forceAll = false
  cached : r.classification = .cached → i.driver.useCache = true
  /-- The marker of a file that has passed is written on the host that the runner has left. -/
  marked : ∀ cache, r.classification = .passed → i.driver.useCache = true → i.cache = some cache →
    cache.Marks v.candidate.path (i.transcript v).world.host v.after.world.host
  /-- It is there then, and bears the time of that host. -/
  present : ∀ cache, r.classification = .passed → i.driver.useCache = true →
    i.cache = some cache → (i.transcript v).world.host.Orderly → cache.directory.Proper →
    v.after.world.host.changed (cache.entry v.candidate.path) =
      .ok (i.transcript v).world.host.clock
  /-- Otherwise nothing is written on that host. -/
  unmarked : ¬(r.classification = .passed ∧ i.driver.useCache = true ∧ i.cache ≠ none) →
    v.after.world.host = (i.transcript v).world.host

theorem Recorded.marks {p : Path} {cache : ResultCache} (hr : Recorded i p h (.ok ()) h')
    (hcache : i.cache? = some cache) : cache.Marks p h h' := by
  cases hr with
  | uncached hnone =>
    rw [hcache] at hnone
    cases hnone
  | @cached cache' w _ w' hcache' hrun =>
    cases hcache.symm.trans hcache'
    exact ⟨w, w', rfl, hrun, rfl⟩

/-- Nothing is recorded where there is no cache to be used. -/
theorem Recorded.eq_of_no_cache {p : Path} {x : Except Fault Unit} (hr : Recorded i p h x h')
    (hno : ¬(i.driver.useCache = true ∧ i.cache ≠ none)) : h' = h := by
  cases hr with
  | uncached => rfl
  | cached hcache =>
    obtain ⟨huse, hsome⟩ := cache?_eq_some.mp hcache
    exact absurd ⟨huse, by simp [hsome]⟩ hno

/-- **Results hang together.** Whatever the runner answers and does, a result that an invoker gives
has a status that says the same as its classification, and its candidate is the one that was asked
for, with the arguments of the header where they count. What was skipped or vouched for has had no
command performed; nothing is skipped when everything is to be linted, and nothing is vouched for
when the driver uses no cache. A marker is written if the file has passed and there is a cache to be
used, and otherwise the host is as the runner has left it. -/
theorem hangsTogether_of_run (hrun : (i.invoke v.candidate).run v.before = (v.result, v.after))
    (hr : v.result = .ok r) : i.HangsTogether v r := by
  obtain ⟨hdealt, -, -, -⟩ := dealt_transcript hrun
  rw [hr] at hdealt
  obtain ⟨hcoherent, hcandidate, hcases⟩ := hdealt.result
  have hidle : (i.transcript v).exchanges = [] → i.calls v = [] := by
    intro hnothing
    rw [calls, hnothing, List.map_nil]
  rcases hcases with ⟨hcl, hforce, hnothing, hhost⟩ | ⟨hcl, huse, hnothing, hhost⟩ |
    ⟨hcl, hrecorded⟩ | ⟨hcl, hhost⟩
  · exact ⟨hcoherent, hcandidate, fun _ => hidle hnothing, fun _ => hforce, by simp [hcl],
      by simp [hcl], by simp [hcl], fun _ => hhost⟩
  · exact ⟨hcoherent, hcandidate, fun _ => hidle hnothing, by simp [hcl], fun _ => huse,
      by simp [hcl], by simp [hcl], fun _ => hhost⟩
  · have hmarks : ∀ cache, i.driver.useCache = true → i.cache = some cache →
        cache.Marks v.candidate.path (i.transcript v).world.host v.after.world.host :=
      fun cache huse hcache => hrecorded.marks (cache?_eq_some.mpr ⟨huse, hcache⟩)
    exact ⟨hcoherent, hcandidate, by simp [hcl], by simp [hcl], by simp [hcl],
      fun cache _ huse hcache => hmarks cache huse hcache,
      fun cache _ huse hcache => (hmarks cache huse hcache).changed_entry,
      fun hno => hrecorded.eq_of_no_cache fun hcache => hno ⟨hcl, hcache⟩⟩
  · exact ⟨hcoherent, hcandidate, by simp [hcl], by simp [hcl], by simp [hcl], by simp [hcl],
      by simp [hcl], fun _ => hhost⟩

/-- A header that gives an argument, a tool that finds no fault, and a cache that is still to be
made: the file passes with the argument of its header, and its marker bears the time 10. -/
theorem hangsTogether_of_run_sample : ∃ (v : Invocation) (r : LintResult),
    (sample.invoke v.candidate).run v.before = (v.result, v.after) ∧ v.result = .ok r ∧
      sample.HangsTogether v r ∧
      r = ⟨{ sampleCandidate "a.py" with options := ["-E"] }, .passed, some 0⟩ ∧
      v.after.world.host.changed (.absolute ["r", "cache", "python", "r%a.py"]) = .ok 10 := by
  generalize hs : (⟨⟨.holding [["r"]] [(["r", "a.py"],
    "# pylint-options: -E\n".toList.map fun c => c.toNat.toUInt8)], []⟩, none⟩ : Session) = s
  generalize hv : (⟨sampleCandidate "a.py", s, ((sample.invoke (sampleCandidate "a.py")).run s).1,
    ((sample.invoke (sampleCandidate "a.py")).run s).2⟩ : Invocation) = v
  have hrun : (sample.invoke v.candidate).run v.before = (v.result, v.after) := by
    subst hv
    rfl
  have hresult : v.result =
      .ok ⟨{ sampleCandidate "a.py" with options := ["-E"] }, .passed, some 0⟩ :=
    hv ▸ hs ▸ Driver.eq_ok_of_toOption (by decide +kernel)
  have hwell := hangsTogether_of_run hrun hresult
  have hcandidate : v.candidate = sampleCandidate "a.py" := hv ▸ rfl
  have horderly : (sample.transcript v).world.host.Orderly := hv ▸ hs ▸ by decide +kernel
  have hclock : (sample.transcript v).world.host.clock = 10 := hv ▸ hs ▸ by decide +kernel
  have hcache : sample.cache = some ⟨.absolute ["r", "cache", "python"]⟩ := by decide +kernel
  have hentry : (ResultCache.mk (.absolute ["r", "cache", "python"])).entry
      (sampleCandidate "a.py").path = .absolute ["r", "cache", "python", "r%a.py"] := by
    decide +kernel
  have hmarker := hwell.present _ rfl rfl hcache horderly (by decide)
  rw [hcandidate, hentry, hclock] at hmarker
  exact ⟨v, _, hrun, hresult, hwell, rfl, hmarker⟩

end Invoker

end OptIn
