import OptIn.Proofs.Invoker.Progress

/-!
# What a steady tool makes of a candidate

A tool is **steady** when its version query always ends alike and each command has a status of its
own. What becomes of a candidate is then a table of five rows (`Invoker.verdict`): its directive,
whether the cache vouches for it, and what the tool answers decide it, whatever has happened before
(`Invoked.eq_verdict`). All that it leaves behind is the stamped marker of a success
(`Invoker.Leaves`).
-/

namespace OptIn

namespace ToolRunner

/-- A **steady** tool is missing, if no version status is given, and otherwise gives that status for
its version. Each other command ends with a status of its own. -/
inductive Steady (tool : String) (version : Option Int) (code : List String → Int) : Answers
  | version {c v done} : c = ToolProbe.query tool → version = some v → done.status = v →
      Steady tool version code c (.ok done)
  | missing {c e} : c = ToolProbe.query tool → version = none → e.isNotFound = true →
      Steady tool version code c (.error e)
  | answer {c done} : c ≠ ToolProbe.query tool → done.status = code c.command →
      Steady tool version code c (.ok done)

theorem benign_of_steady {tool : String} {version : Option Int} {code : List String → Int}
    {c : Call} {x : Except Fault Completed} (hx : Steady tool version code c x) : benign c x := by
  cases hx with
  | version => trivial
  | missing _ _ he => exact he
  | answer => trivial

/-- The tool that answers each command with a status of its own is steady. -/
theorem quiet_answering_steady (tool : String) (code : List String → Int) :
    (answering code).Quiet (Steady tool (some (code (ToolProbe.query tool).command)) code) := by
  refine quiet_answering fun c => ?_
  by_cases hc : c = ToolProbe.query tool
  · exact .version hc rfl (by rw [hc])
  · exact .answer hc rfl

end ToolRunner

namespace Invoker

open ToolRunner (Steady)

/-- The **verdict** on a candidate with a directive, for which the cache vouches or not, when the
tool is steady. -/
def verdict (i : Invoker) (version : Option Int) (code : List String → Int) (c : Candidate)
    (d : Directive) (vouched : Bool) : LintResult :=
  if i.asks d = false then ⟨c, .skipped, none⟩
  else if vouched then ⟨withDirective c d, .cached, none⟩
  else if version ≠ some 0 then ⟨withDirective c d, .failed, some 127⟩
  else if code (i.command (withDirective c d)) = 0 then ⟨withDirective c d, .passed, some 0⟩
  else ⟨withDirective c d, .failed, some (code (i.command (withDirective c d)))⟩

theorem classification_verdict_eq_skipped_iff {i : Invoker} {version : Option Int}
    {code : List String → Int} {c : Candidate} {d : Directive} {v : Bool} :
    (i.verdict version code c d v).classification = .skipped ↔ i.asks d = false := by
  rw [verdict]
  split_ifs <;> simp_all

theorem classification_verdict_eq_cached_iff {i : Invoker} {version : Option Int}
    {code : List String → Int} {c : Candidate} {d : Directive} {v : Bool} :
    (i.verdict version code c d v).classification = .cached ↔ i.asks d = true ∧ v = true := by
  rw [verdict]
  split_ifs <;> simp_all

/-- Only a candidate that asks for linting can have a verdict that depends on the cache. -/
theorem verdict_eq_of_not_asks {i : Invoker} {version : Option Int} {code : List String → Int}
    {c : Candidate} {d : Directive} {v v' : Bool} (hasks : i.asks d = false) :
    i.verdict version code c d v = i.verdict version code c d v' := by
  rw [verdict, verdict, if_pos hasks, if_pos hasks]

/-- What has passed would be vouched for. -/
theorem verdict_true_of_passed {i : Invoker} {version : Option Int} {code : List String → Int}
    {c : Candidate} {d : Directive} {v : Bool}
    (hpassed : (i.verdict version code c d v).classification = .passed) :
    i.verdict version code c d true =
      ⟨(i.verdict version code c d v).candidate, .cached, none⟩ := by
  rw [verdict] at hpassed ⊢
  rw [verdict]
  split_ifs at hpassed ⊢ <;> simp_all

/-- What dealing with a file **leaves** behind: a later host, on which the marker of a success is
stamped, if there is a cache. -/
inductive Leaves (i : Invoker) (a : Address) (p : Path) (h : Host) : Classification → Host → Prop
  | later {x h'} : (x = .passed → i.cache? = none) → h.Later h' → Leaves i a p h x h'
  | stamped {cache h₁ h'} : i.cache? = some cache → h.Later h₁ →
      h₁.Stamped h' cache.directory a (cacheKey p) → Leaves i a p h .passed h'

/-- What is known about a tool is whether its version status is 0. -/
def Known (version : Option Int) (k : Option ToolProbe) : Prop :=
  ∀ p, k = some p → (p.usable = true ↔ version = some 0)

variable {i : Invoker} {version : Option Int} {code : List String → Int} {c : Candidate}
  {h h' : Host} {a b : Address} {k k' : Option ToolProbe} {x : Except Fault LintResult}
  {bytes : List UInt8} {y : Bool} {t : Int}

/-- What is left behind by a later start. -/
theorem Leaves.of_later {p : Path} {y : Classification} {h₁ : Host}
    (hleaves : i.Leaves a p h₁ y h') (hlater : h.Later h₁) : i.Leaves a p h y h' := by
  cases hleaves with
  | later hnone hl => exact .later hnone (hlater.trans hl)
  | stamped hc hl hstamped => exact .stamped hc (hlater.trans hl) hstamped

/-- A steady tool is found usable exactly if its version status is 0. -/
theorem Probed.of_steady {p : Except Fault ToolProbe}
    (hp : Probed i (Steady i.driver.tool version code) k h p k' h') (hk : Known version k) :
    Known version k' ∧ ∃ q, p = .ok q ∧ (q.usable = true ↔ version = some 0) := by
  cases hp with
  | known => exact ⟨hk, _, rfl, hk _ rfl⟩
  | @answered _ _ done q hanswer hshown _ =>
    have husable : q.usable = true ↔ version = some 0 := by
      rw [ToolProbe.usable_of_ofCompleted hshown]
      cases hanswer with
      | version _ hv hstatus => rw [hv, hstatus, Option.some_inj]
      | answer hne => exact absurd rfl hne
    refine ⟨fun q hq => ?_, _, rfl, husable⟩
    cases hq
    exact husable
  | missing hanswer =>
    cases hanswer with
    | missing _ hv _ =>
      have hunusable : ∀ detail, ToolProbe.usable ⟨.missing, detail⟩ = true ↔ version = some 0 := by
        intro detail
        simp [ToolProbe.usable, hv]
      refine ⟨fun q hq => ?_, _, rfl, hunusable _⟩
      cases hq
      exact hunusable _
  | broken hanswer hmissing => exact absurd (ToolRunner.benign_of_steady hanswer) hmissing

/-- The judgement of a steady tool on a file whose marker fits. -/
theorem Linted.of_steady (hl : Linted i (Steady i.driver.tool version code) c k h x k' h')
    (ho : h.Orderly) (hu : i.CacheUsable h a) (hp : c.path.Markable)
    (hfits : ∀ cache, i.cache? = some cache → cache.Fits c.path) :
    k' = k ∧ ∃ z, x = .ok z ∧ i.Leaves a c.path h z.classification h' ∧
      z = if code (i.command c) = 0 then ⟨c, .passed, some 0⟩
        else ⟨c, .failed, some (code (i.command c))⟩ := by
  -- linting is no query, so a steady tool answers with its status
  have hanswer : ∀ {y}, Steady i.driver.tool version code (i.lintCall c) y →
      ∃ done, y = .ok done ∧ done.status = code (i.command c) := by
    intro y hy
    cases hy with
    | version hc => exact absurd hc (i.lintCall_ne_query c _)
    | missing hc => exact absurd hc (i.lintCall_ne_query c _)
    | answer _ hstatus => exact ⟨_, rfl, hstatus⟩
  cases hl with
  | passed hy hstatus hlater hr =>
    obtain ⟨done, hdone, hcode⟩ := hanswer hy
    cases hdone
    rw [← hcode, if_pos hstatus]
    refine ⟨rfl, _, rfl, ?_, rfl⟩
    have ho₁ := (hlater.grows fun _ => False).orderly ho
    obtain ⟨-, ⟨hnone, rfl⟩ | ⟨cache, hc, hstamped⟩⟩ := hr.of_fits ho₁ (hu.later hlater) hp hfits
    · exact .later (fun _ => hnone) hlater
    · exact .stamped hc hlater hstamped
  | unrecorded _ _ hlater hr =>
    have ho₁ := (hlater.grows fun _ => False).orderly ho
    obtain ⟨hok, -⟩ := hr.of_fits ho₁ (hu.later hlater) hp hfits
    cases hok
  | failed hy hstatus hlater =>
    obtain ⟨done, hdone, hcode⟩ := hanswer hy
    cases hdone
    rw [← hcode, if_neg hstatus]
    exact ⟨rfl, _, rfl, .later (fun hx => nomatch hx) hlater, rfl⟩
  | missing hy | broken hy =>
    obtain ⟨done, hdone, -⟩ := hanswer hy
    cases hdone

/-- Whether the cache of an invoker vouches for a file of some time whose marker fits. -/
def vouchesAt (i : Invoker) (h : Host) (a : Address) (p : Path) (t : Int) : Bool :=
  i.cache?.isSome && (h.disk.node? (a ++ [cacheKey p])).any fun n => t < n.changed

/-- With a steady tool, what the header and the cache say decides the result. -/
theorem Settled.eq_verdict {d : Directive} {v : Bool}
    (hs : Settled i (Steady i.driver.tool version code) c d k h x k' h') (ho : h.Orderly)
    (hu : i.CacheUsable h a) (hp : c.path.Markable)
    (hfits : i.asks d = true → ∀ cache, i.cache? = some cache → cache.Fits c.path)
    (hvouched : i.asks d = true → i.vouchedBy c.path h = .ok v) (hk : Known version k) :
    Known version k' ∧ ∃ z, x = .ok z ∧ i.Leaves a c.path h z.classification h' ∧
      z = i.verdict version code c d v := by
  rw [verdict]
  cases hs with
  | skipped hskip =>
    rw [if_pos hskip]
    exact ⟨hk, _, rfl, .later (fun hx => nomatch hx) (.refl h), rfl⟩
  | cached hasks hv =>
    cases hv.symm.trans (hvouched hasks)
    rw [if_neg (Bool.not_eq_false _ ▸ hasks), if_pos rfl]
    exact ⟨hk, _, rfl, .later (fun hx => nomatch hx) (.refl h), rfl⟩
  | unclear hasks hv => cases hv.symm.trans (hvouched hasks)
  | unprobed _ _ hprobe =>
    obtain ⟨-, q, hq, -⟩ := hprobe.of_steady hk
    cases hq
  | unusable hasks hv hprobe hbad =>
    obtain ⟨hk', q, hq, husable⟩ := hprobe.of_steady hk
    cases hq
    have hversion : version ≠ some 0 := fun h => by
      rw [husable.mpr h] at hbad
      cases hbad
    cases hv.symm.trans (hvouched hasks)
    rw [if_neg (Bool.not_eq_false _ ▸ hasks), if_neg Bool.false_ne_true, if_pos hversion]
    exact ⟨hk', _, rfl, .later (fun hx => nomatch hx) hprobe.later, rfl⟩
  | linted hasks hv hprobe hgood hlint =>
    obtain ⟨hk', q, hq, husable⟩ := hprobe.of_steady hk
    cases hq
    have hlater := hprobe.later
    have hfits' := hfits hasks
    rw [← path_withDirective c d] at hp hfits'
    obtain ⟨rfl, z, rfl, hleaves, hz⟩ := hlint.of_steady
      ((hlater.grows fun _ => False).orderly ho) (hu.later hlater) hp hfits'
    cases hv.symm.trans (hvouched hasks)
    rw [if_neg (Bool.not_eq_false _ ▸ hasks), if_neg Bool.false_ne_true,
      if_neg (not_not.mpr (husable.mp hgood))]
    refine ⟨hk', z, rfl, ?_, hz⟩
    rw [path_withDirective] at hleaves
    exact hleaves.of_later hlater

/-- With a steady tool, a file whose marker fits gets its verdict. -/
theorem Invoked.eq_verdict (hi : Invoked i (Steady i.driver.tool version code) c k h x k' h')
    (ho : h.Orderly) (hu : i.CacheUsable h a) (hp : c.path.Proper)
    (hs : h.stat c.path = .ok (b, .file bytes y t))
    (hfits : i.AsksFor h c.path → ∀ cache, i.cache? = some cache → cache.Fits c.path)
    (hk : Known version k) :
    Known version k' ∧ ∃ z, x = .ok z ∧ i.Leaves a c.path h z.classification h' ∧
      z = i.verdict version code c (i.driver.scanFileText (Text.Utf8.decode bytes))
        (i.vouchesAt h a c.path t) := by
  have hread := Host.read_of_stat hs
  have hmark := Host.markable_of_stat ho hp hs
  cases hi with
  | unread hread' | broken hread' =>
    rw [hread] at hread'
    cases hread'
  | read hread' hsettled =>
    cases Except.ok.inj (hread.symm.trans hread')
    have hfits' := fun hasks => hfits ⟨bytes, hread, hasks⟩
    exact hsettled.eq_verdict ho hu hmark hfits'
      (fun hasks => vouchedBy_of_fits ho hu hp hs (hfits' hasks)) hk

end Invoker

end OptIn
