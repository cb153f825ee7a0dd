import OptIn.Proofs.Cache.AnyState
import OptIn.Proofs.Cache.Chronicle
import OptIn.Proofs.Run.History

/-!
# Runs and edits side by side

Runs of a driver deal with a file side by side, each at its own pace: a run reads the header, asks
the cache, has the tool read and judge the file, and records a success; between any two of these
steps other runs may go on, and the file may be edited. An interleaving is what can come about in
this way from a world in which the cache is not there yet.

In every interleaving the cache vouches for the file exactly if a success stands that a run has
recorded. So it may vouch for a file whose content the tool has never read: that of an edit made
after the tool had read the file, but before its success was recorded. That the interleavings are
those of the invoker is shown for the invocations that nothing interrupts (`of_invoke`).
-/

namespace OptIn

open Function (update)
open Host (InStore)

/-- How far a run has come with the file. -/
inductive Stage where
  | away
  /-- The header asks for linting. -/
  | asked (d : Directive)
  /-- The cache has not vouched for the file. -/
  | unvouched (d : Directive)
  /-- The tool has read the file, and ended. -/
  | judged (d : Directive) (bytes : List UInt8) (done : Completed)

/-- The **interleavings** of edits of a file and of runs that deal with it: what has happened, how
far each run has come, and the world in which this can come about from a first world. Time passes
before each edit, which stamps the file with the present, and before each record. Whatever a run
does not do, it can leave the file at any time: because the cache vouches for it, because the tool
cannot be used, because of a fault. -/
inductive Interleaving (i : Invoker) (c : Candidate) (w₀ : World) :
    Chronicle → (Nat → Stage) → World → Prop
  | start : Interleaving i c w₀ [] (fun _ => .away) w₀
  | pass {L S w w'} : Interleaving i c w₀ L S w → w.host.Later w'.host → Interleaving i c w₀ L S w'
  | edit {L S w h} (bytes : List UInt8) (executable : Bool) (n : Nat) : Interleaving i c w₀ L S w →
      (Host.writeFile c.path bytes executable (w.lapse n).host.clock).run (w.lapse n).host =
        (.ok (), h) →
      Interleaving i c w₀ (L ++ [.edited bytes]) S { w.lapse n with host := h }
  | scan {L S w d w'} (k : Nat) : Interleaving i c w₀ L S w → S k = .away →
      (Invoker.readDirective i.driver c.path).run w = (.ok d, w') → i.asks d = true →
      Interleaving i c w₀ L (update S k (.asked d)) w'
  | check {L S w d w'} (k : Nat) : Interleaving i c w₀ L S w → S k = .asked d →
      (i.vouched (Invoker.withDirective c d)).run w = (.ok false, w') →
      Interleaving i c w₀ L (update S k (.unvouched d)) w'
  | read {L S w d bytes} (k : Nat) (done : Completed) : Interleaving i c w₀ L S w →
      S k = .unvouched d → w.host.read c.path = .ok bytes →
      Interleaving i c w₀ (L ++ [.read k bytes done.status]) (update S k (.judged d bytes done)) w
  | record {L S w d bytes done x w'} (k n : Nat) : Interleaving i c w₀ L S w →
      S k = .judged d bytes done → done.status = 0 →
      (i.judge (Invoker.withDirective c d) done).run (w.lapse n) = (.ok x, w') →
      Interleaving i c w₀ (L ++ [.recorded k]) (update S k .away) w'
  | refuse {L S w d bytes done e w'} (k n : Nat) : Interleaving i c w₀ L S w →
      S k = .judged d bytes done →
      (i.judge (Invoker.withDirective c d) done).run (w.lapse n) = (.error e, w') →
      Interleaving i c w₀ L (update S k .away) w'
  | leave {L S w} (k : Nat) : Interleaving i c w₀ L S w → Interleaving i c w₀ L (update S k .away) w

/-! ### What is outside of a cache -/

section Outside

variable {h h' : Host} {dir p q : Path} {c : ResultCache} {w w' : World} {h₀ : Host} {L : Ledger}
  {bound t : Int} {y : Except Fault Unit}

theorem Host.outside_of_not_directory (hno : h.isDirectory dir ≠ .ok true) : h.Outside dir p :=
  fun a t hs => absurd (Host.isDirectory_eq_true_iff.mpr ⟨a, t, hs⟩) hno

/-- What is outside stays outside when a file is edited. -/
theorem Host.Outside.edited (hout : h.Outside dir q) (ho : h.Orderly) (hdir : dir.Proper)
    (he : h.Edited h' p) : h'.Outside dir q := by
  intro a t hs
  obtain ⟨b, s, hb⟩ := Host.isDirectory_eq_true_iff.mp
    (he.isDirectory ho hdir (Host.isDirectory_eq_true_iff.mpr ⟨a, t, hs⟩))
  obtain ⟨s', hb'⟩ := he.toAlters.stat_directory ho hdir hb
  rw [hs] at hb'
  cases hb'
  exact hout a s hb

/-- A file outside stays outside when a success is recorded: a store that is made is empty. -/
theorem ResultCache.Books.outside_of_record (hb : c.Books h₀ L bound w.host)
    (hdir : c.directory.Proper) (hp : p.Markable) (hrun : (c.record p).run w = (y, w'))
    (hout : w.host.Outside c.directory q) (hf : w.host.FileAt q.parts t) :
    w'.host.Outside c.directory q := by
  have ho := hb.orderly
  rcases hb.kept with ⟨hno, hstraight, -⟩ | ⟨a, hshelf, -⟩
  · rcases c.record_cases_of_missing ho hdir hno hstraight hp hrun with
      ⟨-, -, hno'⟩ | ⟨a, h, hg, -, hshelf, hempty, hcases⟩
    · exact Host.outside_of_not_directory hno'
    · have hstore : ¬InStore a q.parts := by
        rintro ⟨name, hname⟩
        obtain ⟨bytes, x, hn⟩ := (hg.toAlters.fileAt_iff fun h => h).mpr hf
        rw [hname, hempty] at hn
        cases hn
      rcases hcases with ⟨-, -, hs⟩ | ⟨-, hsame⟩
      · exact hs.shelf.outside_iff.mpr hstore
      · rw [hsame]
        exact hshelf.outside_iff.mpr hstore
  · have hstore := hshelf.outside_iff.mp hout
    rcases c.record_cases_of_shelf ho hdir hshelf hp hrun with ⟨-, -, hs⟩ | ⟨-, hsame⟩
    · exact hs.shelf.outside_iff.mpr hstore
    · rw [hsame]
      exact hshelf.outside_iff.mpr hstore

end Outside

/-! ### What holds in every interleaving -/

namespace Interleaving

variable {i : Invoker} {c : Candidate} {cache : ResultCache} {w₀ w : World} {L : Chronicle}
  {S : Nat → Stage} {first : List UInt8}

/-- What is **sound** about an interleaving: the cache keeps books on its chronicle, the file is
there and holds what the chronicle says, and each run that has had the tool read the file has it in
the chronicle. -/
structure Sound (cache : ResultCache) (c : Candidate) (h₀ : Host) (first : List UInt8)
    (L : Chronicle) (S : Nat → Stage) (h : Host) : Prop where
  books : cache.Books h₀ (L.ledger c) h.clock h
  outside : h.Outside cache.directory c.path
  resolved : h.Resolved c.path
  file : h.isFile c.path = .ok true
  content : h.read c.path = .ok (L.content first)
  faithful : L.Faithful first
  judged : ∀ {k d bytes done}, S k = .judged d bytes done → L.LastRead k bytes done.status

namespace Sound

variable {h₀ h h' : Host} {L' : Chronicle} {S' : Nat → Stage} {k : Nat} {d : Directive}
  {bytes : List UInt8} {done : Completed} {within : Address → Prop}

theorem start (ho : h.Orderly) (hno : h.isDirectory cache.directory ≠ .ok true)
    (hstraight : h.Straight cache.directory) (hr : h.Resolved c.path)
    (hf : h.isFile c.path = .ok true) (hread : h.read c.path = .ok first) :
    Sound cache c h first [] (fun _ => .away) h where
  books := .start ho hno hstraight
  outside := Host.outside_of_not_directory hno
  resolved := hr
  file := hf
  content := hread
  faithful := Chronicle.faithful_nil
  judged h := nomatch h

/-- Where the file is, and that it can have a marker. -/
theorem exists_file (hs : Sound cache c h₀ first L S h) :
    ∃ x t, h.stat c.path = .ok (c.path.parts, .file (L.content first) x t) ∧
      h.FileAt c.path.parts t ∧ c.path.Markable := by
  obtain ⟨a, bytes, x, t, hstat⟩ := Host.isFile_eq_true_iff.mp hs.file
  have ho := hs.books.orderly
  obtain rfl : a = c.path.parts := hs.resolved.address_eq ho hstat
  have hread := hs.content
  rw [Host.read_of_stat hstat] at hread
  obtain rfl := Except.ok.inj hread
  exact ⟨x, t, hstat, ⟨_, x, Host.node?_of_stat ho hs.resolved.proper hstat⟩,
    Host.markable_of_stat ho hs.resolved.proper hstat⟩

/-- The file stays as it is on a host that grows. -/
theorem grows (hs : Sound cache c h₀ first L S h) (hg : h.Grows within h')
    (hbooks : cache.Books h₀ (L'.ledger c) h'.clock h') (hout : h'.Outside cache.directory c.path)
    (hcontent : L'.content first = L.content first) (hfaithful : L'.Faithful first)
    (hjudged : ∀ {k d bytes done}, S' k = .judged d bytes done →
      L'.LastRead k bytes done.status) : Sound cache c h₀ first L' S' h' where
  books := hbooks
  outside := hout
  resolved := hg.toAlters.resolved hs.resolved
  file := (hg.file_stays hs.books.orderly hs.resolved.proper hs.file).1
  content := by
    rw [hcontent, ← hs.content]
    exact (hg.file_stays hs.books.orderly hs.resolved.proper hs.file).2
  faithful := hfaithful
  judged := hjudged

theorem later (hs : Sound cache c h₀ first L S h) (hl : h.Later h') :
    Sound cache c h₀ first L S h' := by
  refine hs.grows (hl.grows fun _ => False)
    ((hs.books.later hl).mono hl.clock_le (Int.le_refl _)) ?_ rfl hs.faithful hs.judged
  intro a t hstat
  rw [hl.stat_eq] at hstat
  exact hs.outside a t hstat

/-- A run goes on to a stage at which it has no answer of the tool. -/
theorem move (hs : Sound cache c h₀ first L S h) (k : Nat) {stage : Stage}
    (hstage : ∀ d bytes done, stage ≠ .judged d bytes done) :
    Sound cache c h₀ first L (update S k stage) h :=
  { hs with
    judged := by
      intro k' d bytes done hk
      rw [Function.update_apply] at hk
      split at hk
      · exact absurd hk (hstage d bytes done)
      · exact hs.judged hk }

theorem read (hs : Sound cache c h₀ first L S h) (k : Nat) (d : Directive) (done : Completed)
    (hread : h.read c.path = .ok bytes) :
    Sound cache c h₀ first (L ++ [.read k bytes done.status])
      (update S k (.judged d bytes done)) h := by
  have hbytes : bytes = L.content first := Except.ok.inj (hread.symm.trans hs.content)
  refine hs.grows (.refl (fun _ => False) h) ?_ hs.outside ?_ ?_ ?_
  · rw [Chronicle.ledger_append_read]
    exact hs.books
  · rw [Chronicle.content_append]
    rfl
  · refine hs.faithful.append ?_ fun k' h => nomatch h
    rintro _ _ _ ⟨⟩
    exact hbytes
  · intro k' d' bytes' done' hk
    rw [Function.update_apply] at hk
    split at hk
    · rename_i hsame
      cases hk
      exact hsame ▸ Chronicle.lastRead_append_read
    · rename_i hother
      refine (hs.judged hk).append ?_
      rintro _ _ ⟨⟩
      exact hother rfl

theorem edit (hs : Sound cache c h₀ first L S h) (hdir : cache.directory.Proper)
    {executable : Bool}
    (hrun : (Host.writeFile c.path bytes executable h.clock).run h = (.ok (), h')) :
    Sound cache c h₀ first (L ++ [.edited bytes]) S h' := by
  have ho := hs.books.orderly
  have he := Host.edited_of_writeFile ho hs.resolved hrun
  obtain ⟨x, t, hstat, -, -⟩ := hs.exists_file
  have hstat' : h'.stat c.path = .ok (c.path.parts, .file bytes executable h.clock) :=
    Host.stat_keeps ho (he.orderly ho) hs.resolved.proper he.keeps he.cwd hstat
      (Host.node?_of_writeFile ho hs.resolved hrun) rfl
  refine ⟨?_, hs.outside.edited ho hdir he, he.resolved hs.resolved,
    Host.isFile_eq_true_iff.mpr ⟨_, _, _, _, hstat'⟩, ?_, ?_, fun hk => ?_⟩
  · rw [Chronicle.ledger_append_edited]
    exact hs.books.edited hdir he hs.resolved.anchor hs.outside
  · rw [Host.read_of_stat hstat', Chronicle.content_append]
    rfl
  · exact hs.faithful.append (fun _ _ _ h => nomatch h) fun _ h => nomatch h
  · exact (hs.judged hk).append fun _ _ h => nomatch h

theorem recorded {w w' : World} {n : Nat} (hs : Sound cache c h₀ first L S w.host)
    (hdir : cache.directory.Proper) (hrun : (cache.record c.path).run (w.lapse n) = (.ok (), w'))
    (hread : L.LastRead k bytes 0) :
    Sound cache c h₀ first (L ++ [.recorded k]) S w'.host := by
  have hs₁ := hs.later (w.later_lapse n)
  obtain ⟨_, t, -, hfile, hmark⟩ := hs₁.exists_file
  -- the marker is stamped after everything that has happened before
  have hbooked := (hs.books.later (w.later_lapse n)).record (w.clock_lt_lapse n) hdir hmark hrun
  have hbooks := hbooked.recorded rfl ⟨c, .passed, some 0⟩ rfl rfl
  refine hs₁.grows (cache.grows_of_record hs₁.books.orderly hdir hrun) ?_
    (hs₁.books.outside_of_record hdir hmark hrun hs₁.outside hfile) ?_ ?_ fun hk => ?_
  · rw [Chronicle.ledger_append_recorded]
    exact hbooks.mono hbooks.bound_le (Int.le_refl _)
  · rw [Chronicle.content_append]
    rfl
  · refine hs.faithful.append (fun _ _ _ h => nomatch h) ?_
    rintro _ ⟨⟩
    exact ⟨bytes, hread⟩
  · exact (hs.judged hk).append fun _ _ h => nomatch h

theorem refused {w w' : World} {n : Nat} {e : Fault} (hs : Sound cache c h₀ first L S w.host)
    (hdir : cache.directory.Proper)
    (hrun : (cache.record c.path).run (w.lapse n) = (.error e, w')) :
    Sound cache c h₀ first L S w'.host := by
  have hs₁ := hs.later (w.later_lapse n)
  obtain ⟨_, t, -, hfile, hmark⟩ := hs₁.exists_file
  have hbooked := (hs.books.later (w.later_lapse n)).record (w.clock_lt_lapse n) hdir hmark hrun
  have hbooks := hbooked.refused e rfl
  exact hs₁.grows (cache.grows_of_record hs₁.books.orderly hdir hrun)
    (hbooks.mono hbooks.bound_le (Int.le_refl _))
    (hs₁.books.outside_of_record hdir hmark hrun hs₁.outside hfile) rfl hs.faithful hs.judged

end Sound

/-! ### What the steps of a run do -/

/-- A success is judged by recording it. -/
theorem judge_eq_record (hcache : i.cache? = some cache) {done : Completed}
    (hstatus : done.status = 0) :
    i.judge c done = (cache.record c.path >>= fun _ => pure ⟨c, .passed, some 0⟩) := by
  rw [Invoker.judge, if_pos hstatus, hcache]

theorem record_of_judge {w' : World} {done : Completed} {x : LintResult}
    (hcache : i.cache? = some cache) (hstatus : done.status = 0)
    (hrun : (i.judge c done).run w = (.ok x, w')) :
    (cache.record c.path).run w = (.ok (), w') := by
  rw [judge_eq_record hcache hstatus] at hrun
  obtain ⟨⟨⟩, v, hrecord, hrun⟩ := Action.exists_of_run_bind_ok hrun
  cases hrun
  exact hrecord

theorem record_of_judge_error {w' : World} {done : Completed} {e : Fault}
    (hcache : i.cache? = some cache) (hrun : (i.judge c done).run w = (.error e, w')) :
    (cache.record c.path).run w = (.error e, w') := by
  by_cases hstatus : done.status = 0
  · rw [judge_eq_record hcache hstatus] at hrun
    rcases hrecord : (cache.record c.path).run w with ⟨f | ⟨⟩, v⟩
    · rw [Action.run_bind_error hrecord] at hrun
      cases hrun
      rfl
    · rw [Action.run_bind_ok hrecord] at hrun
      cases hrun
  · rw [Invoker.judge, if_neg hstatus] at hrun
    cases hrun

/-- In every interleaving all is sound. -/
theorem sound (hi : Interleaving i c w₀ L S w) (hcache : i.cache? = some cache)
    (hdir : cache.directory.Proper) (ho : w₀.host.Orderly)
    (hno : w₀.host.isDirectory cache.directory ≠ .ok true)
    (hstraight : w₀.host.Straight cache.directory) (hr : w₀.host.Resolved c.path)
    (hf : w₀.host.isFile c.path = .ok true) (hfirst : w₀.host.read c.path = .ok first) :
    Sound cache c w₀.host first L S w.host := by
  -- one case for each thing that can happen; only edits and records change the disk
  induction hi with
  | start => exact .start ho hno hstraight hr hf hfirst
  | pass _ hl ih => exact ih.later hl
  | @edit L S w h bytes executable n _ hrun ih => exact (ih.later (w.later_lapse n)).edit hdir hrun
  | @scan L S w d w' k _ hk hrun hasks ih =>
    obtain ⟨v, hrun', hwarns⟩ := Invoker.run_readDirective_of_ok i ih.content
    cases hrun.symm.trans hrun'
    rw [hwarns.host_eq]
    exact ih.move k fun _ _ _ h => nomatch h
  | @check L S w d w' k _ hk hrun ih =>
    obtain ⟨v, hrun', hwarns⟩ := i.run_vouched (Invoker.withDirective c d) w
    obtain rfl : w' = v := congrArg Prod.snd (hrun.symm.trans hrun')
    rw [hwarns.host_eq]
    exact ih.move k fun _ _ _ h => nomatch h
  | @read L S w d bytes k done _ hk hread ih => exact ih.read k d done hread
  | @record L S w d bytes done x w' k n _ hk hstatus hrun ih =>
    have hrecord := record_of_judge hcache hstatus hrun
    rw [Invoker.path_withDirective] at hrecord
    exact (ih.recorded hdir hrecord (hstatus ▸ ih.judged hk)).move k fun _ _ _ h => nomatch h
  | @refuse L S w d bytes done e w' k n _ hk hrun ih =>
    have hrecord := record_of_judge_error hcache hrun
    rw [Invoker.path_withDirective] at hrecord
    exact (ih.refused hdir hrecord).move k fun _ _ _ h => nomatch h
  | leave k _ ih => exact ih.move k fun _ _ _ h => nomatch h

/-! ### Invocations that nothing interrupts -/

/-- Where each command takes some time, commands that have been run have taken some. -/
theorem exists_lapse {runner : ToolRunner} {xs : List Exchange} {ms : List String} {w w' : World}
    (hslow : ∀ w call, ∃ n, (runner w call).host = (w.lapse n).host)
    (hwarns : runner.Warns w xs ms w') (hxs : xs ≠ []) : ∃ n, w'.host = (w.lapse n).host := by
  obtain ⟨es, htalk, -⟩ := hwarns
  induction htalk with
  | silence => exact absurd rfl hxs
  | remark _ _ ih => exact ih hxs
  | @exchange xs es v call ht ih =>
    obtain ⟨n, hn⟩ := hslow v call
    by_cases hnone : xs = []
    · subst hnone
      refine ⟨n, hn.trans ?_⟩
      rw [World.lapse, World.lapse, ht.host_eq]
    · -- the time of the last command comes on top of that of the others
      obtain ⟨m, hm⟩ := ih hnone
      refine ⟨m + n + 1, hn.trans ?_⟩
      rw [World.lapse, World.lapse, hm, World.lapse]
      simp only [Host.mk.injEq, true_and]
      omega

/-- A run that finds the header and no valid marker has the tool still to come. -/
theorem exists_unvouched (hi : Interleaving i c w₀ L S w) {k : Nat} (hk : S k = .away)
    {bytes : List UInt8} (hread : w.host.read c.path = .ok bytes)
    (hasks : i.asks (i.driver.scanFileText (Text.Utf8.decode bytes)) = true)
    (hvouched : i.vouchedBy c.path w.host = .ok false) :
    ∃ S' w', Interleaving i c w₀ L S' w' ∧ w'.host = w.host ∧
      S' k = .unvouched (i.driver.scanFileText (Text.Utf8.decode bytes)) := by
  obtain ⟨w₁, hscan, hwarns₁⟩ := Invoker.run_readDirective_of_ok i hread
  obtain ⟨w₂, hcheck, hwarns₂⟩ := i.run_vouched
    (Invoker.withDirective c (i.driver.scanFileText (Text.Utf8.decode bytes))) w₁
  rw [Invoker.path_withDirective, hwarns₁.host_eq, hvouched] at hcheck
  exact ⟨_, w₂, (hi.scan k hk hscan hasks).check k (Function.update_self ..) hcheck,
    hwarns₂.host_eq.trans hwarns₁.host_eq, Function.update_self ..⟩

/-- After what has happened so far, a run **ends** with a result in a world: it leaves the file, and
what it calls a success has been read and recorded. -/
def Ends (i : Invoker) (c : Candidate) (w₀ : World) (L : Chronicle) (k : Nat)
    (x : Except Fault LintResult) (w : World) : Prop :=
  ∃ M S, Interleaving i c w₀ (L ++ M) S w ∧ S k = .away ∧
    ∀ z, x = .ok z → z.classification = .passed → ∃ bytes, M = [.read k bytes 0, .recorded k]

section Ends

variable {h₁ h' : Host} {d : Directive} {k : Nat} {p p' : Option ToolProbe} {xs : List Exchange}
  {x : Except Fault LintResult} {w' : World} {bytes : List UInt8}

/-- A run may end without a success while time passes. -/
theorem ends_of_later (hi : Interleaving i c w₀ L S w) (k : Nat) (hl : w.host.Later w'.host)
    (hx : ∀ z, x = .ok z → z.classification ≠ .passed) : Ends i c w₀ L k x w' :=
  ⟨[], _, (List.append_nil L).symm ▸ (hi.leave k).pass hl, Function.update_self ..,
    fun z hz hpassed => absurd hpassed (hx z hz)⟩

/-- The tool is tried while nothing else happens. -/
theorem ends_of_tried (ht : i.Tried (Invoker.withDirective c d) p xs h₁ x p' w'.host)
    (hi : Interleaving i c w₀ L S w) (hk : S k = .unvouched d) (hcache : i.cache? = some cache)
    (hread : w.host.read c.path = .ok bytes) (hlater : w.host.Later h₁)
    (hlapse : xs ≠ [] → ∃ n, h₁ = (w.lapse n).host) : Ends i c w₀ L k x w' := by
  -- the world in which the tool has read the file, whatever has been said by then
  have hreads : ∀ (journal : List Event) (done : Completed),
      Interleaving i c w₀ (L ++ [.read k bytes done.status])
        (update S k (.judged d bytes done)) ⟨w.host, journal⟩ := by
    intro journal done
    have hpassed : Interleaving i c w₀ L S ⟨w.host, journal⟩ := hi.pass (.refl _)
    exact hpassed.read k done hk hread
  have hworld : ∀ {n : Nat} {v : World}, v.host = (w.lapse n).host →
      (⟨w.host, v.journal⟩ : World).lapse n = v := by
    rintro n ⟨host, journal⟩ rfl
    rfl
  generalize hh : w'.host = h' at ht
  cases ht with
  | unprobed | broken => exact ends_of_later hi k (hh ▸ hlater) fun z hz => nomatch hz
  | barred | refused | lost | failed =>
    refine ends_of_later hi k (hh ▸ hlater) fun z hz => ?_
    cases hz
    exact fun h => nomatch h
  | @passed _ xs _ done _ _ hv hstatus hrecorded =>
    obtain ⟨n, hn⟩ := hlapse (by simp)
    cases hrecorded with
    | uncached hnone =>
      rw [hcache] at hnone
      cases hnone
    | @cached cache' v r v' hc hrecord =>
      have hjudge : (i.judge (Invoker.withDirective c d) done).run
          ((⟨w.host, v.journal⟩ : World).lapse n) =
          (.ok ⟨Invoker.withDirective c d, .passed, some 0⟩, v') := by
        rw [hworld hn, judge_eq_record hc hstatus, Action.run_bind_ok hrecord]
        rfl
      have hend := (hreads v.journal done).record k n (Function.update_self ..) hstatus hjudge
      rw [hstatus, List.append_assoc] at hend
      exact ⟨_, _, hend.pass (hh ▸ .refl _), Function.update_self .., fun _ _ _ => ⟨bytes, rfl⟩⟩
  | @unrecorded _ xs _ done e _ _ hv hstatus hrecorded =>
    obtain ⟨n, hn⟩ := hlapse (by simp)
    cases hrecorded with
    | @cached cache' v r v' hc hrecord =>
      have hjudge : (i.judge (Invoker.withDirective c d) done).run
          ((⟨w.host, v.journal⟩ : World).lapse n) = (.error e, v') := by
        rw [hworld hn, judge_eq_record hc hstatus, Action.run_bind_error hrecord]
      have hend := (hreads v.journal done).refuse k n (Function.update_self ..) hjudge
      exact ⟨_, _, hend.pass (hh ▸ .refl _), Function.update_self .., fun _ hz => nomatch hz⟩

end Ends

/-- **An invocation is an interleaving** when nothing happens in between: with a runner that takes
some time for each command and changes nothing, dealing with the file goes through the stages of a
run. A success has been read and recorded. -/
theorem of_invoke {s s' : Session} {x : Except Fault LintResult}
    (hi : Interleaving i c w₀ L S s.world) {k : Nat} (hk : S k = .away)
    (hcache : i.cache? = some cache)
    (hslow : ∀ w call, ∃ n, (i.runner w call).host = (w.lapse n).host)
    (hrun : (i.invoke c).run s = (x, s')) : Ends i c w₀ L k x s'.world := by
  obtain ⟨xs, w₁, hwarns, -, hdealt⟩ := Invoker.dealt_of_run hrun
  -- all commands together take some time, unless there are none
  have hlapse : xs ≠ [] → ∃ n, w₁.host = (s.world.lapse n).host := exists_lapse hslow hwarns
  have hlater : s.world.host.Later w₁.host := by
    by_cases hxs : xs = []
    · subst hxs
      rw [hwarns.host_eq]
      exact .refl _
    · obtain ⟨n, hn⟩ := hlapse hxs
      exact hn ▸ s.world.later_lapse n
  generalize hh₁ : w₁.host = h₁ at hdealt hlapse hlater
  generalize hh : s'.world.host = h' at hdealt
  generalize s.probe = p at hdealt
  generalize s'.probe = p' at hdealt
  cases hdealt with
  | unread =>
    refine ends_of_later hi k (hh ▸ hlater) fun z hz => ?_
    cases hz
    exact fun h => nomatch h
  | broken => exact ends_of_later hi k (hh ▸ hlater) fun z hz => nomatch hz
  | read hread hweighed =>
    cases hweighed with
    | skipped | cached =>
      refine ends_of_later hi k (hh ▸ hlater) fun z hz => ?_
      cases hz
      exact fun h => nomatch h
    | unclear => exact ends_of_later hi k (hh ▸ hlater) fun z hz => nomatch hz
    | tried hasks hvouched htried =>
      obtain ⟨S', w', hi', hhost, hk'⟩ := hi.exists_unvouched hk hread hasks hvouched
      subst hh
      rw [← hhost] at hread hlater
      refine ends_of_tried htried hi' hk' hcache hread hlater fun hxs => ?_
      obtain ⟨n, hn⟩ := hlapse hxs
      exact ⟨n, by rw [hn, World.lapse, World.lapse, hhost]⟩

/-- **What a valid marker stands on.** Let a cache that is not there yet serve runs which deal with
a file side by side, while the file is edited. Whatever comes about, if the cache vouches for the
file, a success stands: a run has recorded one since the last edit. And if a success stands, either
the tool has read what the file holds now and ended with status 0, or the success has been
overtaken: the file was edited after the tool had read it, and before the run recorded it. As long
as no success that stands has been overtaken, a valid marker is about what the file holds. Whenever
a success stands, the cache vouches for the file, unless the file was from the future at first. -/
theorem isValid_stands (hi : Interleaving i c w₀ L S w) (hcache : i.cache? = some cache)
    (hdir : cache.directory.Proper) (ho : w₀.host.Orderly)
    (hno : w₀.host.isDirectory cache.directory ≠ .ok true)
    (hstraight : w₀.host.Straight cache.directory) (hr : w₀.host.Resolved c.path)
    (hf : w₀.host.isFile c.path = .ok true) (hfirst : w₀.host.read c.path = .ok first) :
    w.host.read c.path = .ok (L.content first) ∧
      (((cache.isValid c.path).run w).1 = .ok true → L.Stands) ∧
      (L.Stands → L.Passed (L.content first) ∨ L.Overtaken) ∧
      (w₀.host.Aged c.path → L.Stands → ((cache.isValid c.path).run w).1 = .ok true) := by
  have hs := hi.sound hcache hdir ho hno hstraight hr hf hfirst
  obtain ⟨w', hrun, -⟩ := cache.run_isValid c.path w
  obtain ⟨hearned, hvouched⟩ := hs.books.vouches hdir hs.resolved hs.file
  have hvalid : ((cache.isValid c.path).run w).1 = cache.vouches c.path w.host := by rw [hrun]
  rw [Chronicle.earned_ledger_iff] at hearned hvouched
  rw [hvalid]
  exact ⟨hs.content, hearned, hs.faithful.passed_or_overtaken, hvouched hs.outside⟩

/-- The invoker of the samples. -/
def sample : Invoker := (DriverRun.sample 0).invoker

/-- The candidate of the samples. -/
def sampleCandidate : Candidate := ⟨.absolute ["r", "b.py"], .python, []⟩

/-- The first world of the samples: a file that asks for linting. -/
def sampleWorld : World := ⟨.holding [["r"]] [(["r", "b.py"], DriverRun.sampleBytes)], []⟩

/-- The world of the samples after a run has read the header and asked the cache. -/
def sampleChecked : World :=
  ((sample.vouched sampleCandidate).run
    ((Invoker.readDirective sample.driver sampleCandidate.path).run sampleWorld).2).2

/-- In the samples the tool reads the file for a run, and finds no fault with it. -/
theorem exists_read_sample : ∃ S,
    S 0 = .judged { state := .present } DriverRun.sampleBytes { command := [], status := 0 } ∧
    Interleaving sample sampleCandidate sampleWorld [.read 0 DriverRun.sampleBytes 0] S
      sampleChecked := by
  have hscanned : ((Invoker.readDirective sample.driver sampleCandidate.path).run sampleWorld).1 =
      .ok { state := .present } := by decide +kernel
  have hchecked : ((sample.vouched sampleCandidate).run
      ((Invoker.readDirective sample.driver sampleCandidate.path).run sampleWorld).2).1 =
      .ok false := by decide +kernel
  have hheld : sampleChecked.host.read sampleCandidate.path = .ok DriverRun.sampleBytes := by
    decide +kernel
  have hscan := Interleaving.start.scan 0 rfl (Action.run_eq_of_fst hscanned) (by decide)
  have hcheck := hscan.check 0 rfl (Action.run_eq_of_fst hchecked)
  exact ⟨_, rfl, hcheck.read 0 { command := [], status := 0 } rfl hheld⟩

/-- What a run has recorded while nobody has edited the file is about what the file holds. -/
theorem isValid_stands_sample : ∃ L S w,
    Interleaving sample sampleCandidate sampleWorld L S w ∧
    (((DriverRun.sample 0).store.isValid sampleCandidate.path).run w).1 = .ok true ∧
    L.Passed (L.content DriverRun.sampleBytes) := by
  obtain ⟨S, hS, hread⟩ := exists_read_sample
  have hjudged : ((sample.judge (Invoker.withDirective sampleCandidate { state := .present })
      { command := [], status := 0 }).run (sampleChecked.lapse 0)).1 =
      .ok ⟨sampleCandidate, .passed, some 0⟩ := by decide +kernel
  have hrecord := hread.record 0 0 hS rfl (Action.run_eq_of_fst hjudged)
  have hstands := Chronicle.stands_append_recorded (L := [.read 0 DriverRun.sampleBytes 0]) (k := 0)
  have hstraight : sampleWorld.host.Straight (DriverRun.sample 0).store.directory := by
    intro parts hparts
    have hmem := hparts.subset (by simp : ".." ∈ parts ++ [".."])
    exact absurd hmem (by decide)
  have hfirst : sampleWorld.host.read sampleCandidate.path = .ok DriverRun.sampleBytes := by
    decide +kernel
  obtain ⟨-, -, hpassed, hvalid⟩ := isValid_stands hrecord rfl (by decide) (by decide +kernel)
    (by decide +kernel) hstraight (by decide +kernel) (by decide +kernel) hfirst
  have haged : sampleWorld.host.Aged sampleCandidate.path := by
    rintro t ⟨bytes, x, hn⟩
    have hnode : sampleWorld.host.disk.node? sampleCandidate.path.parts =
        some (.file DriverRun.sampleBytes false 0) := by decide +kernel
    rw [hnode] at hn
    cases hn
    decide
  refine ⟨_, _, _, hrecord, hvalid haged hstands, (hpassed hstands).resolve_right ?_⟩
  -- nothing has happened between the reading and the record
  rintro ⟨L₁, k, bytes, L₂, L₃, hL, -, hedited, -⟩
  have hlength := congrArg List.length hL
  simp only [List.length_append, List.length_cons, List.length_nil] at hlength
  obtain rfl : L₂ = [] := List.length_eq_zero_iff.mp (by omega)
  exact hedited fun _ h => nomatch h

/-- What an editor makes of the file of the samples. It still asks for linting. -/
def sampleEdit : List UInt8 := DriverRun.sampleBytes ++ [33]

/-- An edit between the reading and the record: the cache vouches for a content that the tool has
never read, and the next run does not have it read. -/
theorem isValid_of_overtaken : ∃ L S w,
    Interleaving sample sampleCandidate sampleWorld L S w ∧
    sampleWorld.host.isDirectory (DriverRun.sample 0).store.directory = .ok false ∧
    (((DriverRun.sample 0).store.isValid sampleCandidate.path).run w).1 = .ok true ∧
    w.host.read sampleCandidate.path = .ok sampleEdit ∧ ¬L.Passed sampleEdit ∧
    ((sample.invoke sampleCandidate).run ⟨w, none⟩).1 = .ok ⟨sampleCandidate, .cached, none⟩ := by
  obtain ⟨S, hS, hread⟩ := exists_read_sample
  have hwritten : ((Host.writeFile sampleCandidate.path sampleEdit false
      (sampleChecked.lapse 0).host.clock).run (sampleChecked.lapse 0).host).1 = .ok () := by
    decide +kernel
  have hedit := hread.edit sampleEdit false 0 (Action.run_eq_of_fst hwritten)
  generalize hw : World.mk ((Host.writeFile sampleCandidate.path sampleEdit false
    (sampleChecked.lapse 0).host.clock).run (sampleChecked.lapse 0).host).2
    (sampleChecked.lapse 0).journal = w at hedit
  have hjudged : ((sample.judge (Invoker.withDirective sampleCandidate { state := .present })
      { command := [], status := 0 }).run (w.lapse 0)).1 =
      .ok ⟨sampleCandidate, .passed, some 0⟩ := by
    subst hw
    decide +kernel
  have hrecord := hedit.record 0 0 hS rfl (Action.run_eq_of_fst hjudged)
  have hnever : ¬Chronicle.Passed
      [.read 0 DriverRun.sampleBytes 0, .edited sampleEdit, .recorded 0] sampleEdit := by
    rintro ⟨k, hk⟩
    simp [sampleEdit] at hk
  refine ⟨_, _, _, hrecord, by decide +kernel, ?_, ?_, hnever, ?_⟩ <;> subst hw <;> decide +kernel

end Interleaving

end OptIn
