import Mathlib.Logic.Function.Basic
import OptIn.Proofs.Cache.Ledger
import OptIn.Proofs.Cache.Twins

/-!
# Caches as registers

A cache directory stands for a register: for each name of a marker the time of the last success
that was recorded under it. Whatever happens to the files, as long as they stand aside from the
directory, the two go in step (`ResultCache.InStep`): one operation keeps them in step
(`InStep.perform`), and so does every course of operations that begins where the directory is
missing and can be made (`inStep_after`). So the cache answers by the register
(`ResultCache.keeps_register`). It does not where the path of a marker is too long as a whole, nor
where the directory, once made, is not empty (`not_answersBy_situations`).
-/

namespace OptIn

/-- What can happen to a cache and to the files that it is asked about. -/
inductive Operation where
  | record (p : Path)
  /-- A file is written, new or in place of another, and left with any time. -/
  | write (p : Path) (bytes : List UInt8) (executable : Bool) (t : Int)
  | delete (p : Path)
  /-- Time passes. -/
  | wait (n : Nat)

/-- The path of the file that an operation is about. -/
def Operation.path? : Operation → Option Path
  | record p | write p .. | delete p => some p
  | wait _ => none

/-- A **register** of successes: the time, and when the last success was under each name. -/
structure Register where
  clock : Int
  last : String → Option Int

namespace Register

/-- A register in which nothing has been entered. -/
def blank (clock : Int) : Register := ⟨clock, fun _ => none⟩

/-- The register after an operation. -/
def next (r : Register) : Operation → Register
  | .record p => { r with last := Function.update r.last (cacheKey p) (some r.clock) }
  | .write .. | .delete _ => r
  | .wait n => { r with clock := r.clock + n }

/-- The register after some operations. -/
def after (r : Register) (ops : List Operation) : Register := ops.foldl next r

variable {r : Register} {o : Operation} {ops : List Operation} {key : String} {m clock : Int}

theorem after_append_singleton (r : Register) (ops : List Operation) (o : Operation) :
    r.after (ops ++ [o]) = (r.after ops).next o := List.foldl_append

theorem clock_next_record (r : Register) (p : Path) : (r.next (.record p)).clock = r.clock := by
  simp only [next]

theorem last_next_record (r : Register) (p : Path) (key : String) :
    (r.next (.record p)).last key = if key = cacheKey p then some r.clock else r.last key := by
  simp only [next, Function.update_apply]

/-- An entry stays until the next success under its name. -/
theorem last_next_of_ne (ho : ∀ p, o = .record p → cacheKey p ≠ key) :
    (r.next o).last key = r.last key := by
  cases o with
  | record p => rw [last_next_record, if_neg (ho p rfl).symm]
  | write | delete | wait => rfl

/-- What a register says is when the last success was under a name. -/
theorem last_after_blank_iff :
    ((blank clock).after ops).last key = some m ↔
      ∃ before p behind, ops = before ++ .record p :: behind ∧ cacheKey p = key ∧
        (∀ q, .record q ∈ behind → cacheKey q ≠ key) ∧
        ((blank clock).after before).clock = m := by
  -- by induction on the last operation, for only that one can outdo what was recorded before it
  induction ops using List.reverseRecOn with
  | nil => simp [after, blank]
  | append_singleton ops o ih =>
    rw [after_append_singleton]
    constructor
    · intro hlast
      by_cases ho : ∃ p, o = .record p ∧ cacheKey p = key
      · obtain ⟨p, rfl, rfl⟩ := ho
        rw [last_next_record, if_pos rfl] at hlast
        exact ⟨ops, p, [], rfl, rfl, fun _ h => (nomatch h), Option.some.inj hlast⟩
      · rw [last_next_of_ne fun p hp hkey => ho ⟨p, hp, hkey⟩] at hlast
        obtain ⟨before, p, behind, rfl, hkey, hnot, hm⟩ := ih.mp hlast
        refine ⟨before, p, behind ++ [o], by simp, hkey, fun q hq => ?_, hm⟩
        rcases List.mem_append.mp hq with hq | hq
        · exact hnot q hq
        · exact fun hqk => ho ⟨q, (List.mem_singleton.mp hq).symm, hqk⟩
    · rintro ⟨before, p, behind, hops, hkey, hnot, hm⟩
      rcases Ledger.append_singleton_eq_iff.mp hops with ⟨rfl, rfl, rfl⟩ | ⟨behind, rfl, rfl⟩
      · rw [last_next_record, if_pos hkey.symm, hm]
      · rw [last_next_of_ne fun q hq => hnot q (by simp [hq])]
        exact ih.mpr
          ⟨before, p, behind, rfl, hkey, fun q hq => hnot q (List.mem_append_left _ hq), hm⟩

end Register

namespace ResultCache

/-- What an operation does. -/
def perform (c : ResultCache) : Operation → Action World Unit
  | .record p => c.record p
  | .write p bytes x t => World.onHost (Host.writeFile p bytes x t)
  | .delete p => World.onHost (Host.unlink p)
  | .wait n => World.onHost (modify fun h => { h with clock := h.clock + n })

/-- The world after some operations. -/
def after (c : ResultCache) (w : World) (ops : List Operation) : World :=
  ops.foldl (fun w o => ((c.perform o).run w).2) w

/-- A path that a cache can **track**: it leads to a name in a directory that is there, aside from
that of the cache, and the name of its marker is short enough. -/
structure Tracks (c : ResultCache) (h : Host) (a : Address) (p : Path) : Prop where
  proper : p.Proper
  noNull : holdsNull p.text = false
  short : (cacheKey p).utf8ByteSize ≤ Disk.nameLimit
  place : ∃ q name b t, p = q.down name ∧ name ≠ ".." ∧ h.stat q = .ok (b, .directory t) ∧
    h.Aside c.directory a (b ++ [name])

/-- A cache **answers by** a register about a file when it says, and does nothing else, whether the
file is there and older than the last success under the name of its marker. -/
def AnswersBy (c : ResultCache) (r : Register) (p : Path) (w : World) : Prop :=
  ∃ valid w', (c.isValid p).run w = (.ok valid, w') ∧ w'.host = w.host ∧
    (valid = true ↔
      ∃ t m, w.host.changed p = .ok t ∧ r.last (cacheKey p) = some m ∧ t < m)

/-- A cache and a register are **in step** on a host that has come from another one: nothing has
changed but files aside and markers, the directory is still to be made or holds nothing but files,
and these bear the times in the register. -/
structure InStep (c : ResultCache) (h₀ : Host) (a : Address) (r : Register) (h : Host) : Prop where
  alters : h₀.Alters (fun b => h₀.Aside c.directory a b ∨ Host.InStore a b) h
  clock : h.clock = r.clock
  kept : h₀.Twin (h₀.Aside c.directory a) h ∨ h.Shelf c.directory a
  times : ∀ key, (h.disk.node? (a ++ [key])).map Node.changed = r.last key

variable {c : ResultCache} {h₀ h h' : Host} {a b : Address} {r : Register} {p : Path}
  {w : World} {o : Operation} {ops : List Operation} {within : Address → Prop}

theorem after_append_singleton (c : ResultCache) (w : World) (ops : List Operation)
    (o : Operation) : c.after w (ops ++ [o]) = ((c.perform o).run (c.after w ops)).2 :=
  List.foldl_append

/-! ### Paths that are tracked -/

namespace Tracks

theorem markable (hp : c.Tracks h a p) : p.Markable where
  proper := hp.proper
  ne_nil := by
    obtain ⟨q, name, b, t, rfl, -⟩ := hp.place
    simp
  ne_up hparts := by
    obtain ⟨q, name, b, t, rfl, hup, -⟩ := hp.place
    have hsame : q.parts ++ [name] = [] ++ [".."] := hparts
    exact hup (List.cons.inj (List.append_inj' hsame rfl).2).1
  noNull := hp.noNull

theorem askable (hp : c.Tracks h a p) : p.Askable := by
  refine ⟨?_, hp.noNull⟩
  have hsize := utf8ByteSize_text_eq hp.proper hp.markable.ne_nil
  have hanchor : p.anchor.text.utf8ByteSize ≤ 2 := by cases p.anchor <;> decide
  have hshort := hp.short
  rw [Disk.nameLimit] at hshort
  rw [Disk.textLimit]
  omega

/-- A tracked path leads aside from the cache, whatever it is followed for, and not to a link. -/
theorem exists_placeOf (hp : c.Tracks h₀ a p) (ho : h₀.Orderly) (hg : h₀.Alters within h) :
    ∃ b, h₀.Aside c.directory a b ∧ (∀ target, h.disk.node? b ≠ some (.link target)) ∧
      ∀ purpose, ∃ place, h.placeOf purpose p.text = .ok place ∧ place.address = b := by
  have hask := hp.askable
  have hproper := hp.proper
  have hshort := hp.short
  obtain ⟨q, name, b, t, rfl, hup, hs, haside⟩ := hp.place
  obtain ⟨hq, hn⟩ := Path.proper_down_iff.mp hproper
  obtain ⟨t', hs'⟩ := hg.stat_directory ho hq hs
  have hlink : ∀ target, h.disk.node? (b ++ [name]) ≠ some (.link target) := by
    intro target hlink
    cases haside.file _ (hg.link.mp hlink)
  refine ⟨b ++ [name], haside, hlink, fun purpose => ?_⟩
  rw [Host.placeOf_down_of_stat (hg.orderly ho) hq hn hup hask
    (Nat.le_trans (utf8ByteSize_le_cacheKey_down hproper) hshort) hs' (.inr hlink)]
  split <;> exact ⟨_, rfl, rfl⟩

/-- A tracked path leads to something that was changed at some time, or it is missing. -/
theorem changed_cases (hp : c.Tracks h₀ a p) (ho : h₀.Orderly) (hg : h₀.Alters within h) :
    (∃ t, h.changed p = .ok t) ∨ h.changed p = .error (.system .notFound p.text) := by
  obtain ⟨b, -, -, hplace⟩ := hp.exists_placeOf ho hg
  obtain ⟨n | b, huse, -⟩ := hplace .use
  · exact .inl ⟨_, Host.changed_of_stat (Host.stat_eq_ok_iff_placeOf.mpr huse)⟩
  · exact .inr (changed_of_stat_error (Host.stat_of_vacant h huse))

end Tracks

/-! ### One operation -/

namespace InStep

theorem wait (hi : c.InStep h₀ a r h) (n : Nat) :
    c.InStep h₀ a (r.next (.wait n)) { h with clock := h.clock + n } where
  alters := hi.alters.trans (Host.grows_of_clock _ (by omega)).toAlters
  clock := by rw [hi.clock]; rfl
  kept := hi.kept.imp (fun ht => ⟨ht.cwd, ht.directory, ht.link, ht.free⟩)
    fun hs => ⟨hs.there, hs.files⟩
  times := hi.times

/-- A marker that is stamped is an entry in the register. -/
theorem stamped (hi : c.InStep h₀ a r h)
    (hs : h.Stamped h' c.directory a (cacheKey p)) :
    c.InStep h₀ a (r.next (.record p)) h' where
  alters := hi.alters.trans (hs.grows.toAlters.mono fun b hb => .inr ⟨_, hb⟩)
  clock := by rw [hs.clock, hi.clock, Register.clock_next_record]
  kept := .inr hs.shelf
  times key := by
    rw [Register.last_next_record]
    split_ifs with hkey
    · obtain ⟨bytes, x, hmarker⟩ := hs.marker
      rw [hkey, hmarker, ← hi.clock]
      rfl
    · rw [hs.others hkey]
      exact hi.times key

variable (ho : h₀.Orderly) (hdir : c.directory.Proper) (hc : h₀.Creatable c.directory a)

include ho hdir hc

theorem blank : c.InStep h₀ a (.blank h₀.clock) h₀ where
  alters := .refl _ h₀
  clock := rfl
  kept := .inl (.refl _ h₀)
  times key := by
    rw [hc.free ho hdir key]
    rfl

theorem offers (hi : c.InStep h₀ a r h) : h.Offers c.directory a :=
  hi.kept.symm.imp_right fun ht => hc.twin ht ho (hi.alters.orderly ho) hdir

/-- What happens to a file aside changes nothing in the cache. -/
theorem retouched (hi : c.InStep h₀ a r h) (hb : h₀.Aside c.directory a b)
    (hr : h.Retouched b h') : c.InStep h₀ a r h' where
  alters := hi.alters.trans (hr.toAlters.mono fun d hd => .inl (hd ▸ hb))
  clock := hr.now.trans hi.clock
  kept := hi.kept.imp
    (fun ht => ht.trans ((Host.Twin.of_retouched hr).mono fun d hd => hd ▸ hb))
    fun hs => hr.shelf (hi.alters.orderly ho) hdir hs hb.outside
  times key := by
    rcases hr.cases (hb.outside key).symm with hsame | ⟨t, t', hd, -⟩
    · rw [hsame]
      exact hi.times key
    · cases (hi.offers ho hdir hc).files (hi.alters.orderly ho) hdir hd

/-- An operation keeps a cache and a register in step. -/
theorem perform (hi : c.InStep h₀ a r w.host)
    (ht : ∀ p, o.path? = some p → c.Tracks h₀ a p ∧ c.Fits p) :
    c.InStep h₀ a (r.next o) ((c.perform o).run w).2.host := by
  have how := hi.alters.orderly ho
  cases o with
  | record p =>
    obtain ⟨hp, hfits⟩ := ht p rfl
    obtain ⟨w', hrun, hs⟩ :=
      run_record_of_offers how hdir (hi.offers ho hdir hc) hp.markable hfits
    rw [ResultCache.perform, hrun]
    exact hi.stamped hs
  | write p bytes x t =>
    obtain ⟨b, hb, -, hplace⟩ := (ht p rfl).1.exists_placeOf ho hi.alters
    obtain ⟨place, hleads, rfl⟩ := hplace .create
    exact hi.retouched ho hdir hc hb
      (Host.retouched_of_writeFile how (ht p rfl).1.proper hleads rfl)
  | delete p =>
    obtain ⟨b, hb, hlink, hplace⟩ := (ht p rfl).1.exists_placeOf ho hi.alters
    obtain ⟨place, hleads, rfl⟩ := hplace .examine
    exact hi.retouched ho hdir hc hb
      (Host.retouched_of_unlink how (ht p rfl).1.proper hleads hlink rfl)
  | wait n => exact hi.wait n

/-- A cache in step with a register answers by it. -/
theorem answersBy (hi : c.InStep h₀ a r w.host) (hp : c.Tracks h₀ a p) (hfits : c.Fits p) :
    c.AnswersBy r p w := by
  have how := hi.alters.orderly ho
  have hm := changed_entry_of_offers how hdir (hi.offers ho hdir hc) hp.markable hfits
  have htime := hi.times (cacheKey p)
  obtain ⟨w', hrun, hw'⟩ := c.run_isValid p w
  have hhost : w'.host = w.host := by
    rcases hw' with rfl | ⟨text, rfl⟩ <;> rfl
  rcases hn : w.host.disk.node? (a ++ [cacheKey p]) with _ | n
  · rw [hn] at hm htime
    rw [vouches_of_error hm] at hrun
    refine ⟨false, w', hrun, hhost, ?_⟩
    simp [← htime]
  · rw [hn] at hm htime
    rcases hp.changed_cases ho hi.alters with ⟨t, ht⟩ | ht
    · rw [vouches_of_ok hm ht] at hrun
      refine ⟨_, w', hrun, hhost, ?_⟩
      simp [← htime, ht]
    · rw [vouches_of_missing hm ht] at hrun
      refine ⟨false, w', hrun, hhost, ?_⟩
      simp [ht]

end InStep

/-! ### Courses of operations -/

/-- Operations keep a cache and a register in step, if the cache begins with a missing directory and
the register is blank. -/
theorem inStep_after (ho : w.host.Orderly) (hdir : c.directory.Proper)
    (hc : w.host.Creatable c.directory a)
    (hops : ∀ o ∈ ops, ∀ p, o.path? = some p → c.Tracks w.host a p ∧ c.Fits p) :
    c.InStep w.host a ((Register.blank w.host.clock).after ops) (c.after w ops).host := by
  induction ops using List.reverseRecOn with
  | nil => exact .blank ho hdir hc
  | append_singleton ops o ih =>
    rw [Register.after_append_singleton, after_append_singleton]
    exact (ih fun o' ho' => hops o' (List.mem_append_left _ ho')).perform ho hdir hc
      (hops o (by simp))

/-- A cache whose directory is missing and can be made keeps a register of successes: after any
operations the register says of each name when the last success under it was recorded, a further
success can be recorded, and the cache answers by the register. -/
theorem keeps_register (ho : w.host.Orderly) (hdir : c.directory.Proper)
    (hc : w.host.Creatable c.directory a)
    (hops : ∀ o ∈ ops, ∀ q, o.path? = some q → c.Tracks w.host a q ∧ c.Fits q)
    (hp : c.Tracks w.host a p ∧ c.Fits p) :
    (∀ key m, ((Register.blank w.host.clock).after ops).last key = some m ↔
      ∃ before q behind, ops = before ++ .record q :: behind ∧ cacheKey q = key ∧
        (∀ q', .record q' ∈ behind → cacheKey q' ≠ key) ∧ (c.after w before).host.clock = m) ∧
    (∃ w', (c.record p).run (c.after w ops) = (.ok (), w')) ∧
    c.AnswersBy ((Register.blank w.host.clock).after ops) p (c.after w ops) := by
  have hi := inStep_after ho hdir hc hops
  refine ⟨fun key m => ?_, ?_, hi.answersBy ho hdir hc hp.1 hp.2⟩
  · rw [Register.last_after_blank_iff]
    refine exists₃_congr fun before q behind => and_congr_right fun heq => ?_
    have hbefore : c.InStep w.host a ((Register.blank w.host.clock).after before)
        (c.after w before).host :=
      inStep_after ho hdir hc fun o ho' => hops o (heq ▸ List.mem_append_left _ ho')
    rw [hbefore.clock]
  · obtain ⟨w', hrun, -⟩ := run_record_of_offers (hi.alters.orderly ho) hdir
      (hi.offers ho hdir hc) hp.1.markable hp.2
    exact ⟨w', hrun⟩

/-- A file is recorded, removed and written again with the time of the success, and another one is
written and recorded. -/
theorem keeps_register_sample :
    let c : ResultCache := ⟨.absolute ["r", "cache"]⟩
    let w : World := ⟨Host.holding [["r"]] [(["r", "a.py"], [])], []⟩
    let ops : List Operation := [.record (.absolute ["r", "a.py"]),
      .delete (.absolute ["r", "a.py"]), .wait 5, .write (.absolute ["r", "a.py"]) [] false 10,
      .write (.absolute ["r", "b.py"]) [] false 3, .record (.absolute ["r", "b.py"])]
    c.AnswersBy ((Register.blank 10).after ops) (.absolute ["r", "a.py"]) (c.after w ops) := by
  intro c w ops
  have ho : w.host.Orderly := by decide
  have hdir : c.directory.Proper := by decide
  have hs : w.host.stat (.absolute ["r"]) = .ok (["r"], .directory 0) := by decide +kernel
  have hask : ((Path.absolute ["r"]).down "cache").Askable := ⟨by decide, by decide⟩
  have hc : w.host.Creatable c.directory ["r", "cache"] :=
    Host.creatable_of_free (q := .absolute ["r"]) ho (by decide) (by decide) (by decide) hask
      (by decide) hs rfl
  have ha : c.Tracks w.host ["r", "cache"] (.absolute ["r", "a.py"]) ∧
      c.Fits (.absolute ["r", "a.py"]) :=
    ⟨⟨by decide, by decide, by decide +kernel, .absolute ["r"], "a.py", ["r"], 0, rfl, by decide,
      hs, Host.aside_of_file ho hdir rfl (by simp)⟩, by decide +kernel⟩
  have hb : c.Tracks w.host ["r", "cache"] (.absolute ["r", "b.py"]) ∧
      c.Fits (.absolute ["r", "b.py"]) :=
    ⟨⟨by decide, by decide, by decide +kernel, .absolute ["r"], "b.py", ["r"], 0, rfl, by decide,
      hs, Host.aside_of_free (q := .absolute ["r"]) (a := ["r"]) ho (by decide) (by decide)
        (by decide) hask (by decide) hs rfl rfl (by decide) (by simp)⟩, by decide +kernel⟩
  refine (keeps_register ho hdir hc (fun o hmem q hq => ?_) ha).2.2
  simp only [ops, List.mem_cons, List.not_mem_nil, or_false] at hmem
  rcases hmem with rfl | rfl | rfl | rfl | rfl | rfl <;> cases hq <;> assumption

/-- Where the directory is missing, there is no answer about a file whose marker has too long a
path. -/
theorem not_answersBy_of_long (ho : w.host.Orderly) (hdir : c.directory.Proper)
    (hc : w.host.Creatable c.directory a) (hp : p.Markable)
    (hlong : Disk.textLimit < (c.entry p).text.utf8ByteSize) (r : Register) :
    ¬c.AnswersBy r p w := by
  rintro ⟨valid, w', hrun, -⟩
  obtain ⟨w'', hrun', -⟩ := c.run_isValid p w
  rw [vouches_of_creatable ho hdir hc hp, if_neg (Nat.not_le.mpr hlong), hrun] at hrun'
  cases hrun'

/-- A cache in a directory that is written with 4080 bytes. -/
def deep : ResultCache := ⟨.absolute (List.replicate 408 "directory")⟩

theorem size_entry_deep (hp : p.Markable) :
    (deep.entry p).text.utf8ByteSize = 4081 + (cacheKey p).utf8ByteSize := by
  have hslash : "/".utf8ByteSize = 1 := by decide
  have hsize : deep.directory.text.utf8ByteSize = 4080 :=
    Path.utf8ByteSize_text_replicate "directory" 407
  have hparts : deep.directory.parts ≠ [] :=
    List.cons_ne_nil "directory" (List.replicate 407 "directory")
  rw [entry_eq _ hp, Path.text_down_of_ne_nil hparts, String.utf8ByteSize_append,
    String.utf8ByteSize_append, hsize, hslash]

/-- A cache whose path goes through a directory and up again. -/
def roundabout : ResultCache := ⟨⟨.root, ["r", "x", "..", "cache"]⟩⟩

/-- Where the path of a marker is too long as a whole, the cache gives no answer. Where the missing
directory turns out to hold a marker when it is made, because its path goes up from a directory that
is missing, the cache vouches for what was never recorded. -/
theorem not_answersBy_situations :
    let h := Host.holding [["r"]] [(["r", "somewhat_long.py"], [])]
    let h' := Host.holding [["r"], ["r", "cache"]]
      [(["r", "a.py"], []), (["r", "b.py"], []), (["r", "cache", "r%a.py"], [])]
    let ops : List Operation :=
      [.write (.absolute ["r", "a.py"]) [] false (-1), .record (.absolute ["r", "b.py"])]
    (h.Orderly ∧ h.Creatable deep.directory (List.replicate 408 "directory") ∧
      deep.Tracks h (List.replicate 408 "directory") (.absolute ["r", "somewhat_long.py"]) ∧
      ¬deep.AnswersBy (.blank h.clock) (.absolute ["r", "somewhat_long.py"]) ⟨h, []⟩) ∧
    h'.Orderly ∧
      h'.stat roundabout.directory = .error (.system .notFound roundabout.directory.text) ∧
      (∃ h'', (Host.makeDirectories roundabout.directory).run h' = (.ok (), h'')) ∧
      (∀ o ∈ ops, ∀ p, o.path? = some p →
        roundabout.Tracks h' ["r", "cache"] p ∧ roundabout.Fits p) ∧
      ¬roundabout.AnswersBy ((Register.blank h'.clock).after ops) (.absolute ["r", "a.py"])
        (roundabout.after ⟨h', []⟩ ops) := by
  intro h h' ops
  constructor
  · have ho : h.Orderly := by decide
    have hname : Path.ProperName "directory" := by decide
    have hdir : deep.directory.Proper := fun x hx => List.eq_of_mem_replicate hx ▸ hname
    have hc : h.Creatable deep.directory (List.replicate 408 "directory") :=
      Host.creatable_replicate ho hname (by decide) (by decide) (by decide) (t := 0)
        (by decide +kernel) rfl 407 (by decide)
    have hout : ∀ name, ["r", "somewhat_long.py"] ≠ List.replicate 408 "directory" ++ [name] := by
      intro name hsame
      have hlen := congrArg List.length hsame
      rw [List.length_append, List.length_replicate, List.length_singleton] at hlen
      exact absurd hlen (by decide)
    have hp : deep.Tracks h (List.replicate 408 "directory")
        (.absolute ["r", "somewhat_long.py"]) :=
      ⟨by decide, by decide, by decide +kernel, .absolute ["r"], "somewhat_long.py", ["r"], 0, rfl,
        by decide, by decide +kernel, Host.aside_of_file ho hdir rfl hout⟩
    refine ⟨ho, hc, hp, not_answersBy_of_long ho hdir hc hp.markable ?_ _⟩
    have hkey : (cacheKey (.absolute ["r", "somewhat_long.py"])).utf8ByteSize = 18 := by
      decide +kernel
    rw [size_entry_deep hp.markable, hkey]
    decide
  · have ho : h'.Orderly := by decide
    have hdir : roundabout.directory.Proper := by decide
    have hs : h'.stat (.absolute ["r"]) = .ok (["r"], .directory 0) := by decide +kernel
    refine ⟨ho, by decide +kernel, ⟨_, Action.run_eq_of_fst (by decide +kernel)⟩, ?_, ?_⟩
    · intro o hmem p hp
      simp only [ops, List.mem_cons, List.not_mem_nil, or_false] at hmem
      rcases hmem with rfl | rfl
      · cases hp
        exact ⟨⟨by decide, by decide, by decide +kernel, .absolute ["r"], "a.py", ["r"], 0, rfl,
          by decide, hs, Host.aside_of_file ho hdir rfl (by simp)⟩, by decide +kernel⟩
      · cases hp
        exact ⟨⟨by decide, by decide, by decide +kernel, .absolute ["r"], "b.py", ["r"], 0, rfl,
          by decide, hs, Host.aside_of_file ho hdir rfl (by simp)⟩, by decide +kernel⟩
    · rintro ⟨valid, w', hrun, -, hiff⟩
      have htrue : ((roundabout.isValid (.absolute ["r", "a.py"])).run
        (roundabout.after ⟨h', []⟩ ops)).1 = .ok true := by decide +kernel
      rw [hrun] at htrue
      cases htrue
      obtain ⟨t, m, -, hlast, -⟩ := hiff.mp rfl
      have hnone : ((Register.blank h'.clock).after ops).last
        (cacheKey (.absolute ["r", "a.py"])) = none := by decide +kernel
      rw [hnone] at hlast
      cases hlast

end ResultCache

end OptIn
