import OptIn.Proofs.Run.Course

/-!
# Which commands a run performs

As long as nothing is raised but that the version query finds no tool, a run that comes to its end
performs no command without need: none at all if no candidate is to be linted, and otherwise the
version query, once, and behind it one command for each candidate that is to be linted, if the query
succeeds (`DriverRun.commands_of_run`). `Invoker.Served` says what one candidate adds to the
exchanges, and `Invoker.Obeys` what they come to in all.
-/

namespace OptIn

/-- Whether a command has succeeded. -/
def Exchange.succeeded (e : Exchange) : Bool :=
  match e.answer with
  | .ok done => done.status = 0
  | .error _ => false

namespace Invoker

/-- The **order** to lint a candidate with this result, on a host: it can be read, it asks for
linting, and it is not one that the cache has vouched for. -/
def order? (i : Invoker) (h : Host) (c : Candidate) (x : Except Fault LintResult) :
    Option Candidate :=
  match h.read c.path with
  | .error _ => none
  | .ok bytes =>
    let d := i.driver.scanFileText (Text.Utf8.decode bytes)
    if i.asks d && x.toOption.map (·.classification) ≠ some .cached then some (withDirective c d)
    else none

/-- The orders to lint that invocations give, in order. -/
def orders (i : Invoker) (vs : List Invocation) : List Candidate :=
  vs.filterMap fun v => i.order? v.before.world.host v.candidate v.result

/-- What is raised says that the version query has not found the tool. -/
def Tame (i : Invoker) (e : Exchange) : Prop :=
  ∀ f, e.answer = .error f → e.call = ToolProbe.query i.driver.tool ∧ f.isNotFound = true

/-- How a candidate is **served**: what is known about the tool before, the order to lint it, if
any, the exchanges, and what is known behind. -/
inductive Served (i : Invoker) : Option ToolProbe → Option Candidate → List Exchange →
    Option ToolProbe → Prop
  | idle {k} : Served i k none [] k
  | barred {c p} : p.usable = false → Served i (some p) (some c) [] (some p)
  | refused {c answer p} : i.refutation ⟨ToolProbe.query i.driver.tool, answer⟩ = some p →
      Served i none (some c) [⟨ToolProbe.query i.driver.tool, answer⟩] (some p)
  | linted {k xs p c done} : Vetted i k xs p →
      Served i k (some c) (xs ++ [⟨i.lintCall c, .ok done⟩]) (some p)

/-- What exchanges **obey** that serve orders: nothing is asked without an order, the version query
comes first, and the orders follow if it has succeeded. -/
inductive Obeys (i : Invoker) : List Candidate → List Exchange → Option ToolProbe → Prop
  | idle : Obeys i [] [] none
  | asked {cs e xs p} : cs ≠ [] → e.call = ToolProbe.query i.driver.tool →
      e.succeeded = p.usable →
      xs.map Exchange.call = (if e.succeeded then cs.map i.lintCall else []) →
      Obeys i cs (e :: xs) (some p)

variable {i : Invoker} {c c' : Candidate} {cs : List Candidate} {h h' h₁ : Host}
  {k k' : Option ToolProbe} {xs ys : List Exchange} {x : Except Fault LintResult} {z : LintResult}
  {p : ToolProbe} {o : Option Candidate}

/-! ### One candidate -/

/-- A candidate that is tried and has a result is served. -/
theorem Tried.served (ht : Tried i c k xs h (.ok z) k' h') (htame : ∀ e ∈ xs, i.Tame e) :
    Served i k (some c) xs k' ∧ z.classification ≠ .skipped ∧ z.classification ≠ .cached := by
  cases ht with
  | barred hbad => exact ⟨.barred hbad, by simp [unusable]⟩
  | refused hrefuted => exact ⟨.refused hrefuted, by simp [unusable]⟩
  | lost hv =>
    have hcall := (htame _ (List.mem_append_right _ (List.mem_singleton.mpr rfl)) _ rfl).1
    exact absurd hcall (i.lintCall_ne_query c _)
  | failed hv => exact ⟨.linted hv, by simp⟩
  | passed hv => exact ⟨.linted hv, by simp⟩

/-- A candidate with a result is served by its order; it has none if it cannot be read, is skipped,
or is vouched for by the cache. -/
theorem Dealt.served (hd : Dealt i h c k xs h₁ (.ok z) k' h') (htame : ∀ e ∈ xs, i.Tame e) :
    Served i k (i.order? h c (.ok z)) xs k' ∧
      (i.order? h c (.ok z) = none ↔
        (∃ e, h.read c.path = .error e) ∨ z.classification = .skipped ∨
          z.classification = .cached) := by
  cases hd with
  | unread hread => simpa [order?, hread] using Served.idle
  | read hread hweighed =>
    cases hweighed with
    | skipped hasks => simpa [order?, hread, hasks] using Served.idle
    | cached hasks => simpa [order?, hread, hasks, Except.toOption] using Served.idle
    | tried hasks _ htried =>
      obtain ⟨hserved, hskipped, hcached⟩ := htried.served htame
      simpa [order?, hread, hasks, Except.toOption, hskipped, hcached] using hserved

/-- The order of a candidate that can be read is the candidate of its result, unless that counts as
skipped. -/
theorem Dealt.order?_eq (hd : Dealt i h c k xs h₁ (.ok z) k' h')
    (hread : ∃ bytes, h.read c.path = .ok bytes) : i.order? h c (.ok z) =
      if z.classification.countsAsSkipped then none else some z.candidate := by
  obtain ⟨bytes, hread⟩ := hread
  cases hd with
  | unread hfault => cases hread.symm.trans hfault
  | read hread hweighed =>
    cases hweighed with
    | skipped hasks => simp [order?, hread, hasks, Classification.countsAsSkipped]
    | cached hasks =>
      simp [order?, hread, hasks, Except.toOption, Classification.countsAsSkipped]
    | tried hasks _ htried =>
      cases htried <;>
        simp [order?, hread, hasks, Except.toOption, unusable, Classification.countsAsSkipped]

/-! ### All candidates -/

theorem orders_concat (i : Invoker) (vs : List Invocation) (v : Invocation) :
    i.orders (vs ++ [v]) =
      i.orders vs ++ (i.order? v.before.world.host v.candidate v.result).toList := by
  rw [orders, List.filterMap_append, ← orders]
  cases hv : i.order? v.before.world.host v.candidate v.result <;> simp [hv]

theorem Vetted.succeeded {e : Exchange} (hv : Vetted i none [e] p) :
    e.call = ToolProbe.query i.driver.tool ∧ e.succeeded = true := by
  cases hv with
  | answered hstatus => exact ⟨rfl, by simp [Exchange.succeeded, hstatus]⟩

theorem succeeded_eq_false_of_refutation {answer : Except Fault Completed}
    (hr : i.refutation ⟨ToolProbe.query i.driver.tool, answer⟩ = some p) :
    Exchange.succeeded ⟨ToolProbe.query i.driver.tool, answer⟩ = false := by
  cases answer with
  | error e => rfl
  | ok done =>
    rw [refutation_query_of_ok] at hr
    split_ifs at hr with hstatus
    simpa [Exchange.succeeded] using hstatus

/-- Serving another candidate goes on as before. -/
theorem Obeys.next (ho : i.Obeys cs xs k) (hs : i.Served k o ys k') :
    i.Obeys (cs ++ o.toList) (xs ++ ys) k' := by
  -- after the query, `k` says whether it has succeeded, and with it whether orders are followed
  cases hs with
  | idle => simpa using ho
  | @barred c p hbad =>
    cases ho with
    | asked hne hcall husable hxs =>
      rw [hbad] at husable
      rw [husable, if_neg Bool.false_ne_true] at hxs
      exact .asked (by simp) hcall (by rw [husable, hbad]) (by simp [hxs, husable])
  | @refused c answer p hrefuted =>
    cases ho with
    | idle =>
      have hfailed := succeeded_eq_false_of_refutation hrefuted
      exact .asked (by simp) rfl (by rw [hfailed, usable_of_refutation hrefuted])
        (by simp [hfailed])
  | @linted _ zs p c done hv =>
    cases ho with
    | idle =>
      have husable := hv.usable
      cases hv with
      | answered hstatus hshown =>
        have hsucceeded : Exchange.succeeded ⟨ToolProbe.query i.driver.tool, .ok _⟩ = true :=
          (Vetted.answered (i := i) hstatus hshown).succeeded.2
        exact .asked (by simp) rfl (by rw [hsucceeded, husable]) (by simp [hsucceeded])
    | asked hne hcall husable hxs =>
      cases hv with
      | known hgood =>
        rw [hgood] at husable
        rw [husable, if_pos rfl] at hxs
        exact .asked (by simp) hcall (by rw [husable, hgood]) (by simp [hxs, husable])

/-- The commands that serve orders. -/
theorem Obeys.map_call (ho : i.Obeys cs xs k) :
    xs.map Exchange.call =
      if cs = [] then []
      else ToolProbe.query i.driver.tool ::
        if xs.head?.any Exchange.succeeded then cs.map i.lintCall else [] := by
  cases ho with
  | idle => rfl
  | asked hne hcall _ hxs =>
    rw [List.map_cons, hcall, hxs, if_neg hne, List.head?_cons, Option.any_some]

/-- The exchanges of a history whose candidates have results obey its orders. -/
theorem History.obeys {vs : List Invocation} (hh : i.History vs k)
    (hok : ∀ v ∈ vs, ∃ z, v.result = .ok z)
    (htame : ∀ v ∈ vs, ∀ e ∈ (i.transcript v).exchanges, i.Tame e) :
    i.Obeys (i.orders vs) (vs.flatMap fun v => (i.transcript v).exchanges) k := by
  induction hh with
  | start => exact .idle
  | @next vs k v hh hk hrun ih =>
    obtain ⟨z, hz⟩ := hok v (by simp)
    obtain ⟨hdealt, -⟩ := dealt_transcript hrun
    rw [hz] at hdealt
    have hserved := (hdealt.served (htame v (by simp))).1
    rw [hk] at hserved
    have hnext := (ih (fun u hu => hok u (by simp [hu])) fun u hu => htame u (by simp [hu])).next
      hserved
    rwa [orders_concat, hz, List.flatMap_append, List.flatMap_singleton]

/-- A history orders nothing if and only if each of its candidates, all of which have results,
cannot be read, is skipped, or is vouched for by the cache. -/
theorem orders_eq_nil_iff {vs : List Invocation}
    (hruns : ∀ v ∈ vs, (i.invoke v.candidate).run v.before = (v.result, v.after))
    (hok : ∀ v ∈ vs, ∃ z, v.result = .ok z)
    (htame : ∀ v ∈ vs, ∀ e ∈ (i.transcript v).exchanges, i.Tame e) :
    i.orders vs = [] ↔ ∀ v ∈ vs, (∃ e, v.before.world.host.read v.candidate.path = .error e) ∨
      ∃ z, v.result = .ok z ∧ (z.classification = .skipped ∨ z.classification = .cached) := by
  rw [orders, List.filterMap_eq_nil_iff]
  refine forall₂_congr fun v hv => ?_
  obtain ⟨z, hz⟩ := hok v hv
  obtain ⟨hdealt, -⟩ := dealt_transcript (hruns v hv)
  rw [hz] at hdealt
  rw [hz, (hdealt.served (htame v hv)).2]
  simp

/-- What is ordered: the candidates of the history that ask for linting, with the arguments of their
headers, unless the cache has vouched for them. -/
theorem mem_orders_iff {vs : List Invocation} : c ∈ i.orders vs ↔ ∃ v ∈ vs, ∃ d,
    i.AsksBy v.before.world.host v.candidate d ∧
      (∀ z, v.result = .ok z → z.classification ≠ .cached) ∧ c = withDirective v.candidate d := by
  rw [orders, List.mem_filterMap]
  refine exists_congr fun v => and_congr_right fun _ => ?_
  have hcached : v.result.toOption.map (·.classification) ≠ some .cached ↔
      ∀ z, v.result = .ok z → z.classification ≠ .cached := by
    rcases v.result with e | z <;> simp [Except.toOption]
  rw [order?]
  rcases hread : v.before.world.host.read v.candidate.path with e | bytes
  · refine iff_of_false (Option.some_ne_none c).symm ?_
    rintro ⟨d, ⟨bytes, hread', -⟩, -⟩
    cases hread.symm.trans hread'
  · simp only [Option.ite_none_right_eq_some, Bool.and_eq_true, decide_eq_true_eq, hcached,
      Option.some.injEq]
    constructor
    · rintro ⟨⟨hasks, hnew⟩, rfl⟩
      exact ⟨_, ⟨bytes, hread, rfl, hasks⟩, hnew, rfl⟩
    · rintro ⟨d, ⟨bytes', hread', rfl, hasks⟩, hnew, rfl⟩
      cases Except.ok.inj (hread.symm.trans hread')
      exact ⟨⟨hasks, hnew⟩, rfl⟩

/-- The orders follow the candidates of the history. -/
theorem sublist_paths_orders (i : Invoker) (vs : List Invocation) :
    ((i.orders vs).map (·.path)).Sublist (vs.map (·.candidate.path)) := by
  induction vs with
  | nil => exact .slnil
  | cons v vs ih =>
    rw [orders, List.filterMap_cons, List.map_cons]
    cases hc : i.order? v.before.world.host v.candidate v.result with
    | none => exact ih.cons _
    | some c =>
      have hmem : c ∈ i.orders [v] := by simp [orders, hc]
      obtain ⟨u, hu, d, -, -, rfl⟩ := mem_orders_iff.mp hmem
      cases List.mem_singleton.mp hu
      rw [List.map_cons, path_withDirective]
      exact ih.cons_cons _

end Invoker

namespace DriverRun

variable {r : DriverRun} {source : Source} {w w' : World} {o : DriverOutcome}

/-- The orders to lint that are given in the course of a run. -/
def orders (r : DriverRun) (c : Course) : List Candidate := r.invoker.orders c.invocations

/-- The candidates that have been up for linting, by their results. -/
def attempted (xs : List LintResult) : List Candidate :=
  (xs.filter fun x => !x.classification.countsAsSkipped).map (·.candidate)

/-- A run that comes to its end orders what its results do not count as skipped. -/
theorem orders_eq_of_run (h : (r.run source).run w = (.ok o, w')) :
    r.orders (r.course source w) = attempted o.summary.results := by
  obtain ⟨k, hh⟩ := r.exists_history_course source w
  have hresults := (course_of_run h).2
  let judged (x : Except Fault LintResult) : Option Candidate :=
    x.toOption.bind fun z => if z.classification.countsAsSkipped then none else some z.candidate
  have horder : ∀ v ∈ (r.course source w).invocations,
      r.invoker.order? v.before.world.host v.candidate v.result = judged v.result := by
    intro v hv
    obtain ⟨z, -, hz⟩ := exists_result_of_run h hv
    obtain ⟨hdealt, -⟩ := Invoker.dealt_transcript (hh.run_of_mem hv)
    rw [hz] at hdealt ⊢
    exact hdealt.order?_eq (exists_read_of_mem_course hv)
  have horders : r.orders (r.course source w) =
      ((r.course source w).invocations.map (·.result)).filterMap judged := by
    rw [List.filterMap_map]
    exact List.filterMap_congr horder
  rw [horders, hresults, List.filterMap_map, attempted, ← List.filterMap_eq_map,
    List.filterMap_filter]
  refine List.filterMap_congr fun x _ => ?_
  cases hx : x.classification.countsAsSkipped <;> simp [judged, hx, Except.toOption]

/-- Whether the first command in the course of a run has succeeded. -/
def greeted (r : DriverRun) (c : Course) : Bool := (r.exchanges c).head?.any Exchange.succeeded

/-- **Exactly the opted-in files reach the tool.** In a run that comes to its end, and in which
nothing is raised but that the version query finds no tool, the candidates are different paths of
the source, in its order, and the results are theirs. If one of them is to be linted, the commands
are the version query and, if that succeeds, for each candidate that is to be linted, in order, the
tool with the arguments of the configuration, those of the header, and the path, in the root;
otherwise there are none. To be linted are the candidates that can be read and whose headers ask for
linting, unless all files are linted, and for which the cache has not vouched. These are the
commands that the journal names, if neither the runner nor the source mentions others. -/
theorem commands_of_run (h : (r.run source).run w = (.ok o, w'))
    (htame : ∀ e ∈ r.exchanges (r.course source w), r.invoker.Tame e) :
    ((r.course source w).invocations.map (·.result) = o.summary.results.map .ok ∧
      (r.course source w).paths.Sublist (r.course source w).given ∧
      (r.course source w).paths.Nodup) ∧
    r.commands (r.course source w) =
      (if r.orders (r.course source w) = [] then []
      else { command := [r.driver.tool, "--version"], capture := true, check := false } ::
        if r.greeted (r.course source w) then
          (r.orders (r.course source w)).map fun c =>
            { command := [r.driver.tool] ++ r.driver.configArguments r.settings.environ ++
                c.options ++ [c.path.text]
              directory := some r.settings.root, check := false }
        else []) ∧
    (r.orders (r.course source w) = [] ↔ ∀ v ∈ (r.course source w).invocations,
      (∃ e, v.before.world.host.read v.candidate.path = .error e) ∨
        ∃ z, v.result = .ok z ∧ (z.classification = .skipped ∨ z.classification = .cached)) ∧
    (((r.orders (r.course source w)).map (·.path)).Sublist (r.course source w).paths ∧
      ∀ c, c ∈ r.orders (r.course source w) ↔ ∃ v ∈ (r.course source w).invocations, ∃ bytes d,
        v.before.world.host.read v.candidate.path = .ok bytes ∧
          r.driver.scanFileText (Text.Utf8.decode bytes) = d ∧
          (d.enabled = true ∨ r.settings.forceAll = true) ∧
          (∀ z, v.result = .ok z → z.classification ≠ .cached) ∧
          c = { v.candidate with options := d.options }) ∧
    (r.runner.Discreet → source.Silent → w'.journal.filterMap Event.called? =
      w.journal.filterMap Event.called? ++ r.commands (r.course source w)) := by
  obtain ⟨-, hresults⟩ := course_of_run h
  obtain ⟨k, hh⟩ := r.exists_history_course source w
  have hjournal := fun hd hsource => filterMap_called_of_run hd hsource h
  have hsublist := r.sublist_given source w
  have hnodup := r.nodup_paths source w
  have hok : ∀ v ∈ (r.course source w).invocations, ∃ z, v.result = .ok z := fun v hv =>
    let ⟨z, _, hz⟩ := exists_result_of_run h hv
    ⟨z, hz⟩
  have hoptions : ∀ v ∈ (r.course source w).invocations, v.candidate.options = [] :=
    fun v hv => (fresh_of_mem_course hv).2
  generalize r.course source w = t at *
  have htame' : ∀ v ∈ t.invocations, ∀ e ∈ (r.invoker.transcript v).exchanges, r.invoker.Tame e :=
    fun v hv e he => htame e (List.mem_flatMap.mpr ⟨v, hv, he⟩)
  refine ⟨⟨hresults, hsublist, hnodup⟩, ?_, ?_, ⟨r.invoker.sublist_paths_orders _, fun c => ?_⟩,
    hjournal⟩
  · have hobeys := hh.obeys hok htame'
    rw [← exchanges, ← orders] at hobeys
    rw [commands, greeted]
    exact hobeys.map_call
  · exact Invoker.orders_eq_nil_iff (fun v hv => hh.run_of_mem hv) hok htame'
  · rw [orders, Invoker.mem_orders_iff]
    refine exists_congr fun v => and_congr_right fun hv => ?_
    -- a candidate of a run has no arguments but those of its header
    have hfresh : ∀ d, Invoker.withDirective v.candidate d =
        { v.candidate with options := d.options } := fun d =>
      Invoker.withDirective_of_fresh (hoptions v hv)
    simp only [Invoker.AsksBy, hfresh, Bool.or_eq_true]
    constructor
    · rintro ⟨d, ⟨bytes, hread, hscan, hasks⟩, hnew, hc⟩
      exact ⟨bytes, d, hread, hscan, hasks, hnew, hc⟩
    · rintro ⟨bytes, d, hread, hscan, hasks, hnew, hc⟩
      exact ⟨d, ⟨bytes, hread, hscan, hasks⟩, hnew, hc⟩

/-- Of three files, one of them listed twice, two ask for linting, the second with arguments, and
the environment names a configuration. -/
theorem commands_of_run_sample : ∃ (r : DriverRun) (o : DriverOutcome) (w' : World),
    r = { sample 0 with
      settings := { root := .absolute ["r"], cacheRoot := .absolute ["r", "cache"],
                    environ := [("PYLINTRC", "rc")] } } ∧
    (r.run (.ofPaths
      [.absolute ["r", "a.py"], .absolute ["r", "b.py"], .absolute ["r", "a.py"],
        .absolute ["r", "c.py"]])).run
      ⟨.holding [["r"]] [(["r", "a.py"], sampleBytes), (["r", "b.py"], []),
        (["r", "c.py"], Text.Utf8.encode "# pylint-options: --x 'y z'".toList)], []⟩ =
        (.ok o, w') ∧
      w'.journal.filterMap Event.called? = [
        { command := ["pylint", "--version"], capture := true, check := false },
        { command := ["pylint", "--rcfile=rc", "/r/a.py"]
          directory := some (.absolute ["r"]), check := false },
        { command := ["pylint", "--rcfile=rc", "--x", "y z", "/r/c.py"]
          directory := some (.absolute ["r"]), check := false }] := by
  generalize hr : ({ sample 0 with
    settings := { root := .absolute ["r"], cacheRoot := .absolute ["r", "cache"],
                  environ := [("PYLINTRC", "rc")] } } : DriverRun) = r
  generalize hps : [Path.absolute ["r", "a.py"], .absolute ["r", "b.py"],
    .absolute ["r", "a.py"], .absolute ["r", "c.py"]] = ps
  generalize hw : World.mk _ [] = w
  have hreturns : ((r.run (.ofPaths ps)).run w).1.isOk = true :=
    hr ▸ hps ▸ hw ▸ by decide +kernel
  have horders : r.orders (r.course (.ofPaths ps) w) =
      [⟨.absolute ["r", "a.py"], .python, []⟩,
        ⟨.absolute ["r", "c.py"], .python, ["--x", "y z"]⟩] :=
    hr ▸ hps ▸ hw ▸ by decide +kernel
  have hgreeted : r.greeted (r.course (.ofPaths ps) w) = true :=
    hr ▸ hps ▸ hw ▸ by decide +kernel
  have hanswers : (r.exchanges (r.course (.ofPaths ps) w)).all (·.answer.isOk) = true :=
    hr ▸ hps ▸ hw ▸ by decide +kernel
  have hconfig : r.driver.configArguments r.settings.environ = ["--rcfile=rc"] :=
    hr ▸ by decide +kernel
  have hdiscreet : r.runner.Discreet := hr ▸ ToolRunner.discreet_answering _
  rcases hrun : (r.run (.ofPaths ps)).run w with ⟨e | o, w'⟩
  · rw [hrun] at hreturns
    cases hreturns
  · obtain ⟨-, hcommands, -, -, hjournal⟩ := commands_of_run hrun fun e he f hf => by
      have hok := List.all_eq_true.mp hanswers e he
      rw [hf] at hok
      cases hok
    refine ⟨r, o, w', rfl, hrun, ?_⟩
    rw [hjournal hdiscreet (Source.silent_ofPaths ps), hcommands, horders, hgreeted, hconfig, ← hw,
      ← hr]
    rfl

end DriverRun

end OptIn
