import OptIn.Proofs.Host.Checked
import OptIn.Proofs.Invoker.Exchanges
import OptIn.Proofs.Run.Returns

/-!
# What an invoker finds out about its tool

As long as each fault of a runner says that there is no such tool, what an invoker asks follows a
small machine. Nothing is known at first; the query of the version comes before any other command
and decides whether the tool can be used; a command that meets no tool decides that it cannot be
used any more. From then on nothing is asked, and every candidate that needs the tool fails with
the status 127 of a missing one.

Whether a candidate needs the tool is for the cache to say, which is asked first. Where it cannot
tell, as with a marker whose name is too long, the candidate ends in the cache's fault instead, even
if the tool is known to be missing (`History.deepFile_not_failed`).

`Invoker.History` is a row of candidates that one invoker deals with. The world may change in any
way from one candidate to the next, and the runner may answer as it likes. `Tried.turn` is what one
candidate does to the machine, and `History.availability` follows it through a history.
-/

namespace OptIn

open ToolRunner (benign)

namespace Invoker

/-- A candidate **asks** for linting by a directive: its file can be read, its header gives this
directive, and linting is enabled by that, or for all files. -/
def AsksBy (i : Invoker) (h : Host) (c : Candidate) (d : Directive) : Prop :=
  ∃ bytes, h.read c.path = .ok bytes ∧ i.driver.scanFileText (Text.Utf8.decode bytes) = d ∧
    (d.enabled || i.settings.forceAll) = true

/-- A candidate **needs** the tool, with the arguments of its header, if it asks for linting and the
cache does not vouch for the file. -/
def Needs (i : Invoker) (h : Host) (c c' : Candidate) : Prop :=
  ∃ d, i.AsksBy h c d ∧ i.vouchedBy c.path h = .ok false ∧ c' = withDirective c d

variable {i : Invoker} {c c' : Candidate} {d : Directive} {h h' h₁ : Host}
  {k k' : Option ToolProbe} {xs : List Exchange} {x : Except Fault LintResult} {p : ToolProbe}

/-- A candidate asks for linting if it does so by some directive. -/
theorem asksFor_iff_exists : i.AsksFor h c.path ↔ ∃ d, i.AsksBy h c d := by
  constructor
  · rintro ⟨bytes, hread, hasks⟩
    exact ⟨_, bytes, hread, rfl, hasks⟩
  · rintro ⟨-, bytes, hread, rfl, hasks⟩
    exact ⟨bytes, hread, hasks⟩

theorem AsksBy.asks (ha : i.AsksBy h c d) : i.asks d = true := by
  obtain ⟨-, -, -, hasks⟩ := ha
  exact hasks

/-- There is at most one directive to ask by. -/
theorem AsksBy.unique (ha : i.AsksBy h c d) {d' : Directive} (ha' : i.AsksBy h c d') : d' = d := by
  obtain ⟨bytes, hread, rfl, -⟩ := ha
  obtain ⟨bytes', hread', rfl, -⟩ := ha'
  cases Except.ok.inj (hread.symm.trans hread')
  rfl

/-- A candidate that asks for linting is weighed by its directive. -/
theorem Dealt.weighed (hd : Dealt i h c k xs h₁ x k' h') (ha : i.AsksBy h c d) :
    Weighed i h c d k xs h₁ x k' h' := by
  obtain ⟨bytes, hread, rfl, -⟩ := ha
  cases hd with
  | read hread' hweighed =>
    cases Except.ok.inj (hread.symm.trans hread')
    exact hweighed
  | unread hfault | broken hfault => cases hread.symm.trans hfault

/-- What the cache vouches for needs no tool. -/
theorem Dealt.eq_of_vouched (hd : Dealt i h c k xs h₁ x k' h') (ha : i.AsksBy h c d)
    (hv : i.vouchedBy c.path h = .ok true) : x = .ok ⟨withDirective c d, .cached, none⟩ := by
  cases hd.weighed ha with
  | skipped hskip => cases hskip.symm.trans ha.asks
  | cached => rfl
  | unclear _ hv' | tried _ hv' => cases hv.symm.trans hv'

/-- Where the cache cannot tell, a candidate that asks for linting ends in its fault. -/
theorem Dealt.eq_of_unclear (hd : Dealt i h c k xs h₁ x k' h') (ha : i.AsksBy h c d) {e : Fault}
    (hv : i.vouchedBy c.path h = .error e) : x = .error e := by
  cases hd.weighed ha with
  | skipped hskip => cases hskip.symm.trans ha.asks
  | unclear _ hv' =>
    cases hv.symm.trans hv'
    rfl
  | cached _ hv' | tried _ hv' => cases hv.symm.trans hv'

/-- A candidate that does not need the tool has nothing asked and nothing changed. -/
theorem Dealt.cases_needs (hd : Dealt i h c k xs h₁ x k' h') :
    (xs = [] ∧ k' = k ∧ h' = h₁ ∧ ∀ c', ¬i.Needs h c c') ∨
      ∃ c', i.Needs h c c' ∧ Tried i c' k xs h₁ x k' h' := by
  cases hd with
  | unread hread | broken hread =>
    refine .inl ⟨rfl, rfl, rfl, ?_⟩
    rintro c' ⟨d, ⟨bytes, hread', -⟩, -⟩
    cases hread.symm.trans hread'
  | read hread hweighed =>
    cases hweighed with
    | skipped hskip =>
      refine .inl ⟨rfl, rfl, rfl, ?_⟩
      rintro c' ⟨d, ⟨bytes, hread', rfl, hasks⟩, -⟩
      cases hread.symm.trans hread'
      cases hskip.symm.trans hasks
    | cached _ hv | unclear _ hv =>
      refine .inl ⟨rfl, rfl, rfl, ?_⟩
      rintro c' ⟨d, -, hv', -⟩
      cases hv.symm.trans hv'
    | tried hasks hv htried => exact .inr ⟨_, ⟨_, ⟨_, hread, rfl, hasks⟩, hv, rfl⟩, htried⟩

/-- There is at most one way to need the tool. -/
theorem Needs.unique (hn : i.Needs h c c') {c'' : Candidate} (hn' : i.Needs h c c'') :
    c'' = c' := by
  obtain ⟨d, ha, -, rfl⟩ := hn
  obtain ⟨d', ha', -, rfl⟩ := hn'
  rw [ha.unique ha']

/-! ### One candidate -/

/-- A **turn** of the machine: what is known before, the exchanges, and what is known behind. -/
structure Turn (i : Invoker) (k : Option ToolProbe) (xs : List Exchange) (k' : Option ToolProbe) :
    Prop where
  /-- The version is asked for first, if nothing is known, and never again. -/
  first : k = none → xs = [] ∧ k' = none ∨
    k' ≠ none ∧ ∃ cs : List Candidate,
      xs.map Exchange.call = ToolProbe.query i.driver.tool :: cs.map i.lintCall
  later : k ≠ none → k' ≠ none ∧ ∃ cs : List Candidate, xs.map Exchange.call = cs.map i.lintCall
  /-- What is found out is known from then on, and has not been known before. -/
  finding : ∀ p, i.found xs = some p → k' = some p ∧ ∀ q, k = some q → q.usable = true
  /-- A tool that is known to be unusable is not asked for anything. -/
  barred : ∀ q, k = some q → q.usable = false → xs = [] ∧ k' = k

theorem Turn.rest (i : Invoker) (k : Option ToolProbe) : i.Turn k [] k where
  first hk := .inl ⟨rfl, hk⟩
  later hk := ⟨hk, [], rfl⟩
  finding _ hp := nomatch hp
  barred _ _ _ := ⟨rfl, rfl⟩

/-- A turn whose last command lints a candidate. -/
theorem Vetted.turn (hv : Vetted i k xs p) (c : Candidate) (answer : Except Fault Completed)
    (hk' : k' ≠ none) (hfinding : ∀ q, i.refutation ⟨i.lintCall c, answer⟩ = some q → k' = some q) :
    i.Turn k (xs ++ [⟨i.lintCall c, answer⟩]) k' where
  first hk := by
    cases hv with
    | known => cases hk
    | answered => exact .inr ⟨hk', [c], rfl⟩
  later hk := by
    cases hv with
    | known => exact ⟨hk', [c], rfl⟩
    | answered => exact absurd rfl hk
  finding q hq := by
    rw [hv.found_append] at hq
    refine ⟨hfinding q hq, fun q' hq' => ?_⟩
    cases hv with
    | known husable =>
      cases hq'
      exact husable
    | answered => cases hq'
  barred q hq hbad := by
    cases hv with
    | known husable =>
      cases hq
      cases husable.symm.trans hbad
    | answered => cases hq

/-- What a candidate that needs the tool does to the machine. -/
theorem Tried.turn (ht : Tried i c k xs h x k' h') (hb : ∀ e ∈ xs, benign e.call e.answer) :
    i.Turn k xs k' ∧ (i.found xs ≠ none ∨ (∃ q, k = some q ∧ q.usable = false) →
      x = .ok ⟨c, .failed, some 127⟩ ∧ h' = h) := by
  have hlast : ∀ (ys : List Exchange) {c e}, xs = ys ++ [⟨c, .error e⟩] → e.isNotFound = true := by
    rintro ys c e rfl
    exact hb ⟨c, .error e⟩ (List.mem_append_right _ (List.mem_singleton.mpr rfl))
  -- a candidate that is judged shows nothing about the tool
  have hjudged : ∀ {ys p done}, Vetted i k ys p → xs = ys ++ [⟨i.lintCall c, .ok done⟩] →
      k' = some p → i.Turn k xs k' ∧ ¬(i.found xs ≠ none ∨ ∃ q, k = some q ∧ q.usable = false) := by
    rintro ys p done hv rfl rfl
    have hturn : i.Turn k (ys ++ [⟨i.lintCall c, .ok done⟩]) (some p) :=
      hv.turn c (.ok done) (by simp) (by simp [refutation_lintCall_of_ok])
    refine ⟨hturn, ?_⟩
    rintro (hfound | ⟨q, hq, hbad⟩)
    · rw [hv.found_append, refutation_lintCall_of_ok] at hfound
      exact hfound rfl
    · have hnothing := (hturn.barred q hq hbad).1
      simp at hnothing
  cases ht with
  | barred => exact ⟨.rest i _, fun _ => ⟨rfl, rfl⟩⟩
  | @refused answer p _ hrefuted =>
    refine ⟨⟨fun _ => .inr ⟨by simp, [], rfl⟩, fun hk => absurd rfl hk, fun q hq => ?_,
      fun q hq => nomatch hq⟩, fun _ => ⟨rfl, rfl⟩⟩
    rw [found_singleton, hrefuted] at hq
    exact ⟨hq, fun q' hq' => nomatch hq'⟩
  | unprobed hmissing => exact absurd (hlast [] rfl) hmissing
  | @lost _ _ _ e _ hv hmissing =>
    refine ⟨hv.turn c (.error e) (by simp) fun q hq => ?_, fun _ => ⟨rfl, rfl⟩⟩
    rw [refutation_error, if_pos hmissing] at hq
    exact hq
  | broken hv hmissing => exact absurd (hlast _ rfl) hmissing
  | failed hv | passed hv | unrecorded hv =>
    obtain ⟨hturn, hnot⟩ := hjudged hv rfl rfl
    exact ⟨hturn, fun hfound => absurd hfound hnot⟩

/-- What any candidate does to the machine. -/
theorem Dealt.turn (hd : Dealt i h c k xs h₁ x k' h') (hb : ∀ e ∈ xs, benign e.call e.answer) :
    i.Turn k xs k' ∧
      (i.found xs ≠ none → ∃ c', i.Needs h c c') ∧
      (i.found xs ≠ none ∨ (∃ q, k = some q ∧ q.usable = false) →
        h' = h₁ ∧ ∀ c', i.Needs h c c' → x = .ok ⟨c', .failed, some 127⟩) := by
  rcases hd.cases_needs with ⟨rfl, rfl, rfl, hidle⟩ | ⟨c', hneeds, htried⟩
  · exact ⟨.rest i _, fun hfound => absurd rfl hfound,
      fun _ => ⟨rfl, fun c' hn => absurd hn (hidle c')⟩⟩
  · obtain ⟨hturn, hbad⟩ := htried.turn hb
    refine ⟨hturn, fun _ => ⟨c', hneeds⟩, fun hor => ⟨(hbad hor).2, fun c'' hneeds' => ?_⟩⟩
    rw [hneeds.unique hneeds']
    exact (hbad hor).1

/-! ### A row of candidates -/

/-- A candidate that has been dealt with: the session before, the result, and the session behind. -/
structure Invocation where
  candidate : Candidate
  before : Session
  result : Except Fault LintResult
  after : Session

/-- A **history** of an invoker, and what it knows about the tool at the end. Nothing is known at
the beginning, and what is known is kept; what happens to the world between the candidates is left
open. -/
inductive History (i : Invoker) : List Invocation → Option ToolProbe → Prop
  | start : History i [] none
  | next {vs k v} : History i vs k → v.before.probe = k →
      (i.invoke v.candidate).run v.before = (v.result, v.after) →
      History i (vs ++ [v]) v.after.probe

/-- The transcript of an invocation. -/
def transcript (i : Invoker) (v : Invocation) : Transcript :=
  i.runner.replay 0 v.before.world (v.after.world.journal.drop v.before.world.journal.length)

/-- The commands that an invocation has asked for. -/
def calls (i : Invoker) (v : Invocation) : List Call :=
  (i.transcript v).exchanges.map Exchange.call

/-- The warnings that an invocation has given. -/
def warnings (i : Invoker) (v : Invocation) : List String :=
  (i.transcript v).remarks.filterMap Event.warned?

/-- The **discovery** of an invocation that the tool cannot be used. -/
def discovery (i : Invoker) (v : Invocation) : Option ToolProbe :=
  i.found (i.transcript v).exchanges

variable {v : Invocation} {vs : List Invocation}

/-- The transcript of an invocation is what its candidate has been dealt with by, and accounts for
all that the invocation has left in the journal. -/
theorem dealt_transcript
    (hrun : (i.invoke v.candidate).run v.before = (v.result, v.after)) :
    Dealt i v.before.world.host v.candidate v.before.probe (i.transcript v).exchanges
        (i.transcript v).world.host v.result v.after.probe v.after.world.host ∧
      i.warnings v = i.unreadable v.before.world.host v.candidate ++
        i.complaints (i.transcript v).exchanges ∧
      i.runner.Talk v.before.world (i.transcript v).exchanges (i.transcript v).remarks
        (i.transcript v).world ∧
      v.after.world.journal = (i.transcript v).world.journal := by
  obtain ⟨xs, w₁, ⟨es, htalk, hwarned⟩, hjournal, hdealt⟩ := dealt_of_run hrun
  obtain ⟨events, hevents, hreplay⟩ := htalk.exists_replay
  have htranscript : i.transcript v = ⟨xs, es, w₁⟩ := by
    rw [transcript, hjournal, hevents, List.drop_left, hreplay]
  rw [warnings, htranscript]
  exact ⟨hdealt, hwarned, htalk, hjournal⟩

/-- What is known about the tool once the candidates of a history have been dealt with. -/
structure Recalls (i : Invoker) (vs : List Invocation) (k : Option ToolProbe) : Prop where
  unasked : k = none → vs.flatMap i.calls = []
  asked : k ≠ none → ∃ cs : List Candidate,
    vs.flatMap i.calls = ToolProbe.query i.driver.tool :: cs.map i.lintCall
  barred : (∃ v ∈ vs, i.discovery v ≠ none) → ∃ q, k = some q ∧ q.usable = false

theorem Recalls.next (hr : i.Recalls vs k) (hturn : i.Turn k (i.transcript v).exchanges k') :
    i.Recalls (vs ++ [v]) k' where
  unasked hk' := by
    rcases k with _ | q
    · rcases hturn.first rfl with ⟨hnothing, -⟩ | ⟨hknown, -⟩
      · simp [hr.unasked rfl, calls, hnothing]
      · exact absurd hk' hknown
    · exact absurd hk' (hturn.later (by simp)).1
  asked hk' := by
    rcases k with _ | q
    · rcases hturn.first rfl with ⟨-, hunknown⟩ | ⟨-, cs, hcs⟩
      · exact absurd hunknown hk'
      · exact ⟨cs, by simp [hr.unasked rfl, calls, hcs]⟩
    · obtain ⟨cs, hcs⟩ := hr.asked (by simp)
      obtain ⟨-, cs', hcs'⟩ := hturn.later (by simp)
      exact ⟨cs ++ cs', by simp [hcs, calls, hcs']⟩
  barred := by
    rintro ⟨u, hu, hfound⟩
    rcases List.mem_append.mp hu with hu | hu
    · -- once barred, always barred
      obtain ⟨q, hq, hbad⟩ := hr.barred ⟨u, hu, hfound⟩
      exact ⟨q, (hturn.barred q hq hbad).2.trans hq, hbad⟩
    · cases List.mem_singleton.mp hu
      obtain ⟨p, hp⟩ := Option.ne_none_iff_exists'.mp hfound
      obtain ⟨e, -, he⟩ := List.exists_of_findSome?_eq_some hp
      exact ⟨p, (hturn.finding p hp).1, usable_of_refutation he⟩

/-- What is known at the end of a history. -/
theorem History.recalls (hrunner : ∀ w c, benign c (i.runner w c).outcome)
    (hh : i.History vs k) : i.Recalls vs k := by
  induction hh with
  | start => exact ⟨fun _ => rfl, fun hk => absurd rfl hk, fun ⟨v, hv, _⟩ => nomatch hv⟩
  | next hh hk hrun ih =>
    obtain ⟨hdealt, -, htalk, -⟩ := dealt_transcript hrun
    exact ih.next (hk ▸ (hdealt.turn (htalk.answers hrunner)).1)

/-- Each invocation of a history comes behind a history, and begins with what is known there. -/
theorem History.exists_front (hh : i.History vs k) {front back : List Invocation}
    (hvs : vs = front ++ v :: back) :
    i.History front v.before.probe ∧
      (i.invoke v.candidate).run v.before = (v.result, v.after) := by
  induction hh generalizing back with
  | start => simp at hvs
  | @next vs k u hh hk hrun ih =>
    rcases List.eq_nil_or_concat back with rfl | ⟨back', u', rfl⟩
    · obtain ⟨rfl, hu⟩ := List.append_inj' hvs rfl
      cases hu
      exact ⟨hk ▸ hh, hrun⟩
    · rw [List.concat_eq_append, ← List.cons_append, ← List.append_assoc] at hvs
      exact ih (List.append_inj' hvs rfl).1

/-- An **idle** invocation asks nothing and changes nothing. A candidate that asks for linting is
cached if the cache vouches for its file, and fails with the status of a missing tool if it does
not; if the cache cannot tell, that is what the invocation ends in. -/
structure Idle (i : Invoker) (v : Invocation) : Prop where
  calls_eq : i.calls v = []
  host_eq : v.after.world.host = v.before.world.host
  result_eq : ∀ d, i.AsksBy v.before.world.host v.candidate d →
    v.result = (i.vouchedBy v.candidate.path v.before.world.host).map fun vouched =>
      if vouched then ⟨withDirective v.candidate d, .cached, none⟩
      else ⟨withDirective v.candidate d, .failed, some 127⟩

/-- With a tool that is known to be unusable an invocation is idle. -/
theorem idle_of_barred
    (hrunner : ∀ w c, benign c (i.runner w c).outcome)
    (hrun : (i.invoke v.candidate).run v.before = (v.result, v.after))
    (hbarred : ∃ q, v.before.probe = some q ∧ q.usable = false) :
    i.Idle v ∧ i.discovery v = none := by
  obtain ⟨hdealt, -, htalk, -⟩ := dealt_transcript hrun
  obtain ⟨hturn, -, hbad⟩ := hdealt.turn (htalk.answers hrunner)
  obtain ⟨hhost, hresult⟩ := hbad (.inr hbarred)
  obtain ⟨q, hq, hunusable⟩ := hbarred
  have hnothing := (hturn.barred q hq hunusable).1
  rw [hnothing] at htalk
  refine ⟨⟨?_, hhost.trans htalk.host_eq, fun d ha => ?_⟩, ?_⟩
  · rw [calls, hnothing, List.map_nil]
  · rcases hv : i.vouchedBy v.candidate.path v.before.world.host with e | _ | _
    · exact hdealt.eq_of_unclear ha hv
    · exact hresult _ ⟨d, ha, hv, rfl⟩
    · exact hdealt.eq_of_vouched ha hv
  · rw [discovery, hnothing, found_nil]

/-- **Availability of the tool**, for any runner whose faults say that there is no such tool,
whatever else it does, and for any row of candidates. The version of the tool is asked for at most
once, and before anything else. Besides the files that cannot be read, what is warned of is the
discovery that the tool cannot be used, and that only when it is made. It is made at most once, by a
candidate that asks for linting and for which the cache does not vouch; that candidate fails with
the status of a missing tool, and the host is as the runner leaves it. Behind it nothing is asked,
nothing changes, and every candidate that asks for linting fails with that status, unless the cache
vouches for it, or ends in the fault with which the cache cannot tell. -/
theorem History.availability (hrunner : ∀ w c, benign c (i.runner w c).outcome)
    (hh : i.History vs k) :
    (vs.flatMap i.calls = [] ∨
      ∃ cs : List Candidate, vs.flatMap i.calls =
        { command := [i.driver.tool, "--version"], capture := true, check := false } ::
          cs.map fun c =>
            { command := [i.driver.tool] ++ i.driver.configArguments i.settings.environ ++
                c.options ++ [c.path.text]
              directory := some i.settings.root, check := false }) ∧
    (∀ v ∈ vs, i.warnings v = i.unreadable v.before.world.host v.candidate ++
      (i.discovery v).toList.map (complaint i.driver)) ∧
    ∀ front v back, vs = front ++ v :: back → i.discovery v ≠ none →
      (∀ u ∈ front ++ back, i.discovery u = none) ∧
      (∃ d, i.AsksBy v.before.world.host v.candidate d ∧
        i.vouchedBy v.candidate.path v.before.world.host = .ok false ∧
        v.result = .ok ⟨withDirective v.candidate d, .failed, some 127⟩) ∧
      v.after.world.host = (i.transcript v).world.host ∧ ∀ u ∈ back, i.Idle u := by
  have hrecalls := hh.recalls hrunner
  refine ⟨?_, fun v hv => ?_, fun front v back hvs hfound => ?_⟩
  · by_cases hk : k = none
    · exact .inl (hrecalls.unasked hk)
    · exact .inr (hrecalls.asked hk)
  · obtain ⟨front, back, hvs⟩ := List.append_of_mem hv
    exact (dealt_transcript (hh.exists_front hvs).2).2.1
  obtain ⟨hfront, hrun⟩ := hh.exists_front hvs
  obtain ⟨hdealt, -, htalk, -⟩ := dealt_transcript hrun
  obtain ⟨hturn, hneeds, hbad⟩ := hdealt.turn (htalk.answers hrunner)
  obtain ⟨hhost, hresult⟩ := hbad (.inl hfound)
  have hback : ∀ u ∈ back, i.Idle u ∧ i.discovery u = none := by
    intro u hu
    obtain ⟨between, rest, rfl⟩ := List.append_of_mem hu
    have hvs' : vs = (front ++ v :: between) ++ u :: rest := by simp [hvs]
    obtain ⟨hbefore, hrun'⟩ := hh.exists_front hvs'
    exact idle_of_barred hrunner hrun' ((hbefore.recalls hrunner).barred ⟨v, by simp, hfound⟩)
  refine ⟨fun u hu => ?_, ?_, hhost, fun u hu => (hback u hu).1⟩
  · rcases List.mem_append.mp hu with hu | hu
    · -- an earlier discovery would have been known
      by_contra hfound'
      obtain ⟨q, hq, hunusable⟩ := (hfront.recalls hrunner).barred ⟨u, hu, hfound'⟩
      obtain ⟨p, hp⟩ := Option.ne_none_iff_exists'.mp hfound
      cases hunusable.symm.trans ((hturn.finding p hp).2 q hq)
    · exact (hback u hu).2
  · obtain ⟨c', hc'⟩ := hneeds hfound
    have hfailed := hresult c' hc'
    obtain ⟨d, ha, hv, rfl⟩ := hc'
    exact ⟨d, ha, hv, hfailed⟩

/-! ### A history to try things on -/

/-- Deals with candidates in a row, while nothing else happens. -/
def inARow (i : Invoker) : Session → List Candidate → List Invocation
  | _, [] => []
  | s, c :: cs =>
    let r := (i.invoke c).run s
    ⟨c, s, r.1, r.2⟩ :: i.inARow r.2 cs

theorem History.exists_append (hh : i.History vs k) {s : Session} (hs : s.probe = k)
    (cs : List Candidate) : ∃ k', i.History (vs ++ i.inARow s cs) k' := by
  induction cs generalizing vs k s with
  | nil => exact ⟨k, by simpa [inARow] using hh⟩
  | cons c cs ih =>
    obtain ⟨k', hk'⟩ := ih (hh.next (v := ⟨c, s, ((i.invoke c).run s).1, ((i.invoke c).run s).2⟩)
      hs rfl) rfl
    exact ⟨k', by simpa [inARow] using hk'⟩

end Invoker

/-- The runner whose tool is there for as many commands as the number says, and then vanishes. -/
def ToolRunner.vanishing (commands : Nat) : ToolRunner := fun w c =>
  { outcome :=
      if (w.journal.filterMap Event.called?).length < commands then
        .ok { command := c.command, status := 0 }
      else .error (.noExecutable (c.command.headD ""))
    host := w.host }

namespace Invoker

/-- The invoker of the sample run, with a tool that vanishes after two commands. -/
def sample : Invoker := { DriverRun.sample 0 with runner := .vanishing 2 }.invoker

theorem benign_vanishing (commands : Nat) (w : World) (c : Call) :
    benign c (ToolRunner.vanishing commands w c).outcome := by
  rw [ToolRunner.vanishing]
  simp only
  split
  · trivial
  · rfl

/-- A candidate of the sample. -/
def sampleCandidate (name : String) : Candidate := ⟨.absolute ["r", name], .python, []⟩

/-- Three files that ask for linting: the first passes, the second meets no tool, the third fails
without a command, and the first is vouched for. -/
theorem History.availability_sample : ∃ vs : List Invocation,
    vs = sample.inARow ⟨⟨.holding [["r"]] [(["r", "a.py"], DriverRun.sampleBytes),
      (["r", "b.py"], DriverRun.sampleBytes), (["r", "c.py"], DriverRun.sampleBytes)], []⟩, none⟩
      (["a.py", "b.py", "c.py", "a.py"].map sampleCandidate) ∧
    vs.map (fun v => (sample.calls v).map (·.command)) =
      [[["pylint", "--version"], ["pylint", "/r/a.py"]], [["pylint", "/r/b.py"]], [], []] ∧
    vs.map (fun v => v.result.toOption.map fun z => (z.classification, z.status)) =
      [some (.passed, some 0), some (.failed, some 127), some (.failed, some 127),
        some (.cached, none)] ∧
    ∀ u ∈ vs.drop 2, sample.Idle u := by
  generalize hs : (⟨⟨.holding [["r"]] [(["r", "a.py"], DriverRun.sampleBytes),
      (["r", "b.py"], DriverRun.sampleBytes), (["r", "c.py"], DriverRun.sampleBytes)], []⟩,
      none⟩ : Session) = s
  obtain ⟨k, hh⟩ := (History.start (i := sample)).exists_append (s := s) (hs ▸ rfl)
    (["a.py", "b.py", "c.py", "a.py"].map sampleCandidate)
  rw [List.nil_append] at hh
  generalize hvs : sample.inARow s (["a.py", "b.py", "c.py", "a.py"].map sampleCandidate) = vs at hh
  have hcalls : vs.map (fun v => (sample.calls v).map (·.command)) =
      [[["pylint", "--version"], ["pylint", "/r/a.py"]], [["pylint", "/r/b.py"]], [], []] :=
    hvs ▸ hs ▸ by decide +kernel
  have hresults : vs.map (fun v => v.result.toOption.map fun z => (z.classification, z.status)) =
      [some (.passed, some 0), some (.failed, some 127), some (.failed, some 127),
        some (.cached, none)] := hvs ▸ hs ▸ by decide +kernel
  have hfound : vs.map (fun v => (sample.discovery v).isSome) = [false, true, false, false] :=
    hvs ▸ hs ▸ by decide +kernel
  refine ⟨vs, rfl, hcalls, hresults, ?_⟩
  obtain ⟨-, -, hdiscovery⟩ := History.availability (benign_vanishing 2) hh
  rcases vs with _ | ⟨v₀, _ | ⟨v₁, back⟩⟩
  · cases hfound
  · simp at hfound
  · simp only [List.map_cons, List.cons.injEq] at hfound
    obtain ⟨-, -, -, hidle⟩ := hdiscovery [v₀] v₁ back rfl fun hnone => by simp [hnone] at hfound
    exact hidle

/-! ### A file too deep for its marker -/

open DriverRun (deepFile resolved_deepFile stat_deepFile not_fits_deepFile sampleBytes)

/-- A host with a file of short names and the deep file, which both ask for linting, and with an
empty cache. -/
def deepPair : Host :=
  .holding [["r"], ["r", "cache"], ["r", "cache", "python"], (deepFile 130).dropLast]
    [(["r", "a.py"], sampleBytes), (deepFile 130, sampleBytes)]

theorem orderly_deepPair : deepPair.Orderly := by decide +kernel

theorem resolved_deepPair : deepPair.Resolved (.absolute (deepFile 130)) :=
  resolved_deepFile (by decide +kernel)

theorem stat_deepPair : deepPair.stat (.absolute (deepFile 130)) =
    .ok (deepFile 130, .file sampleBytes false 0) :=
  stat_deepFile orderly_deepPair resolved_deepPair (by decide +kernel)

/-- The cache of the sample cannot tell whether it vouches for the deep file. -/
theorem exists_vouchedBy_deepPair (runner : ToolRunner) :
    ∃ e, { sample with runner }.vouchedBy (.absolute (deepFile 130)) deepPair = .error e := by
  have hshelf : deepPair.Shelf (DriverRun.sample 0).store.directory ["r", "cache", "python"] := by
    decide +kernel
  exact ⟨_, (DriverRun.sample 0).store.vouches_of_tray_of_misfit orderly_deepPair (by decide)
    hshelf.tray (Host.markable_of_stat orderly_deepPair resolved_deepPair.proper stat_deepPair)
    (not_fits_deepFile _)⟩

/-- The deep file asks for linting. -/
theorem exists_asksBy_deepPair (runner : ToolRunner) :
    ∃ d, { sample with runner }.AsksBy deepPair ⟨.absolute (deepFile 130), .python, []⟩ d :=
  asksFor_iff_exists.mp (DriverRun.asksFor_of_read (Host.read_of_stat stat_deepPair))

/-- The tool is missing, which the first of two files that ask for linting finds out. The name of
the second one's marker is too long: the cache cannot tell whether it vouches for that file, so the
candidate comes to no result, and does not fail with the status of a missing tool. -/
theorem History.deepFile_not_failed : ∃ (i : Invoker) (v u : Invocation) (k : Option ToolProbe)
      (d : Directive),
    v.candidate = sampleCandidate "a.py" ∧ v.before.world = ⟨deepPair, []⟩ ∧
      u.candidate = ⟨.absolute (deepFile 130), .python, []⟩ ∧ u.before.world = ⟨deepPair, []⟩ ∧
      (∀ w c, benign c (i.runner w c).outcome) ∧ i.History [v, u] k ∧ i.discovery v ≠ none ∧
      i.AsksBy u.before.world.host u.candidate d ∧
      i.vouchedBy u.candidate.path u.before.world.host ≠ .ok true ∧
      u.result ≠ .ok ⟨withDirective u.candidate d, .failed, some 127⟩ := by
  let i : Invoker := { sample with runner := .vanishing 0 }
  let deal (c : Candidate) (k : Option ToolProbe) : Invocation :=
    ⟨c, ⟨⟨deepPair, []⟩, k⟩, ((i.invoke c).run ⟨⟨deepPair, []⟩, k⟩).1,
      ((i.invoke c).run ⟨⟨deepPair, []⟩, k⟩).2⟩
  have hdeal : ∀ c k, (deal c k).candidate = c ∧ (deal c k).before = ⟨⟨deepPair, []⟩, k⟩ ∧
      (i.invoke (deal c k).candidate).run (deal c k).before =
        ((deal c k).result, (deal c k).after) := fun c k => ⟨rfl, rfl, rfl⟩
  have hfound : (i.discovery (deal (sampleCandidate "a.py") none)).isSome = true := by
    decide +kernel
  obtain ⟨hvc, hvs, hv⟩ := hdeal (sampleCandidate "a.py") none
  generalize deal (sampleCandidate "a.py") none = v at *
  obtain ⟨huc, hus, hu⟩ := hdeal ⟨.absolute (deepFile 130), .python, []⟩ v.after.probe
  generalize deal ⟨.absolute (deepFile 130), .python, []⟩ v.after.probe = u at *
  obtain ⟨d, hasks⟩ : ∃ d, i.AsksBy u.before.world.host u.candidate d := by
    rw [hus, huc]
    exact exists_asksBy_deepPair _
  obtain ⟨e, hv'⟩ : ∃ e, i.vouchedBy u.candidate.path u.before.world.host = .error e := by
    rw [hus, huc]
    exact exists_vouchedBy_deepPair _
  have hend := (dealt_transcript hu).1.eq_of_unclear hasks hv'
  have hhistory : i.History [v, u] u.after.probe :=
    (History.start.next (by rw [hvs]) hv).next (by rw [hus]) hu
  refine ⟨i, v, u, u.after.probe, d, hvc, by rw [hvs], huc, by rw [hus], benign_vanishing 0,
    hhistory, Option.isSome_iff_ne_none.mp hfound, hasks, fun hvouched => ?_, fun hresult => ?_⟩
  · cases hv'.symm.trans hvouched
  · cases hend.symm.trans hresult

end Invoker

end OptIn
