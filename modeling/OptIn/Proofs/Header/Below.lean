import OptIn.Driver.Builtin
import OptIn.Proofs.Header.Boundary
import OptIn.Proofs.Host.Checked
import OptIn.Proofs.Invoker.Exchanges
import OptIn.Proofs.Text.Cuts
import OptIn.Proofs.Text.Encoding

/-!
# What stands below a header

Two files share a header when they start with the same bytes up to a newline and a bare line is
among those of the start. No driver can tell such files apart by their directives, and no invoker
skips one of them but not the other (`readDirective_eq_of_sharesHeader`): bytes behind a newline
have no part in the characters and lines before it.
-/

namespace OptIn

/-- Two contents **share a header**: they start with the same lines, one of them bare. -/
def SharesHeader (a b : List UInt8) : Prop :=
  ∃ above below below', a = above ++ below ∧ b = above ++ below' ∧ above.getLast? = some 0x0A ∧
    ∃ line ∈ Text.fileLines (Text.Utf8.decode above), Bare line

/-- The lines up to a newline are read on their own. -/
theorem fileLines_decode_append {above : List UInt8} (hend : above.getLast? = some 0x0A)
    (below : List UInt8) :
    Text.fileLines (Text.Utf8.decode (above ++ below)) =
      Text.fileLines (Text.Utf8.decode above) ++ Text.fileLines (Text.Utf8.decode below) := by
  obtain ⟨bs, rfl⟩ := List.getLast?_eq_some_iff.mp hend
  obtain ⟨ls, hls⟩ := Text.fileLines_append (Text.Utf8.decode bs)
  have hbelow : ∀ rest, Text.fileLines (Text.Utf8.decode (bs ++ 0x0A :: rest)) =
      ls ++ Text.fileLines (Text.Utf8.decode rest) := fun rest => by
    rw [Text.Utf8.decode_append, hls]
  rw [List.append_assoc, List.singleton_append, hbelow, hbelow]
  simp [Text.Utf8.decode, Text.Utf8.decodeFrom, Text.fileLines, Text.unifyNewlines, Text.feedLines]

theorem SharesHeader.headerLines_eq {a b : List UInt8} (h : SharesHeader a b) :
    headerLines (Text.fileLines (Text.Utf8.decode a)) =
      headerLines (Text.fileLines (Text.Utf8.decode b)) := by
  obtain ⟨above, below, below', rfl, rfl, hend, hbare⟩ := h
  rw [fileLines_decode_append hend, fileLines_decode_append hend,
    headerLines_append_of_exists hbare, headerLines_append_of_exists hbare]

namespace Invoker

variable {i : Invoker} {c : Candidate} {d : Directive} {k k' : Option ToolProbe}
  {xs : List Exchange} {x : Except Fault LintResult} {h h₁ h' : Host} {bytes : List UInt8}

/-! ### Who is skipped -/

theorem Tried.not_skipped (ht : Tried i c k xs h₁ x k' h') :
    x.toOption.map (·.classification) ≠ some .skipped := by
  cases ht <;> simp [Except.toOption, unusable]

theorem Weighed.skipped_iff (hw : Weighed i h c d k xs h₁ x k' h') :
    x.toOption.map (·.classification) = some .skipped ↔ i.asks d = false := by
  cases hw with
  | skipped hasks => simp [Except.toOption, hasks]
  | cached hasks => simp [Except.toOption, hasks]
  | unclear hasks => simp [Except.toOption, hasks]
  | tried hasks _ htried => simp [hasks, htried.not_skipped]

/-- A candidate that can be read is skipped when its header does not ask for linting. -/
theorem Dealt.skipped_iff (hd : Dealt i h c k xs h₁ x k' h') (hread : h.read c.path = .ok bytes) :
    x.toOption.map (·.classification) = some .skipped ↔
      i.asks (i.driver.scanFileText (Text.Utf8.decode bytes)) = false := by
  cases hd with
  | unread herror => simp [hread] at herror
  | broken herror => simp [hread] at herror
  | read hread' hweighed =>
    cases hread.symm.trans hread'
    exact hweighed.skipped_iff

/-! ### Files with one header -/

variable {a b : List UInt8}

/-- **Nothing below the header matters.** Files that share a header give every driver the same
directive, and an invoker skips the one exactly if it skips the other. -/
theorem readDirective_eq_of_sharesHeader (hshare : SharesHeader a b) :
    (∀ (d : Driver) (p q : Path) (w v : World), w.host.read p = .ok a → v.host.read q = .ok b →
      ∃ x, ((readDirective d p).run w).1 = .ok x ∧ ((readDirective d q).run v).1 = .ok x) ∧
    ∀ (i : Invoker) (c e : Candidate) (s t : Session), s.world.host.read c.path = .ok a →
      t.world.host.read e.path = .ok b →
      (((i.invoke c).run s).1.toOption.map (·.classification) = some .skipped ↔
        ((i.invoke e).run t).1.toOption.map (·.classification) = some .skipped) := by
  have hscan : ∀ d : Driver, d.scanFileText (Text.Utf8.decode a) =
      d.scanFileText (Text.Utf8.decode b) := fun d => d.scanLines_congr hshare.headerLines_eq
  constructor
  · intro d p q w v ha hb
    refine ⟨_, fst_run_readDirective d ha, ?_⟩
    rw [fst_run_readDirective d hb]
    exact congrArg Except.ok (hscan d).symm
  · intro i c e s t ha hb
    rcases hrun : (i.invoke c).run s with ⟨x, s'⟩
    rcases hrun' : (i.invoke e).run t with ⟨y, t'⟩
    obtain ⟨_, _, -, -, hdealt⟩ := dealt_of_run hrun
    obtain ⟨_, _, -, -, hdealt'⟩ := dealt_of_run hrun'
    rw [hdealt.skipped_iff ha, hdealt'.skipped_iff hb, hscan]

/-- Below a header in which a character is broken off by a newline, a directive in the one file
shows no more than the bytes in the other one, which are no text. -/
theorem readDirective_eq_of_sharesHeader_sample :
    ∃ above below below' : List UInt8,
      above = Text.Utf8.encode "# x\r\n#\r\n".toList ++ [0xE2, 0x0A] ∧
      below = Text.Utf8.encode "# pylint: y".toList ∧ below' = [0x00, 0xFF] ∧
      SharesHeader (above ++ below) (above ++ below') ∧
      ∃ w : World, w.host.read ⟨.root, ["r", "a.py"]⟩ = .ok (above ++ below) ∧
        w.host.read ⟨.root, ["r", "b.py"]⟩ = .ok (above ++ below') ∧
        ∀ d : Driver, ∃ x, ((readDirective d ⟨.root, ["r", "a.py"]⟩).run w).1 = .ok x ∧
          ((readDirective d ⟨.root, ["r", "b.py"]⟩).run w).1 = .ok x := by
  generalize habove : Text.Utf8.encode "# x\r\n#\r\n".toList ++ [0xE2, 0x0A] = above
  generalize hbelow : Text.Utf8.encode "# pylint: y".toList = below
  have hshare : SharesHeader (above ++ below) (above ++ [0x00, 0xFF]) :=
    ⟨above, below, [0x00, 0xFF], rfl, rfl, habove ▸ by decide +kernel, ['#'],
      habove ▸ by decide +kernel, .inr ⟨[], [], rfl, by simp, by simp⟩⟩
  have hread : (Host.holding [["r"]] [(["r", "a.py"], above ++ below),
      (["r", "b.py"], above ++ [0x00, 0xFF])]).read ⟨.root, ["r", "a.py"]⟩ =
        .ok (above ++ below) := by
    subst habove hbelow
    decide +kernel
  have hread' : (Host.holding [["r"]] [(["r", "a.py"], above ++ below),
      (["r", "b.py"], above ++ [0x00, 0xFF])]).read ⟨.root, ["r", "b.py"]⟩ =
        .ok (above ++ [0x00, 0xFF]) := by
    subst habove hbelow
    decide +kernel
  exact ⟨above, below, _, rfl, rfl, rfl, hshare, ⟨_, []⟩, hread, hread', fun d =>
    (readDirective_eq_of_sharesHeader hshare).1 d _ _ ⟨_, []⟩ ⟨_, []⟩ hread hread'⟩

end Invoker

end OptIn
