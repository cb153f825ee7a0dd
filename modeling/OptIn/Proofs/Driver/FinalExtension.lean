import Mathlib.Data.List.Infix
import OptIn.Driver.Builtin

/-!
# Names of YAML files

A wildcard matches a name exactly if the name is put together from what its parts stand for, one
after the other (`Wildcard.matchParts_cons`). So the driver for YAML files accepts the names with a
`.y` somewhere and an `ml` at the end behind it. These are the names whose final extension begins
with `.y` and ends with `ml`, and some others besides: a `.y` in front of the last dot counts, too,
whatever the final extension begins with (`Driver.accepts_yaml_iff`).
-/

namespace OptIn

namespace Text

/-- The texts that a part of a pattern **stands for**. -/
def WildPart.StandsFor : WildPart → List Char → Prop
  | star, _ => True
  | one, cs => ∃ c, cs = [c]
  | char a, cs => cs = [a]
  | set s, cs => ∃ c, s.contains c = true ∧ cs = [c]

namespace Wildcard

variable {p : WildPart} {ps qs : List WildPart} {cs w : List Char}

theorem anySuffix_iff {k : List Char → Bool} :
    anySuffix k cs = true ↔ ∃ front back, cs = front ++ back ∧ k back = true := by
  induction cs with
  | nil => simp [anySuffix]
  | cons c cs ih =>
    rw [anySuffix, Bool.or_eq_true, ih]
    constructor
    · rintro (hk | ⟨front, back, rfl, hk⟩)
      · exact ⟨[], c :: cs, rfl, hk⟩
      · exact ⟨c :: front, back, rfl, hk⟩
    · rintro ⟨front, back, hcs, hk⟩
      rcases List.cons_eq_append_iff.mp hcs with ⟨rfl, rfl⟩ | ⟨front, rfl, rfl⟩
      · exact .inl hk
      · exact .inr ⟨front, back, rfl, hk⟩

/-- What a part stands for is at the front, and the other parts match what is behind it. -/
theorem matchParts_cons : matchParts (p :: ps) cs = true ↔
    ∃ front back, cs = front ++ back ∧ p.StandsFor front ∧ matchParts ps back = true := by
  cases p with
  | star => simp [matchParts, anySuffix_iff, WildPart.StandsFor]
  | one => cases cs <;> simp [matchParts, WildPart.StandsFor]
  | char a =>
    cases cs with
    | nil => simp [matchParts, WildPart.StandsFor]
    | cons c cs => simpa [matchParts, WildPart.StandsFor, and_comm] using fun _ => eq_comm
  | set s => cases cs <;> simp [matchParts, WildPart.StandsFor]

/-- Parts in a row match a text that is put together from what they match. -/
theorem matchParts_append : matchParts (ps ++ qs) cs = true ↔
    ∃ front back, cs = front ++ back ∧ matchParts ps front = true ∧ matchParts qs back = true := by
  induction ps generalizing cs with
  | nil => simp [matchParts]
  | cons p ps ih =>
    simp only [List.cons_append, matchParts_cons, ih]
    constructor
    · rintro ⟨first, _, rfl, hp, front, back, rfl, hps, hqs⟩
      exact ⟨first ++ front, back, by rw [List.append_assoc], ⟨first, front, rfl, hp, hps⟩, hqs⟩
    · rintro ⟨_, back, rfl, ⟨first, front, rfl, hp, hps⟩, hqs⟩
      exact ⟨first, front ++ back, by rw [List.append_assoc], hp, front, back, rfl, hps, hqs⟩

/-- Letters match themselves. -/
theorem matchParts_letters : matchParts (w.map .char) cs = true ↔ cs = w := by
  induction w generalizing cs with
  | nil => simp [matchParts]
  | cons a w ih =>
    rw [List.map_cons, matchParts_cons]
    simp only [WildPart.StandsFor, ih]
    constructor
    · rintro ⟨_, _, rfl, rfl, rfl⟩
      rfl
    · rintro rfl
      exact ⟨[a], w, rfl, rfl, rfl⟩

/-- A star matches everything. -/
theorem matchParts_star : matchParts [.star] cs = true :=
  matchParts_cons.mpr ⟨cs, [], by rw [List.append_nil], trivial, rfl⟩

end Wildcard

/-! ### The last dot of a name -/

/-- What stands in a name from its last dot on, or nothing if there is no dot. -/
def fromLastDot : List Char → List Char
  | [] => []
  | c :: cs => if '.' ∈ cs then fromLastDot cs else if c = '.' then c :: cs else []

/-- What stands in a name in front of its last dot, or nothing if there is no dot. -/
def beforeLastDot : List Char → List Char
  | [] => []
  | c :: cs => if '.' ∈ cs then c :: beforeLastDot cs else []

/-- A name with a dot is cut in two at its last one. -/
theorem exists_fromLastDot_eq {cs : List Char} (h : '.' ∈ cs) :
    ∃ tail, '.' ∉ tail ∧ fromLastDot cs = '.' :: tail ∧ cs = beforeLastDot cs ++ '.' :: tail := by
  induction cs with
  | nil => cases h
  | cons c cs ih =>
    rw [fromLastDot, beforeLastDot]
    by_cases hcs : '.' ∈ cs
    · obtain ⟨tail, hlast, hfrom, hcut⟩ := ih hcs
      rw [if_pos hcs, if_pos hcs]
      exact ⟨tail, hlast, hfrom, by rw [List.cons_append, ← hcut]⟩
    · obtain rfl : c = '.' := ((List.mem_cons.mp h).resolve_right hcs).symm
      rw [if_neg hcs, if_neg hcs, if_pos rfl]
      exact ⟨cs, hcs, rfl, rfl⟩

theorem fromLastDot_of_not_mem {cs : List Char} (h : '.' ∉ cs) : fromLastDot cs = [] := by
  cases cs with
  | nil => rfl
  | cons c cs =>
    rw [List.mem_cons, not_or] at h
    rw [fromLastDot, if_neg h.2, if_neg fun hc => h.1 hc.symm]

/-- What has no dot stands at the end of a name exactly if it stands at the end of what the last dot
begins. -/
theorem suffix_fromLastDot_iff {cs w : List Char} (hw : '.' ∉ w) (hcs : '.' ∈ cs) :
    w <:+ fromLastDot cs ↔ w <:+ cs := by
  obtain ⟨tail, -, hfrom, hcut⟩ := exists_fromLastDot_eq hcs
  have hend : '.' :: tail <:+ cs := ⟨beforeLastDot cs, hcut.symm⟩
  rw [hfrom]
  refine ⟨fun h => h.trans hend, fun h => ?_⟩
  rcases List.suffix_or_suffix_of_suffix h hend with h | h
  · exact h
  · exact absurd (h.subset List.mem_cons_self) hw

end Text

namespace Driver

open Text

/-- A final extension **of YAML files** begins with `.y` and ends with `ml`. -/
def IsYamlExtension (extension : List Char) : Prop :=
  ".y".toList <+: extension ∧ "ml".toList <:+ extension

instance (extension : List Char) : Decidable (IsYamlExtension extension) :=
  inferInstanceAs (Decidable (_ ∧ _))

/-- The wildcard of YAML files in its parts. -/
theorem parts_yaml : Wildcard.parts "*.y*ml".toList =
    [.star] ++ (".y".toList.map .char ++ ([.star] ++ "ml".toList.map .char)) := by
  decide

/-- The names of YAML files have a `.y`, and end with `ml` behind it. -/
theorem accepts_yaml_eq_true {p : Path} : yaml.accepts p = true ↔
    ∃ front run, p.name.toList = front ++ (".y".toList ++ (run ++ "ml".toList)) := by
  have hparts : yaml.accepts p = true ↔
      Wildcard.matchParts (Wildcard.parts "*.y*ml".toList) p.name.toList = true := by
    simp [accepts, yaml, wildcardMatches_eq]
  rw [hparts, parts_yaml]
  simp only [Wildcard.matchParts_append, Wildcard.matchParts_letters, Wildcard.matchParts_star,
    true_and]
  constructor
  · rintro ⟨front, _, hname, _, _, rfl, rfl, run, _, rfl, rfl⟩
    exact ⟨front, run, hname⟩
  · rintro ⟨front, run, hname⟩
    exact ⟨front, _, hname, _, _, rfl, rfl, run, _, rfl, rfl⟩

/-- A `.y` in a name begins what stands from the last dot on, or stands in front of it. -/
theorem prefix_or_infix_of_append_eq {stem tail front back : List Char}
    (h : stem ++ '.' :: tail = front ++ '.' :: 'y' :: back) :
    ".y".toList <+: '.' :: tail ∨ '.' ∈ tail ∨ ".y".toList <:+: stem := by
  rcases List.append_eq_append_iff.mp h with ⟨mid, rfl, htail⟩ | ⟨mid, rfl, htail⟩
  · rcases List.cons_eq_append_iff.mp htail with ⟨rfl, hcut⟩ | ⟨mid, rfl, rfl⟩
    · exact .inl ⟨back, hcut⟩
    · exact .inr (.inl (by simp))
  · rcases mid with _ | ⟨_, _ | ⟨_, mid⟩⟩
    · exact .inl ⟨back, htail⟩
    · cases htail
    · cases htail
      exact .inr (.inr ⟨front, mid, by simp⟩)

theorem exists_eq_of_isYamlExtension {extension : List Char} (h : IsYamlExtension extension) :
    ∃ run, extension = ".y".toList ++ (run ++ "ml".toList) := by
  obtain ⟨⟨rest, rfl⟩, hend⟩ := h
  have hend : "ml".toList <:+ '.' :: 'y' :: rest := hend
  -- the letters of the two marks differ, so that they do not overlap
  rcases List.suffix_cons_iff.mp hend with hoverlap | hend
  · cases hoverlap
  rcases List.suffix_cons_iff.mp hend with hoverlap | ⟨run, rfl⟩
  · cases hoverlap
  exact ⟨run, rfl⟩

/-- **Names of YAML files.** The driver for YAML files accepts a name exactly if its final
extension begins with `.y` and ends with `ml`, or if it ends with `ml` and there is a `.y` in front
of its last dot. So it accepts all names that end with `.yml` or `.yaml`, and it decides by the
final extension alone where no other dot has a `y` behind it. -/
theorem accepts_yaml_iff (p : Path) :
    (yaml.accepts p = true ↔
      IsYamlExtension (fromLastDot p.name.toList) ∨
        ".y".toList <:+: beforeLastDot p.name.toList ∧
          "ml".toList <:+ fromLastDot p.name.toList) ∧
    (".yml".toList <:+ p.name.toList ∨ ".yaml".toList <:+ p.name.toList →
      yaml.accepts p = true) := by
  refine ⟨accepts_yaml_eq_true.trans ⟨?_, ?_⟩, ?_⟩
  · rintro ⟨front, run, hname⟩
    have hdot : '.' ∈ p.name.toList := by rw [hname]; simp
    obtain ⟨tail, hlast, hfrom, hcut⟩ := exists_fromLastDot_eq hdot
    have hend : "ml".toList <:+ fromLastDot p.name.toList := by
      rw [suffix_fromLastDot_iff (by decide) hdot, hname]
      exact ⟨front ++ (".y".toList ++ run), by simp only [List.append_assoc]⟩
    -- the `.y` that the wildcard found is nowhere behind the last dot
    rcases prefix_or_infix_of_append_eq (hcut.symm.trans hname) with hbegin | htail | hbefore
    · exact .inl ⟨hfrom ▸ hbegin, hend⟩
    · exact absurd htail hlast
    · exact .inr ⟨hbefore, hend⟩
  · intro h
    have hdot : '.' ∈ p.name.toList := by
      by_contra hnone
      rw [fromLastDot_of_not_mem hnone] at h
      rcases h with ⟨h, -⟩ | ⟨-, h⟩ <;> simp at h
    obtain ⟨tail, -, hfrom, hcut⟩ := exists_fromLastDot_eq hdot
    rw [hfrom] at h
    rcases h with hyaml | ⟨⟨front, back, hbefore⟩, ⟨run, hend⟩⟩
    · obtain ⟨run, hrun⟩ := exists_eq_of_isYamlExtension hyaml
      exact ⟨beforeLastDot p.name.toList, run, by rw [← hrun, ← hcut]⟩
    · refine ⟨front, back ++ run, ?_⟩
      rw [hcut, ← hbefore, ← hend]
      simp only [List.append_assoc]
  · rintro (⟨front, hname⟩ | ⟨front, hname⟩)
    · exact accepts_yaml_eq_true.mpr ⟨front, [], hname.symm⟩
    · exact accepts_yaml_eq_true.mpr ⟨front, ['a'], hname.symm⟩

/-- A name with two dots that ends with `.yaml`. -/
theorem accepts_yaml_iff_sample : ".yaml".toList <:+ (Path.ofText "/r/a.b.yaml").name.toList ∧
    yaml.accepts (.ofText "/r/a.b.yaml") = true := by
  have hend : ".yaml".toList <:+ (Path.ofText "/r/a.b.yaml").name.toList := by decide +kernel
  exact ⟨hend, (accepts_yaml_iff _).2 (.inr hend)⟩

/-- A page in HTML is taken for a YAML file when its name has a `.y` further in front. -/
theorem accepts_yaml_html : yaml.accepts (.ofText "/r/site.yaml.html") = true ∧
    fromLastDot (Path.ofText "/r/site.yaml.html").name.toList = ".html".toList ∧
    ¬IsYamlExtension ".html".toList := by
  decide +kernel

end Driver

end OptIn
