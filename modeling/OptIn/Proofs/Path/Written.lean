import Mathlib.Data.List.DropRight
import Mathlib.Data.List.Induction
import OptIn.Cache
import OptIn.Host.Basic

/-!
# What paths are written as

A path is **proper** when its parts are such as reading could give them: no part is empty, is `.`
or holds a slash. The written form of a proper path has exactly its parts between slashes
(`slashPieces_intercalate`, `namesOf_text`), so following the text means following the parts. The
name of a marker is the parts of the path with `%` between them (`cacheKey_eq`), which is a single
name again.
-/

namespace OptIn

/-! ### Pieces -/

namespace Text

theorem pieces_of_forall_not {p : Char → Bool} {cs : List Char} (h : ∀ c ∈ cs, p c = false) :
    pieces p cs = [cs] := by
  induction cs with
  | nil => rfl
  | cons c cs ih =>
    have hc : p c = false := h c List.mem_cons_self
    rw [pieces, hc, ih fun d hd => h d (List.mem_cons_of_mem _ hd)]
    rfl

theorem pieces_append_cons {p : Char → Bool} {cs ds : List Char} {c : Char}
    (h : ∀ d ∈ cs, p d = false) (hc : p c = true) :
    pieces p (cs ++ c :: ds) = cs :: pieces p ds := by
  induction cs with
  | nil => rw [List.nil_append, pieces, if_pos hc]
  | cons d cs ih =>
    have hd : p d = false := h d List.mem_cons_self
    rw [List.cons_append, pieces, hd, ih fun e he => h e (List.mem_cons_of_mem _ he)]
    rfl

/-- Cutting takes back joining, if no piece holds the separator. -/
theorem pieces_intercalate {c : Char} {ws : List (List Char)} (hne : ws ≠ [])
    (h : ∀ w ∈ ws, c ∉ w) : pieces (· = c) ([c].intercalate ws) = ws := by
  induction ws with
  | nil => exact absurd rfl hne
  | cons w ws ih =>
    have hw : ∀ d ∈ w, decide (d = c) = false := fun d hd =>
      decide_eq_false fun hdc => h w List.mem_cons_self (hdc ▸ hd)
    rcases ws with _ | ⟨v, ws⟩
    · rw [List.intercalate_singleton, pieces_of_forall_not hw]
    · rw [List.intercalate_cons_cons, List.append_assoc, List.singleton_append,
        pieces_append_cons hw (decide_eq_true rfl),
        ih (List.cons_ne_nil _ _) fun u hu => h u (List.mem_cons_of_mem _ hu)]

end Text

theorem slashPieces_intercalate {ps : List String} (hne : ps ≠ [])
    (h : ∀ s ∈ ps, '/' ∉ s.toList) : slashPieces ("/".intercalate ps) = ps := by
  have hmap : ∀ w ∈ ps.map String.toList, '/' ∉ w := by
    intro w hw
    obtain ⟨s, hs, rfl⟩ := List.mem_map.mp hw
    exact h s hs
  have hlist : ("/".intercalate ps).toList = ['/'].intercalate (ps.map String.toList) := by
    rw [String.toList_intercalate]
    rfl
  rw [slashPieces, hlist, Text.pieces_intercalate (by simpa using hne) hmap, List.map_map]
  simp [Function.comp_def]

/-! ### Proper paths -/

namespace Path

/-- A **proper name**: a part that reading a path could give. -/
structure ProperName (s : String) : Prop where
  ne_empty : s ≠ ""
  ne_dot : s ≠ "."
  noSlash : '/' ∉ s.toList

/-- A **proper** path: its parts are such as reading could give them. -/
def Proper (p : Path) : Prop := ∀ s ∈ p.parts, ProperName s

/-- The path one name further down. -/
def down (p : Path) (name : String) : Path := { p with parts := p.parts ++ [name] }

@[simp] theorem parts_down (p : Path) (name : String) : (p.down name).parts = p.parts ++ [name] :=
  rfl

@[simp] theorem anchor_down (p : Path) (name : String) : (p.down name).anchor = p.anchor := rfl

theorem Proper.down {p : Path} {name : String} (hp : p.Proper) (hn : ProperName name) :
    (p.down name).Proper := by
  intro s hs
  rcases List.mem_append.mp hs with hs | hs
  · exact hp s hs
  · rwa [List.mem_singleton.mp hs]

theorem noSlash_slashPieces {s t : String} (h : t ∈ slashPieces s) : '/' ∉ t.toList := by
  obtain ⟨cs, hcs, rfl⟩ := List.mem_map.mp h
  rw [String.toList_ofList]
  clear h
  generalize s.toList = ds at hcs
  induction ds generalizing cs with
  | nil => simp_all [Text.pieces]
  | cons d ds ih =>
    rw [Text.pieces] at hcs
    split at hcs
    · rcases List.mem_cons.mp hcs with rfl | hcs
      · simp
      · exact ih cs hcs
    · rename_i hd
      have hd' : '/' ≠ d := fun h => hd (by simp [← h])
      split at hcs
      · rw [List.mem_singleton.mp hcs]
        simpa using hd'
      · rename_i w ws hws
        rcases List.mem_cons.mp hcs with rfl | hcs
        · rw [List.mem_cons, not_or]
          exact ⟨hd', ih w (hws ▸ List.mem_cons_self)⟩
        · exact ih cs (hws ▸ List.mem_cons_of_mem _ hcs)

/-- Reading gives proper paths. -/
theorem proper_ofText (s : String) : (ofText s).Proper := by
  intro t ht
  obtain ⟨ht, hgood⟩ := List.mem_filter.mp ht
  simp only [ne_eq, Bool.and_eq_true, decide_eq_true_eq] at hgood
  exact ⟨hgood.1, hgood.2, noSlash_slashPieces ht⟩

theorem Proper.join {p q : Path} (hp : p.Proper) (hq : q.Proper) : (p.join q).Proper := by
  unfold Path.join
  split
  · exact hq
  · intro s hs
    rcases List.mem_append.mp hs with hs | hs
    · exact hp s hs
    · exact hq s hs

/-- A name behind a proper path, however it is written, makes a proper path. -/
theorem Proper.child {p : Path} (hp : p.Proper) (name : String) : (p.child name).Proper :=
  hp.join (proper_ofText name)

theorem anchorOf_of_head? {cs : List Char} (h : cs.head? ≠ some '/') : anchorOf cs = .relative := by
  unfold anchorOf
  split <;> simp_all

/-- A proper name is read as itself. -/
theorem ofText_name {name : String} (hn : ProperName name) :
    ofText name = ⟨.relative, [name]⟩ := by
  have hpieces : slashPieces name = [name] := by
    have hs : ∀ c ∈ name.toList, decide (c = '/') = false := fun c hc =>
      decide_eq_false fun h => hn.noSlash (h ▸ hc)
    rw [slashPieces, Text.pieces_of_forall_not hs]
    simp
  have hhead : name.toList.head? ≠ some '/' := fun h => hn.noSlash (List.mem_of_mem_head? h)
  rw [ofText, anchorOf_of_head? hhead, hpieces]
  simp [hn.ne_empty, hn.ne_dot]

theorem child_eq_down (p : Path) {name : String} (hn : ProperName name) :
    p.child name = p.down name := by
  rw [child, ofText_name hn]
  rfl

/-! ### Written forms -/

theorem text_of_ne_nil {p : Path} (h : p.parts ≠ []) :
    p.text = p.anchor.text ++ "/".intercalate p.parts := by
  rw [text, if_neg]
  simp [h]

theorem text_relative {parts : List String} (h : parts ≠ []) :
    text ⟨.relative, parts⟩ = "/".intercalate parts :=
  (text_of_ne_nil h).trans String.empty_append

/-- The written form of a longer path. -/
theorem text_down_of_ne_nil {p : Path} (h : p.parts ≠ []) (name : String) :
    (p.down name).text = p.text ++ "/" ++ name := by
  rw [text_of_ne_nil h, text_of_ne_nil (by simp), parts_down,
    String.intercalate_append_of_ne_nil h (by simp), String.intercalate_singleton]
  simp [String.append_assoc]

theorem text_down_of_nil {p : Path} (h : p.parts = []) (name : String) :
    (p.down name).text = p.anchor.text ++ name := by
  rw [text_of_ne_nil (by simp), parts_down, h, List.nil_append, String.intercalate_singleton]
  rfl

/-- A longer path is written with at least as many bytes. -/
theorem utf8ByteSize_text_le_down {p : Path} {name : String} (hn : ProperName name) :
    p.text.utf8ByteSize ≤ (p.down name).text.utf8ByteSize := by
  by_cases h : p.parts = []
  · rw [text_down_of_nil h, String.utf8ByteSize_append, text, h]
    have hpos : 1 ≤ name.utf8ByteSize :=
      Nat.pos_of_ne_zero fun h0 => hn.ne_empty (String.utf8ByteSize_eq_zero_iff.mp h0)
    have hdot : ".".utf8ByteSize = 1 := by decide
    cases p.anchor with
    | relative => simpa [Anchor.text, String.intercalate_nil, hdot] using hpos
    | root => simp [Anchor.text, String.intercalate_nil]
    | doubleRoot => simp [Anchor.text, String.intercalate_nil]
  · rw [text_down_of_ne_nil h, String.append_assoc, String.utf8ByteSize_append]
    exact Nat.le_add_right _ _

theorem holdsNull_append (s t : String) : holdsNull (s ++ t) = (holdsNull s || holdsNull t) := by
  simp [holdsNull]

/-- A longer path holds NUL when the shorter one or the further name does. -/
theorem holdsNull_text_down (p : Path) (name : String) :
    holdsNull (p.down name).text = (holdsNull p.text || holdsNull name) := by
  by_cases h : p.parts = []
  · rw [text_down_of_nil h, holdsNull_append, text, h]
    cases p.anchor <;> simp [Anchor.text, String.intercalate_nil, holdsNull]
  · rw [text_down_of_ne_nil h, holdsNull_append, holdsNull_append]
    have hs : holdsNull "/" = false := by decide
    rw [hs, Bool.or_false]

theorem text_ne_empty {p : Path} (hp : p.Proper) : p.text ≠ "" := by
  intro hempty
  rcases hps : p.parts with _ | ⟨s, ps⟩
  · rw [text, hps] at hempty
    cases ha : p.anchor <;> simp [ha, Anchor.text, String.intercalate_nil] at hempty
  · have hs : ProperName s := hp s (by simp [hps])
    rw [text_of_ne_nil (by simp [hps]), hps, String.append_eq_empty_iff] at hempty
    rcases ps with _ | ⟨t, ps⟩
    · rw [String.intercalate_singleton] at hempty
      exact hs.ne_empty hempty.2
    · rw [String.intercalate_cons_cons, String.append_eq_empty_iff,
        String.append_eq_empty_iff] at hempty
      exact hs.ne_empty hempty.2.1.1

/-- A path with parts is a shorter path and a last name. -/
theorem exists_eq_down {p : Path} (h : p.parts ≠ []) : ∃ (q : Path) (s : String), p = q.down s :=
  ⟨p.parent, p.parts.getLast h, Path.ext rfl (List.dropLast_append_getLast h).symm⟩

@[simp] theorem parent_down (p : Path) (name : String) : (p.down name).parent = p := by
  simp [parent, down]

theorem proper_down_iff {p : Path} {name : String} :
    (p.down name).Proper ↔ p.Proper ∧ ProperName name := by
  refine ⟨fun h => ⟨fun s hs => h s (by simp [hs]), h name (by simp)⟩, fun h => h.1.down h.2⟩

theorem slashPieces_append_slash (s : String) : slashPieces ("/" ++ s) = "" :: slashPieces s := by
  simp [slashPieces, Text.pieces]

/-- The pieces of a proper path's text that are not empty are its parts. -/
theorem filter_slashPieces_text {p : Path} (hp : p.Proper) (h : p.parts ≠ []) :
    (slashPieces p.text).filter (· ≠ "") = p.parts := by
  have hparts : (slashPieces ("/".intercalate p.parts)).filter (· ≠ "") = p.parts := by
    rw [slashPieces_intercalate h fun s hs => (hp s hs).noSlash]
    exact List.filter_eq_self.mpr fun s hs => by simpa using (hp s hs).ne_empty
  have hdouble : "//" ++ "/".intercalate p.parts = "/" ++ ("/" ++ "/".intercalate p.parts) := by
    rw [← String.append_assoc]
    rfl
  rw [text_of_ne_nil h]
  cases p.anchor with
  | relative => rwa [Anchor.text, String.empty_append]
  | root => rw [Anchor.text, slashPieces_append_slash, List.filter_cons_of_neg (by simp), hparts]
  | doubleRoot =>
    rw [Anchor.text, hdouble, slashPieces_append_slash, slashPieces_append_slash,
      List.filter_cons_of_neg (by simp), List.filter_cons_of_neg (by simp), hparts]

/-- The text of a proper path with parts does not end in a slash. -/
theorem getLast?_text_ne_slash {p : Path} (hp : p.Proper) (h : p.parts ≠ []) :
    p.text.toList.getLast? ≠ some '/' := by
  obtain ⟨q, s, rfl⟩ := exists_eq_down h
  have hs : ProperName s := (proper_down_iff.mp hp).2
  have hlist : s.toList ≠ [] := fun hnil => hs.ne_empty (String.toList_eq_nil_iff.mp hnil)
  obtain ⟨t, ht⟩ : ∃ t, (q.down s).text = t ++ s := by
    by_cases hq : q.parts = []
    · exact ⟨_, text_down_of_nil hq s⟩
    · exact ⟨_, text_down_of_ne_nil hq s⟩
  rw [ht, String.toList_append, List.getLast?_append_of_ne_nil _ hlist]
  exact fun hlast => hs.noSlash (List.mem_of_getLast? hlast)

/-- Following a path's text goes along its parts. -/
theorem namesOf_text {p : Path} (hp : p.Proper) (h : p.parts ≠ []) :
    Disk.namesOf p.text = p.parts := by
  have hlast := getLast?_text_ne_slash hp h
  rw [Disk.namesOf, filter_slashPieces_text hp h, if_neg]
  simp [hlast]

theorem namesOf_text_of_isAbsolute {p : Path} (hp : p.Proper) (h : p.isAbsolute = true) :
    Disk.namesOf p.text = p.parts := by
  by_cases hps : p.parts = []
  · obtain ⟨a, ps⟩ := p
    obtain rfl : ps = [] := hps
    cases a with
    | relative => simp [isAbsolute] at h
    | root => decide
    | doubleRoot => decide
  · exact namesOf_text hp hps

theorem head?_text_eq_slash_iff {p : Path} (hp : p.Proper) :
    p.text.toList.head? = some '/' ↔ p.isAbsolute = true := by
  obtain ⟨a, ps⟩ := p
  cases a with
  | relative =>
    rcases ps with _ | ⟨s, ps⟩
    · decide
    · have hs : ProperName s := hp s (by simp)
      have hlist : s.toList ≠ [] := fun hnil => hs.ne_empty (String.toList_eq_nil_iff.mp hnil)
      obtain ⟨c, cs, hc⟩ := List.exists_cons_of_ne_nil hlist
      have hslash : c ≠ '/' := fun h => hs.noSlash (by simp [hc, h])
      obtain ⟨t, ht⟩ : ∃ t, "/".intercalate (s :: ps) = s ++ t := by
        rcases ps with _ | ⟨u, ps⟩
        · exact ⟨"", by rw [String.intercalate_singleton, String.append_empty]⟩
        · exact ⟨_, by rw [String.intercalate_cons_cons, String.append_assoc]⟩
      rw [text_of_ne_nil (by simp), ht]
      simp [Anchor.text, isAbsolute, hc, hslash]
  | root => simp [text, Anchor.text, isAbsolute]
  | doubleRoot => simp [text, Anchor.text, isAbsolute]

theorem head?_intercalate_ne_slash {parts : List String} (hp : ∀ s ∈ parts, ProperName s) :
    ("/".intercalate parts).toList.head? ≠ some '/' := by
  by_cases hparts : parts = []
  · rw [hparts]
    decide
  · have hproper : Proper ⟨.relative, parts⟩ := hp
    rw [← text_relative hparts, ne_eq, head?_text_eq_slash_iff hproper]
    simp [isAbsolute]

theorem anchorOf_text {p : Path} (hp : p.Proper) : anchorOf p.text.toList = p.anchor := by
  have hhead := head?_intercalate_ne_slash hp
  obtain ⟨anchor, parts⟩ := p
  cases anchor with
  | relative =>
    have hrel : (text ⟨.relative, parts⟩).toList.head? ≠ some '/' := by
      rw [ne_eq, head?_text_eq_slash_iff hp]
      simp [isAbsolute]
    exact anchorOf_of_head? hrel
  | root | doubleRoot =>
    rw [text, if_neg (by simp), Anchor.text, String.toList_append]
    rcases hcs : ("/".intercalate parts).toList with _ | ⟨c, cs⟩
    · rfl
    · have hslash : c ≠ '/' := by simpa [hcs] using hhead
      simp [anchorOf, hslash]

/-- Reading takes back writing. -/
theorem ofText_text {p : Path} (hp : p.Proper) : ofText p.text = p := by
  have hparts : (slashPieces p.text).filter (fun part => part ≠ "" && part ≠ ".") = p.parts := by
    by_cases h : p.parts = []
    · rw [text, h]
      cases p.anchor <;> decide
    · have hdots : p.parts.filter (· ≠ ".") = p.parts :=
        List.filter_eq_self.mpr fun s hs => by simpa using (hp s hs).ne_dot
      rw [← hdots, ← filter_slashPieces_text hp h, List.filter_filter]
      exact List.filter_congr fun s _ => Bool.and_comm _ _
  rw [ofText, anchorOf_text hp, hparts]

/-- A path holds NUL when one of its parts does. -/
theorem holdsNull_text (p : Path) : holdsNull p.text = p.parts.any holdsNull := by
  obtain ⟨anchor, parts⟩ := p
  induction parts using List.reverseRecOn with
  | nil => cases anchor <;> decide
  | append_singleton parts name ih =>
    have hdown := holdsNull_text_down ⟨anchor, parts⟩ name
    rw [ih] at hdown
    simpa [down] using hdown

end Path

/-! ### Names of markers -/

theorem map_intercalate {α β : Type} (f : α → β) (sep : List α) (ws : List (List α)) :
    (sep.intercalate ws).map f = (sep.map f).intercalate (ws.map (List.map f)) := by
  induction ws with
  | nil => rfl
  | cons w ws ih =>
    rcases ws with _ | ⟨v, ws⟩
    · simp [List.intercalate_singleton]
    · rw [List.intercalate_cons_cons, List.map_append, List.map_append, ih]
      simp [List.intercalate_cons_cons]

/-- The name of a path's marker is its parts with `%` between them. -/
theorem cacheKey_eq {p : Path} (hp : p.Proper) (h : p.parts ≠ []) :
    cacheKey p = "%".intercalate p.parts := by
  -- without its anchor the text neither starts nor ends with a slash
  let q : Path := ⟨.relative, p.parts⟩
  have hq : q.Proper := hp
  have htext : q.text = "/".intercalate p.parts := Path.text_relative h
  have hhead : q.text.toList.dropWhile (fun c => decide (c = '/')) = q.text.toList := by
    refine List.dropWhile_eq_self_iff.mpr fun hne hslash => ?_
    have hc : q.text.toList.head? = some '/' := by
      rw [List.head?_eq_getElem?, List.getElem?_eq_getElem hne]
      exact congrArg some (of_decide_eq_true hslash)
    exact absurd ((Path.head?_text_eq_slash_iff hq).mp hc) (by simp [q, Path.isAbsolute])
  have hlast : Text.trimRightBy (fun c => decide (c = '/')) q.text.toList = q.text.toList := by
    refine List.rdropWhile_eq_self_iff.mpr fun hne hslash => Path.getLast?_text_ne_slash hq h ?_
    rw [List.getLast?_eq_getLast_of_ne_nil hne]
    exact congrArg some (of_decide_eq_true hslash)
  have hdrop : p.text.toList.dropWhile (fun c => decide (c = '/')) = q.text.toList := by
    rw [Path.text_of_ne_nil h, ← htext, String.toList_append, List.dropWhile_append_of_pos,
      hhead]
    cases p.anchor <;> simp [Anchor.text]
  have hmap : ∀ s ∈ p.parts, s.toList.map (fun c => if c = '/' then '%' else c) = s.toList := by
    intro s hs
    refine List.map_congr_left (g := id) (fun c hc => if_neg fun hslash => ?_) |>.trans
      (List.map_id _)
    exact (hp s hs).noSlash (hslash ▸ hc)
  rw [cacheKey]
  simp only [hdrop, hlast]
  apply String.toList_inj.mp
  rw [String.toList_ofList, htext, String.toList_intercalate, String.toList_intercalate,
    map_intercalate, List.map_map]
  congr 1
  exact List.map_congr_left fun s hs => hmap s hs

theorem utf8ByteSize_intercalate_congr {s t : String} (h : s.utf8ByteSize = t.utf8ByteSize)
    (ps : List String) : (s.intercalate ps).utf8ByteSize = (t.intercalate ps).utf8ByteSize := by
  rcases ps with _ | ⟨x, ps⟩
  · simp
  induction ps generalizing x with
  | nil => simp
  | cons y ps ih =>
    simp only [String.intercalate_cons_cons, String.utf8ByteSize_append, h, ih y]

/-- The name of a marker is as long as the path without its anchor. -/
theorem utf8ByteSize_text_eq {p : Path} (hp : p.Proper) (h : p.parts ≠ []) :
    p.text.utf8ByteSize = p.anchor.text.utf8ByteSize + (cacheKey p).utf8ByteSize := by
  have hsize : "/".utf8ByteSize = "%".utf8ByteSize := by decide
  rw [cacheKey_eq hp h, Path.text_of_ne_nil h, String.utf8ByteSize_append,
    utf8ByteSize_intercalate_congr hsize]

/-- The last name of a path is no longer than the name of its marker. -/
theorem utf8ByteSize_le_cacheKey_down {p : Path} {name : String} (hp : (p.down name).Proper) :
    name.utf8ByteSize ≤ (cacheKey (p.down name)).utf8ByteSize := by
  have hsize := utf8ByteSize_text_eq hp (by simp)
  by_cases h : p.parts = []
  · rw [Path.text_down_of_nil h, String.utf8ByteSize_append, Path.anchor_down] at hsize
    omega
  · rw [Path.text_down_of_ne_nil h, Path.text_of_ne_nil h, String.utf8ByteSize_append,
      String.utf8ByteSize_append, String.utf8ByteSize_append, Path.anchor_down] at hsize
    omega

/-- A name of a marker without `%` is that of a path with this one part. -/
theorem parts_eq_of_cacheKey_eq {p : Path} {key : String} (hp : p.Proper) (h : p.parts ≠ [])
    (hkey : cacheKey p = key) (hmark : '%' ∉ key.toList) : p.parts = [key] := by
  rw [cacheKey_eq hp h] at hkey
  rcases hps : p.parts with _ | ⟨s, _ | ⟨t, ps⟩⟩
  · exact absurd hps h
  · rw [hps, String.intercalate_singleton] at hkey
    rw [hkey]
  · refine absurd ?_ hmark
    rw [← hkey, hps, String.intercalate_cons_cons]
    simp

/-- Paths without `%` have markers of different names, unless they have the same parts. -/
theorem parts_eq_of_cacheKey_eq_cacheKey {p q : Path} (hp : p.Proper) (hq : q.Proper)
    (hpne : p.parts ≠ []) (hqne : q.parts ≠ []) (hpmark : ∀ s ∈ p.parts, '%' ∉ s.toList)
    (hqmark : ∀ s ∈ q.parts, '%' ∉ s.toList) (hkey : cacheKey p = cacheKey q) :
    p.parts = q.parts := by
  have hpieces : ∀ {ps : List String}, ps ≠ [] → (∀ s ∈ ps, '%' ∉ s.toList) →
      Text.pieces (· = '%') ("%".intercalate ps).toList = ps.map String.toList := by
    intro ps hne hmark
    have htext : ("%".intercalate ps).toList = ['%'].intercalate (ps.map String.toList) := by
      rw [String.toList_intercalate]
      rfl
    rw [htext]
    refine Text.pieces_intercalate (by simpa using hne) fun w hw => ?_
    obtain ⟨s, hs, rfl⟩ := List.mem_map.mp hw
    exact hmark s hs
  rw [cacheKey_eq hp hpne, cacheKey_eq hq hqne] at hkey
  have hmap : p.parts.map String.toList = q.parts.map String.toList := by
    rw [← hpieces hpne hpmark, ← hpieces hqne hqmark, hkey]
  exact (List.map_injective_iff.mpr fun s t hst => String.toList_inj.mp hst) hmap

theorem slash_not_mem_cacheKey (p : Path) : '/' ∉ (cacheKey p).toList := by
  rw [cacheKey, String.toList_ofList, List.mem_map]
  rintro ⟨c, -, hc⟩
  split at hc
  · exact absurd hc (by decide)
  · contradiction

/-- The name of a marker is a proper name. -/
theorem properName_cacheKey {p : Path} (hp : p.Proper) (h : p.parts ≠ []) :
    Path.ProperName (cacheKey p) where
  ne_empty hkey := by
    have hparts := parts_eq_of_cacheKey_eq hp h hkey (by decide)
    exact (hp "" (by simp [hparts])).ne_empty rfl
  ne_dot hkey := by
    have hparts := parts_eq_of_cacheKey_eq hp h hkey (by decide)
    exact (hp "." (by simp [hparts])).ne_dot rfl
  noSlash := slash_not_mem_cacheKey p

/-- Only the path `..` has a marker of that name. -/
theorem cacheKey_ne_up {p : Path} (hp : p.Proper) (h : p.parts ≠ []) (hup : p.parts ≠ [".."]) :
    cacheKey p ≠ ".." := fun hkey =>
  hup (parts_eq_of_cacheKey_eq hp h hkey (by decide))

/-- What is dropped in front of a text holds no character of another kind. -/
theorem mem_dropWhile_iff {p : Char → Bool} {c : Char} {cs : List Char} (hc : p c = false) :
    c ∈ cs.dropWhile p ↔ c ∈ cs := by
  refine ⟨fun h => (List.dropWhile_sublist _).subset h, fun h => ?_⟩
  rw [← List.takeWhile_append_dropWhile (p := p) (l := cs), List.mem_append] at h
  refine h.resolve_left fun htake => ?_
  rw [List.all_eq_true.mp List.all_takeWhile c htake] at hc
  cases hc

/-- The name of a marker holds a NUL if the path does. -/
theorem holdsNull_cacheKey_eq (p : Path) : holdsNull (cacheKey p) = holdsNull p.text := by
  have hnul : decide ('\x00' = '/') = false := by decide
  have hinside : '\x00' ∈ Text.trimRightBy (fun c => decide (c = '/'))
      (p.text.toList.dropWhile fun c => decide (c = '/')) ↔ '\x00' ∈ p.text.toList := by
    rw [Text.trimRightBy, List.mem_reverse, mem_dropWhile_iff hnul, List.mem_reverse,
      mem_dropWhile_iff hnul]
  have hkey : '\x00' ∈ (cacheKey p).toList ↔ '\x00' ∈ p.text.toList := by
    rw [cacheKey, String.toList_ofList, List.mem_map, ← hinside]
    constructor
    · rintro ⟨c, hc, hnul⟩
      split at hnul
      · exact absurd hnul (by decide)
      · exact hnul ▸ hc
    · exact fun hc => ⟨_, hc, by decide⟩
  simpa [holdsNull] using hkey

/-- A path that holds no NUL has a marker whose name holds none. -/
theorem holdsNull_cacheKey {p : Path} (h : holdsNull p.text = false) :
    holdsNull (cacheKey p) = false := (holdsNull_cacheKey_eq p).trans h

end OptIn
