import Mathlib.Data.List.Basic
import OptIn.Console.Section
import OptIn.Proofs.Text.Cuts

/-!
# Titles that are shown as they are

Without colour a section header is read as marked-up text, so a title stands in it as it is exactly
if it is not **tagged**, that is, if nothing between brackets in it starts like a tag
(`sectionHeader_eq_literal_iff`). The text of a header is what is left of the line without its tags:
it is a sublist of the line, and a shorter one as soon as there is a tag.
-/

namespace OptIn.Console

/-- Characters are **tagged** when they hold brackets around something that starts like a tag and
holds no other bracket. -/
def Tagged (cs : List Char) : Prop :=
  ∃ front c body back, cs = front ++ '[' :: c :: (body ++ ']' :: back) ∧ startsTag c = true ∧
    '[' ∉ body ∧ ']' ∉ body

/-- A text is **clean** when it holds no control character of ASCII and no backslash. -/
def Clean (s : String) : Prop := ∀ c ∈ s.toList, 32 ≤ c.toNat ∧ c ≠ '\x5c'

instance (s : String) : Decidable (Clean s) :=
  decidable_of_iff (s.toList.all fun c => decide (32 ≤ c.toNat ∧ c ≠ '\x5c')) <| by
    simp only [Clean, List.all_eq_true, decide_eq_true_eq]

/-- The header in which a title stands as it is. -/
def literalHeader (title : String) : String := "\n--- " ++ title ++ " ---\n"

variable {cs ds : List Char} {c : Char} {title : String}

theorem tagged_append_iff_right (h : '[' ∉ ds) : Tagged (ds ++ cs) ↔ Tagged cs := by
  constructor
  · rintro ⟨front, c, body, back, heq, hc, hopen, hclose⟩
    rcases List.append_eq_append_iff.mp heq with ⟨as, rfl, rfl⟩ | ⟨bs, rfl, hbs⟩
    · exact ⟨as, c, body, back, rfl, hc, hopen, hclose⟩
    · rcases bs with _ | ⟨b, bs⟩
      · exact ⟨[], c, body, back, hbs.symm, hc, hopen, hclose⟩
      · obtain rfl : '[' = b := (List.cons.inj hbs).1
        exact absurd (by simp) h
  · rintro ⟨front, c, body, back, rfl, hc, hopen, hclose⟩
    exact ⟨ds ++ front, c, body, back, by simp, hc, hopen, hclose⟩

theorem tagged_append_iff_left (h : ']' ∉ ds) : Tagged (cs ++ ds) ↔ Tagged cs := by
  constructor
  · rintro ⟨front, c, body, back, heq, hc, hopen, hclose⟩
    have hsplit : cs ++ ds = (front ++ '[' :: c :: body) ++ ']' :: back := by simp [heq]
    rcases List.append_eq_append_iff.mp hsplit with ⟨as, hfront, hds⟩ | ⟨bs, rfl, hbs⟩
    · exact absurd (by simp [hds]) h
    · rcases bs with _ | ⟨b, bs⟩
      · rw [List.nil_append] at hbs
        exact absurd (by simp [← hbs]) h
      · obtain rfl : ']' = b := (List.cons.inj hbs).1
        exact ⟨front, c, body, bs, by simp, hc, hopen, hclose⟩
  · rintro ⟨front, c, body, back, rfl, hc, hopen, hclose⟩
    exact ⟨front, c, body, back ++ ds, by simp, hc, hopen, hclose⟩

/-! ### Tags ahead -/

theorem takeWhile_body {body rest : List Char} (hopen : '[' ∉ body) (hclose : ']' ∉ body) :
    (body ++ ']' :: rest).takeWhile (fun d => d ≠ '[' && d ≠ ']') = body := by
  rw [List.takeWhile_append_of_pos, List.takeWhile_cons_of_neg (by simp), List.append_nil]
  intro d hd
  have hne : d ≠ '[' ∧ d ≠ ']' := ⟨fun h => hopen (h ▸ hd), fun h => hclose (h ▸ hd)⟩
  simpa using hne

/-- Without a backslash, a tag is ahead where brackets are. -/
theorem exists_tagAhead? {body back : List Char} (hc : startsTag c = true) (hopen : '[' ∉ body)
    (hclose : ']' ∉ body) :
    tagAhead? ('[' :: c :: (body ++ ']' :: back)) = some (0, c :: body) := by
  have hbody : tagBody? (c :: (body ++ ']' :: back)) = some (c :: body) := by
    rw [tagBody?, if_pos hc, takeWhile_body hopen hclose]
    simp
  simp [tagAhead?, hbody]

theorem exists_of_tagBody? {body : List Char} (h : tagBody? cs = some body) :
    ∃ c inner back, body = c :: inner ∧ cs = c :: (inner ++ ']' :: back) ∧ startsTag c = true ∧
      '[' ∉ inner ∧ ']' ∉ inner := by
  rcases cs with _ | ⟨c, rest⟩
  · cases h
  rw [tagBody?] at h
  simp only at h
  split at h
  · rename_i hc
    split at h
    · rename_i hend
      generalize hinner : rest.takeWhile (fun d => d ≠ '[' && d ≠ ']') = inner at h hend
      cases h
      -- the body goes as far as there is no bracket, and what stopped it closes
      have hchars : ∀ d ∈ inner, d ≠ '[' ∧ d ≠ ']' := fun d hd => by
        rw [← hinner] at hd
        simpa using List.all_eq_true.mp List.all_takeWhile d hd
      have hprefix : inner <+: rest := hinner ▸ List.takeWhile_prefix _
      obtain ⟨back, hback⟩ : ∃ back, rest.drop inner.length = ']' :: back := by
        rcases hdrop : rest.drop inner.length with _ | ⟨d, back⟩
        · rw [hdrop] at hend
          cases hend
        · rw [hdrop] at hend
          cases hend
          exact ⟨back, rfl⟩
      refine ⟨c, inner, back, rfl, ?_, hc, fun hm => (hchars _ hm).1 rfl,
        fun hm => (hchars _ hm).2 rfl⟩
      rw [← hback, List.prefix_iff_eq_append.mp hprefix]
    · cases h
  · cases h

theorem takeWhile_backslash (h : '\x5c' ∉ cs) : cs.takeWhile (· = '\x5c') = [] := by
  rcases cs with _ | ⟨d, cs⟩
  · rfl
  · have hd : d ≠ '\x5c' := fun hd => h (hd ▸ List.mem_cons_self)
    exact List.takeWhile_cons_of_neg (by simpa using hd)

theorem tagged_of_tagAhead? {slashes : Nat} {body : List Char} (hslash : '\x5c' ∉ cs)
    (h : tagAhead? cs = some (slashes, body)) : slashes = 0 ∧ Tagged cs := by
  rw [tagAhead?, takeWhile_backslash hslash] at h
  simp only [List.length_nil, List.drop_zero] at h
  split at h
  · rename_i rest
    obtain ⟨body', hbody, heq⟩ := Option.map_eq_some_iff.mp h
    obtain ⟨c, inner, back, rfl, rfl, hc, hopen, hclose⟩ := exists_of_tagBody? hbody
    cases heq
    exact ⟨rfl, [], c, inner, back, rfl, hc, hopen, hclose⟩
  · cases h

theorem Tagged.cons (h : Tagged cs) (c : Char) : Tagged (c :: cs) := by
  obtain ⟨front, d, body, back, rfl, hd, hopen, hclose⟩ := h
  exact ⟨c :: front, d, body, back, rfl, hd, hopen, hclose⟩

/-- A tag is where a tagged text starts, or further behind. -/
theorem Tagged.cons_cases (h : Tagged (c :: cs)) : (tagAhead? (c :: cs)).isSome ∨ Tagged cs := by
  obtain ⟨front, d, body, back, heq, hd, hopen, hclose⟩ := h
  rcases front with _ | ⟨e, front⟩
  · rw [List.nil_append] at heq
    rw [heq, exists_tagAhead? hd hopen hclose]
    exact .inl rfl
  · obtain ⟨rfl, rfl⟩ := List.cons.inj heq
    exact .inr ⟨front, d, body, back, rfl, hd, hopen, hclose⟩

/-! ### What is left without tags -/

/-- What parts of a marked-up text leave of it. -/
def plainsOf (parts : List MarkupPart) : List Char :=
  parts.flatMap fun
    | .plain text => text
    | .tag _ _ _ => []

theorem unescape_eq_self (h : '\x5c' ∉ cs) : unescape cs = cs := by
  induction cs with
  | nil => rfl
  | cons c cs ih =>
    rw [unescape]
    · rw [ih fun hm => h (List.mem_cons_of_mem _ hm)]
    · rintro ds rfl rfl
      exact h List.mem_cons_self

/-- What is left of a text without backslashes is part of it, and less if there is a tag. -/
theorem plainsOf_markupPartsFrom (position skip : Nat) {plain : List Char}
    (hplain : '\x5c' ∉ plain) (hcs : '\x5c' ∉ cs) :
    (plainsOf (markupPartsFrom position skip plain cs)).Sublist (plain.reverse ++ cs) ∧
      (skip = 0 → Tagged cs →
        (plainsOf (markupPartsFrom position skip plain cs)).length < (plain ++ cs).length) := by
  induction cs generalizing position skip plain with
  | nil =>
    refine ⟨?_, fun _ htag => ?_⟩
    · rw [markupPartsFrom, unescape_eq_self (by simpa using hplain)]
      simp [plainsOf]
    · obtain ⟨front, c, body, back, heq, -⟩ := htag
      simp at heq
  | cons c cs ih =>
    have hcs' : '\x5c' ∉ cs := fun hm => hcs (List.mem_cons_of_mem _ hm)
    rw [markupPartsFrom]
    by_cases hskip : skip = 0
    · rw [if_pos hskip]
      rcases hahead : tagAhead? (c :: cs) with _ | ⟨slashes, body⟩
      · -- no tag begins here, so the character stays, and any tag lies behind it
        have hnext : '\x5c' ∉ c :: plain := by
          rw [List.mem_cons, not_or]
          exact ⟨fun hc => hcs (hc ▸ List.mem_cons_self), hplain⟩
        obtain ⟨hsub, hless⟩ := ih (position + 1) 0 hnext hcs'
        refine ⟨by simpa using hsub, fun _ htag => ?_⟩
        have htag' : Tagged cs := htag.cons_cases.resolve_left (by simp [hahead])
        have hlength := hless rfl htag'
        simp only [List.length_append, List.length_cons] at hlength ⊢
        omega
      · -- a tag begins here, and at least its bracket is lost
        obtain ⟨rfl, -⟩ := tagged_of_tagAhead? hcs hahead
        obtain ⟨hsub, -⟩ := @ih (position + 1) (0 + body.length + 1) [] List.not_mem_nil hcs'
        have hparts : plainsOf (.plain (unescape plain.reverse) :: tagParts position 0 body ++
            markupPartsFrom (position + 1) (0 + body.length + 1) [] cs) =
              plain.reverse ++
                plainsOf (markupPartsFrom (position + 1) (0 + body.length + 1) [] cs) := by
          rw [unescape_eq_self (by simpa using hplain)]
          simp [plainsOf, tagParts]
        have hsub' : (plainsOf (markupPartsFrom (position + 1) (0 + body.length + 1) [] cs)).Sublist
            cs := by simpa using hsub
        simp only [hparts]
        refine ⟨(List.Sublist.refl _).append (hsub'.cons c), fun _ _ => ?_⟩
        have hlength := hsub.length_le
        simp only [List.length_append, List.length_cons, List.length_reverse,
          List.length_nil] at hlength ⊢
        omega
    · rw [if_neg hskip]
      obtain ⟨hsub, -⟩ := ih (position + 1) (skip - 1) hplain hcs'
      refine ⟨hsub.trans ((List.Sublist.refl _).append (List.sublist_cons_self c cs)),
        fun hzero => absurd hzero hskip⟩

/-- A text without tags and backslashes is one part. -/
theorem markupParts_of_not_tagged (hslash : '\x5c' ∉ cs) (h : ¬Tagged cs) :
    markupParts cs = [.plain cs] := by
  suffices H : ∀ (position : Nat) (plain : List Char), '\x5c' ∉ plain →
      markupPartsFrom position 0 plain cs = [.plain (plain.reverse ++ cs)] from H 0 [] (by simp)
  induction cs with
  | nil =>
    intro position plain hplain
    rw [markupPartsFrom, unescape_eq_self (by simpa using hplain), List.append_nil]
  | cons c cs ih =>
    intro position plain hplain
    have hnone : tagAhead? (c :: cs) = none := by
      rcases hahead : tagAhead? (c :: cs) with _ | ⟨slashes, body⟩
      · rfl
      · exact absurd (tagged_of_tagAhead? hslash hahead).2 h
    obtain ⟨hc, hcs⟩ := not_or.mp (List.mem_cons.not.mp hslash)
    have hnext : '\x5c' ∉ c :: plain := List.mem_cons.not.mpr (not_or.mpr ⟨hc, hplain⟩)
    have hrest := ih hcs (fun htag => h (htag.cons c)) (position + 1) (c :: plain) hnext
    rw [markupPartsFrom, if_pos rfl, hnone]
    simpa using hrest

theorem reversed_of_close {r r' : Rendering} {t : OpenTag} (h : r.close t = .ok r') :
    r'.reversed = r.reversed := by
  rw [Rendering.close] at h
  simp only at h
  split at h
  · split at h
    · cases h
      rfl
    · cases h
      rfl
    · split at h
      · cases h
      · cases h
        rfl
  · cases h
    rfl

theorem reversed_of_closeLast {r r' : Rendering} {position : Nat}
    (h : r.closeLast position = .ok r') : r'.reversed = r.reversed := by
  rw [Rendering.closeLast] at h
  split at h
  · exact reversed_of_close h
  · cases h

theorem reversed_of_closeNamed {r r' : Rendering} {position : Nat} {name : List Char}
    {parameters : Option (List Char)} (h : r.closeNamed position name parameters = .ok r') :
    r'.reversed = r.reversed := by
  unfold Rendering.closeNamed at h
  rcases hstyle : styleName (Text.trim name) with e | style
  · rw [hstyle] at h
    cases h
  · rw [hstyle] at h
    simp only [bind, Except.bind] at h
    split at h
    · exact reversed_of_close h
    · cases h

theorem reversed_of_openTag {r r' : Rendering} {name : List Char}
    {parameters : Option (List Char)} (h : r.openTag name parameters = .ok r') :
    r'.reversed = r.reversed := by
  rw [Rendering.openTag] at h
  rcases hstyle : styleName name with e | style
  · rw [hstyle] at h
    cases h
  · rw [hstyle] at h
    cases h
    rfl

/-- Tags are not in the text that is put together. -/
theorem reversed_of_step {r r' : Rendering} {part : MarkupPart} (h : r.step part = .ok r') :
    r'.reversed = (shown (String.ofList (plainsOf [part]))).reverse ++ r.reversed := by
  have hnothing : ∀ position name parameters,
      (shown (String.ofList (plainsOf [.tag position name parameters]))).reverse = [] :=
    fun _ _ _ => rfl
  rw [Rendering.step.eq_def] at h
  split at h
  · rename_i cs
    cases h
    have hplain : plainsOf [.plain cs] = cs := List.append_nil cs
    rw [hplain]
    rfl
  · rw [hnothing, List.nil_append]
    split at h
    · exact reversed_of_closeLast h
    · exact reversed_of_closeNamed h
  · rw [hnothing, List.nil_append]
    exact reversed_of_openTag h

theorem reversed_of_foldlM {r r' : Rendering} {parts : List MarkupPart}
    (h : parts.foldlM Rendering.step r = .ok r') :
    r'.reversed = (shown (String.ofList (plainsOf parts))).reverse ++ r.reversed := by
  induction parts generalizing r with
  | nil =>
    cases h
    rfl
  | cons part parts ih =>
    rw [List.foldlM_cons] at h
    rcases hstep : r.step part with e | r₁
    · rw [hstep] at h
      cases h
    · rw [hstep] at h
      have hone := reversed_of_step hstep
      have hshown : ∀ cs, shown (String.ofList cs) = cs.filter fun c => !isDropped c := fun cs => by
        rw [shown, String.toList_ofList]
      rw [ih h, hone, hshown, hshown, hshown]
      simp [plainsOf]

/-- What is left of a marked-up text. -/
theorem toList_of_plainText {s t : String} (h : plainText s = .ok t) :
    t.toList = (plainsOf (markupParts s.toList)).filter fun c => !isDropped c := by
  rw [plainText] at h
  rcases hfold : (markupParts s.toList).foldlM Rendering.step {} with e | r
  · rw [hfold] at h
    cases h
  · rw [hfold] at h
    simp only [bind, Except.bind] at h
    split at h
    · cases h
    · cases h
      rw [String.toList_ofList, reversed_of_foldlM hfold]
      simp [shown]

/-- A text without tags and backslashes is shown as it is. -/
theorem plainText_of_not_tagged {s : String} (hslash : '\x5c' ∉ s.toList)
    (h : ¬Tagged s.toList) : plainText s = .ok (String.ofList (shown s)) := by
  rw [plainText, markupParts_of_not_tagged hslash h]
  simp [Rendering.step, Rendering.append, Rendering.covered, Pure.pure, Except.pure, Bind.bind,
    Except.bind]

/-! ### Headers -/

/-- A character that is printed as it is. -/
def Printed (c : Char) : Prop := c ≠ '\t' ∧ isDropped c = false

theorem shown_eq_self {s : String} (h : ∀ c ∈ s.toList, Printed c) : shown s = s.toList :=
  List.filter_eq_self.mpr fun c hc => by simp [(h c hc).2]

theorem printedLine_none_eq (h : ∀ c ∈ cs, c ≠ '\t') : printedLine none cs = cs ++ ['\n'] := by
  have hpieces : Text.pieces (· = '\t') cs = [cs] :=
    Text.pieces_of_forall_not fun c hc => decide_eq_false (h c hc)
  have hflat : [cs].flatMap (wrapIf none) = cs := List.append_nil cs
  rw [printedLine, linePieces, hpieces, fillTabs, hflat]

/-- Lines with a newline behind each are the text with one behind it. -/
theorem flatMap_pieces_newline (cs : List Char) :
    (Text.pieces (· = '\n') cs).flatMap (· ++ ['\n']) = cs ++ ['\n'] := by
  induction cs with
  | nil => rfl
  | cons c cs ih =>
    by_cases hc : c = '\n'
    · rw [Text.pieces, if_pos (by simpa using hc), List.flatMap_cons, ih, hc]
      rfl
    · rw [Text.pieces_cons_of_not (by simpa using hc)]
      obtain ⟨w, ws, hpieces⟩ :=
        List.exists_cons_of_ne_nil (Text.pieces_ne_nil (fun d => decide (d = '\n')) cs)
      rw [hpieces] at ih ⊢
      simpa [Text.onFirstLine] using ih

/-- A text is printed as it is, and its last line is ended. -/
theorem message_none_eq {s : String} (h : ∀ c ∈ s.toList, Printed c) :
    message none s = s ++ "\n" := by
  have hlines : ∀ line ∈ Text.pieces (· = '\n') s.toList,
      printedLine none line = line ++ ['\n'] := fun line hline =>
    printedLine_none_eq (Text.forall_mem_pieces (fun c hc => (h c hc).1) line hline)
  rw [message, shown_eq_self h, List.flatMap_congr hlines, flatMap_pieces_newline,
    ← String.toList_inj]
  simp

theorem Clean.not_mem_backslash (h : Clean title) : '\x5c' ∉ title.toList :=
  fun hc => (h _ hc).2 rfl

theorem Clean.printed (h : Clean title) : ∀ c ∈ title.toList, Printed c := by
  intro c hc
  have hcode := (h c hc).1
  refine ⟨?_, ?_⟩
  · rintro rfl
    exact absurd hcode (by decide)
  · rw [isDropped, ← Bool.not_eq_true, List.contains_iff_mem]
    simp only [List.mem_cons, List.not_mem_nil, or_false]
    omega

/-- The line of a header, before it is read. -/
def headerLine (title : String) : String := "\n--- " ++ title ++ " ---"

theorem Clean.headerLine (h : Clean title) :
    '\x5c' ∉ (headerLine title).toList ∧ ∀ c ∈ (headerLine title).toList, Printed c := by
  have hfront : '\x5c' ∉ "\n--- ".toList ∧ ∀ c ∈ "\n--- ".toList, Printed c := by
    simp [Printed, isDropped]
  have hback : '\x5c' ∉ " ---".toList ∧ ∀ c ∈ " ---".toList, Printed c := by
    simp [Printed, isDropped]
  simp only [Console.headerLine, String.toList_append, List.mem_append, not_or, or_imp,
    forall_and]
  exact ⟨⟨⟨hfront.1, h.not_mem_backslash⟩, hback.1⟩, ⟨hfront.2, h.printed⟩, hback.2⟩

theorem tagged_headerLine_iff (title : String) :
    Tagged (headerLine title).toList ↔ Tagged title.toList := by
  rw [headerLine, String.toList_append, String.toList_append,
    tagged_append_iff_left (by decide), tagged_append_iff_right (by decide)]

theorem literalHeader_eq (title : String) : literalHeader title = headerLine title ++ "\n" := by
  have hend : " ---\n" = " ---" ++ "\n" := rfl
  rw [literalHeader, headerLine, hend, ← String.append_assoc]

/-- **A header shows its title as it is** exactly if the title is not tagged. -/
theorem sectionHeader_eq_literal_iff (h : Clean title) :
    sectionHeader false title = .ok (literalHeader title) ↔ ¬Tagged title.toList := by
  obtain ⟨hslash, hprinted⟩ := h.headerLine
  have hheader : sectionHeader false title =
      (plainText (headerLine title)).map (message none) := by
    rw [sectionHeader, headerLine]
    rcases plainText ("\n--- " ++ title ++ " ---") with e | t <;> rfl
  rw [hheader, literalHeader_eq, ← tagged_headerLine_iff]
  constructor
  · intro hliteral htag
    rcases htext : plainText (headerLine title) with e | t
    · rw [htext] at hliteral
      cases hliteral
    · rw [htext] at hliteral
      -- what is left of the line is part of it, so it is printed as it is, but it is too short
      have hleft := toList_of_plainText htext
      obtain ⟨hsub, hless⟩ :=
        @plainsOf_markupPartsFrom (headerLine title).toList 0 0 [] List.not_mem_nil hslash
      have hpart : t.toList.Sublist (headerLine title).toList :=
        hleft ▸ List.filter_sublist.trans hsub
      have hshort : t.toList.length < (headerLine title).toList.length :=
        Nat.lt_of_le_of_lt (hleft ▸ List.length_filter_le _ _) (hless rfl htag)
      have hsame : t ++ "\n" = headerLine title ++ "\n" := by
        rw [← message_none_eq fun c hc => hprinted c (hpart.subset hc)]
        exact Except.ok.inj hliteral
      have hlist : t.toList = (headerLine title).toList := by
        simpa using congrArg String.toList hsame
      rw [hlist] at hshort
      exact absurd hshort (Nat.lt_irrefl _)
  · intro htag
    have htext : plainText (headerLine title) = .ok (headerLine title) := by
      rw [plainText_of_not_tagged hslash htag, shown_eq_self hprinted, String.ofList_toList]
    rw [htext, Except.map, message_none_eq hprinted]

end OptIn.Console
