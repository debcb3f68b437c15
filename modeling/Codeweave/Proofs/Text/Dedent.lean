import Codeweave.Proofs.Text.Restyling
import Codeweave.Proofs.Text.Rows

/-!
What a dedent takes away from texts in another style. A margin put before all lines is part of the
margin that they share, so it goes away with it. A carriage return at the end of a row that is else
blank makes the row count: it is no longer emptied, and the margin is no longer than it.
-/

namespace Codeweave.Text

/-- Rows without their shared margin, blank ones emptied. -/
def dedentRows (rs : List (List Char)) : List (List Char) :=
  (rs.map clearBlank).map (dropMargin ((sharedMargin (rs.map clearBlank)).getD []))

/-- The rows that are blank hold the margin that the others share and no more. If there are no
others, all blank rows are the same. -/
def BlanksAtMargin (rs : List (List Char)) : Prop :=
  ∀ b ∈ rs, b.all isIndent = true →
    (∀ m ∈ sharedMargin rs, b = m) ∧ ∀ c ∈ rs, c.all isIndent = true → c = b

instance (rs : List (List Char)) : Decidable (BlanksAtMargin rs) :=
  inferInstanceAs (Decidable (∀ b ∈ rs, b.all isIndent = true →
    (∀ m ∈ sharedMargin rs, b = m) ∧ ∀ c ∈ rs, c.all isIndent = true → c = b))

theorem not_boundary_of_isIndent {c : Char} (h : isIndent c = true) : isBoundary c = false := by
  simp only [isIndent, Bool.or_eq_true, beq_iff_eq] at h
  rcases h with rfl | rfl <;> decide

theorem isBlank_of_isIndent {c : Char} (h : isIndent c = true) : isBlank c = true := by
  simp only [isIndent, Bool.or_eq_true, beq_iff_eq] at h
  rcases h with rfl | rfl <;> decide

/-! ### Rows -/

@[simp] theorem clearBlank_nil : clearBlank [] = [] := rfl

@[simp] theorem dropMargin_nil (m : List Char) : dropMargin m [] = [] := by
  cases m <;> rfl

theorem sharedMargin_concat_nil (rs : List (List Char)) :
    sharedMargin (rs ++ [[]]) = sharedMargin rs := by
  simp [sharedMargin]

theorem dedent_terminated {rs : List (List Char)} (h : ∀ r ∈ rs, '\n' ∉ r) :
    dedent (terminated rs) = terminated (dedentRows rs) := by
  rw [dedent, rows_terminated h]
  simp only [List.map_append, List.map_cons, List.map_nil, clearBlank_nil, dropMargin_nil,
    sharedMargin_concat_nil]
  exact unrows_concat_nil _

/-! ### Margins -/

theorem isPrefix_commonLead_iff {m a b : List Char} :
    m <+: commonLead a b ↔ m <+: a ∧ m <+: b := by
  induction a generalizing m b with
  | nil =>
      rw [commonLead.eq_def]
      simp only [List.prefix_nil]
      constructor
      · rintro rfl
        exact ⟨rfl, List.nil_prefix⟩
      · exact And.left
  | cons x a ih =>
      cases b with
      | nil =>
          simp only [commonLead, List.prefix_nil, iff_and_self]
          rintro rfl
          exact List.nil_prefix
      | cons y b =>
          cases m with
          | nil => simp
          | cons z m =>
              by_cases hxy : x = y
              · subst hxy
                simp only [commonLead, beq_self_eq_true, if_true, List.cons_prefix_cons, ih]
                tauto
              · simp only [commonLead, beq_iff_eq, hxy, if_false, List.prefix_nil,
                  List.cons_prefix_cons, reduceCtorEq, false_iff]
                rintro ⟨⟨rfl, -⟩, rfl, -⟩
                exact hxy rfl

theorem commonLead_append (m a b : List Char) :
    commonLead (m ++ a) (m ++ b) = m ++ commonLead a b := by
  induction m with
  | nil => rfl
  | cons c m ih => simp [commonLead, ih]

/-- The indentation of the rows that count. -/
def leads (rs : List (List Char)) : List (List Char) :=
  (rs.filter fun row => !row.all isIndent).map (List.takeWhile isIndent)

/-- The margin of some leads, given that of the leads before them. -/
def marginFrom : Option (List Char) → List (List Char) → Option (List Char) :=
  List.foldl fun acc lead => some (match acc with
    | none => lead
    | some m => commonLead m lead)

theorem sharedMargin_eq (rs : List (List Char)) :
    sharedMargin rs = marginFrom none (leads rs) := by
  rw [marginFrom, leads, List.foldl_map]
  rfl

theorem marginFrom_some (m : List Char) (ls : List (List Char)) :
    ∃ n, marginFrom (some m) ls = some n ∧ ∀ p, p <+: n ↔ p <+: m ∧ ∀ l ∈ ls, p <+: l := by
  induction ls generalizing m with
  | nil => exact ⟨m, rfl, by simp⟩
  | cons l ls ih =>
      obtain ⟨n, hn, hp⟩ := ih (commonLead m l)
      refine ⟨n, hn, ?_⟩
      intro p
      rw [hp, isPrefix_commonLead_iff, List.forall_mem_cons, and_assoc]

/-- A text is part of the shared margin exactly when all rows that count are indented by it. -/
theorem sharedMargin_cases (rs : List (List Char)) :
    (sharedMargin rs = none ∧ leads rs = []) ∨
      ∃ m, sharedMargin rs = some m ∧ leads rs ≠ [] ∧
        ∀ p, p <+: m ↔ ∀ l ∈ leads rs, p <+: l := by
  rw [sharedMargin_eq]
  cases leads rs with
  | nil => exact Or.inl ⟨rfl, rfl⟩
  | cons l ls =>
      obtain ⟨m, hm, hp⟩ := marginFrom_some l ls
      refine Or.inr ⟨m, hm, by simp, ?_⟩
      intro p
      rw [hp, List.forall_mem_cons]

/-! ### Behind another margin -/

theorem all_isIndent_behind {m : List Char} (hm : ∀ c ∈ m, isIndent c = true) (row : List Char) :
    (behind m row).all isIndent = row.all isIndent := by
  rw [behind]
  split
  · rename_i hempty
    rw [List.isEmpty_iff.mp hempty]
  · rw [List.all_append, List.all_eq_true.mpr hm, Bool.true_and]

theorem leads_behind {m : List Char} (hm : ∀ c ∈ m, isIndent c = true) (rs : List (List Char)) :
    leads (rs.map (behind m)) = (leads rs).map (m ++ ·) := by
  rw [leads, leads, List.filter_map, List.map_map, List.map_map]
  have hfilter : ((fun row => !row.all isIndent) ∘ behind m) =
      fun row : List Char => !row.all isIndent := by
    funext row
    rw [Function.comp_apply, all_isIndent_behind hm]
  rw [hfilter]
  refine List.map_congr_left fun row hrow => ?_
  have hne : row ≠ [] := by
    rintro rfl
    simp at hrow
  rw [Function.comp_apply, behind_of_ne_nil hne, List.takeWhile_append_of_pos hm]
  rfl

theorem marginFrom_append (m : List Char) (acc : Option (List Char)) (ls : List (List Char)) :
    marginFrom (acc.map (m ++ ·)) (ls.map (m ++ ·)) = (marginFrom acc ls).map (m ++ ·) := by
  induction ls generalizing acc with
  | nil => rfl
  | cons l ls ih =>
      have hstep := ih (some (match acc with
        | none => l
        | some n => commonLead n l))
      cases acc with
      | none => exact hstep
      | some n =>
          rw [Option.map_some, ← commonLead_append] at hstep
          exact hstep

theorem sharedMargin_behind {m : List Char} (hm : ∀ c ∈ m, isIndent c = true)
    (rs : List (List Char)) :
    sharedMargin (rs.map (behind m)) = (sharedMargin rs).map (m ++ ·) := by
  rw [sharedMargin_eq, sharedMargin_eq, leads_behind hm, ← marginFrom_append]
  rfl

theorem dropMargin_of_prefix {m row : List Char} (h : m <+: row) :
    dropMargin m row = row.drop m.length := by
  rw [dropMargin, if_pos (List.isPrefixOf_iff_prefix.mpr h)]

theorem mem_leads {rs : List (List Char)} {row : List Char} (hrow : row ∈ rs)
    (h : row.all isIndent = false) : row.takeWhile isIndent ∈ leads rs :=
  List.mem_map_of_mem (List.mem_filter.mpr ⟨hrow, by simp [h]⟩)

theorem exists_sharedMargin {rs : List (List Char)} {row : List Char} (hrow : row ∈ rs)
    (h : row.all isIndent = false) :
    ∃ m, sharedMargin rs = some m ∧ ∀ p, p <+: m ↔ ∀ l ∈ leads rs, p <+: l := by
  rcases sharedMargin_cases rs with ⟨-, hnil⟩ | ⟨m, hm, -, hbefore⟩
  · have hmem := mem_leads hrow h
    rw [hnil] at hmem
    simp at hmem
  · exact ⟨m, hm, hbefore⟩

theorem exists_of_sharedMargin {rs : List (List Char)} {m : List Char}
    (hm : sharedMargin rs = some m) : ∃ row ∈ rs, row.all isIndent = false := by
  rcases sharedMargin_cases rs with ⟨hnone, -⟩ | ⟨-, -, hne, -⟩
  · rw [hnone] at hm
    simp at hm
  · obtain ⟨lead, hlead⟩ := List.exists_mem_of_ne_nil _ hne
    obtain ⟨row, hrow, -⟩ := List.mem_map.mp hlead
    obtain ⟨hmem, hcounts⟩ := List.mem_filter.mp hrow
    exact ⟨row, hmem, by simpa using hcounts⟩

theorem prefix_of_sharedMargin {rs : List (List Char)} {m row : List Char}
    (hm : sharedMargin rs = some m) (hrow : row ∈ rs) (h : row.all isIndent = false) :
    m <+: row.takeWhile isIndent := by
  obtain ⟨n, hn, hbefore⟩ := exists_sharedMargin hrow h
  obtain rfl : n = m := Option.some.inj (hn.symm.trans hm)
  exact (hbefore n).mp List.prefix_rfl _ (mem_leads hrow h)

theorem all_isIndent_of_sharedMargin {rs : List (List Char)} (h : sharedMargin rs = none) :
    ∀ row ∈ rs, row.all isIndent = true := by
  intro row hrow
  by_contra hcounts
  obtain ⟨m, hm, -⟩ := exists_sharedMargin hrow (Bool.eq_false_iff.mpr hcounts)
  rw [h] at hm
  simp at hm

theorem clearBlank_of_all {row : List Char} (h : row.all isIndent = true) :
    clearBlank row = [] := by
  rw [clearBlank, if_pos h]

theorem clearBlank_of_not_all {row : List Char} (h : row.all isIndent = false) :
    clearBlank row = row := by
  rw [clearBlank, if_neg (by simp [h])]

theorem leads_clearBlank (rs : List (List Char)) : leads (rs.map clearBlank) = leads rs := by
  induction rs with
  | nil => rfl
  | cons row rs ih =>
      rw [leads, leads] at ih ⊢
      cases h : row.all isIndent with
      | true => simpa [clearBlank_of_all h, h] using ih
      | false => simpa [clearBlank_of_not_all h, h] using ih

theorem sharedMargin_clearBlank (rs : List (List Char)) :
    sharedMargin (rs.map clearBlank) = sharedMargin rs := by
  rw [sharedMargin_eq, leads_clearBlank, ← sharedMargin_eq]

/-- What a dedent leaves of one row, given the margin of all. -/
def dedentRow (margin row : List Char) : List Char :=
  if row.all isIndent then [] else row.drop margin.length

theorem dedentRows_eq (rs : List (List Char)) :
    dedentRows rs = rs.map (dedentRow ((sharedMargin rs).getD [])) := by
  rw [dedentRows, sharedMargin_clearBlank, List.map_map]
  refine List.map_congr_left fun row hrow => ?_
  rw [Function.comp_apply, dedentRow]
  cases h : row.all isIndent with
  | true => rw [clearBlank_of_all h, dropMargin_nil, if_pos rfl]
  | false =>
      rw [clearBlank_of_not_all h, if_neg (by simp)]
      cases hm : sharedMargin rs with
      | none =>
          rw [all_isIndent_of_sharedMargin hm row hrow] at h
          simp at h
      | some m =>
          exact dropMargin_of_prefix
            ((prefix_of_sharedMargin hm hrow h).trans (List.takeWhile_prefix _))

theorem dedentRow_behind {m : List Char} (hm : ∀ c ∈ m, isIndent c = true) (n row : List Char) :
    dedentRow (m ++ n) (behind m row) = dedentRow n row := by
  rw [dedentRow, all_isIndent_behind hm, dedentRow]
  split
  · rfl
  · rename_i hblank
    have hne : row ≠ [] := by
      rintro rfl
      simp at hblank
    rw [behind_of_ne_nil hne, List.length_append, ← List.drop_drop, List.drop_left]

/-- A margin before all rows goes away with the margin that they share. -/
theorem dedentRows_behind {m : List Char} (hm : ∀ c ∈ m, isIndent c = true)
    (rs : List (List Char)) : dedentRows (rs.map (behind m)) = dedentRows rs := by
  rw [dedentRows_eq, dedentRows_eq, sharedMargin_behind hm, List.map_map]
  refine List.map_congr_left fun row hrow => ?_
  rw [Function.comp_apply]
  cases hn : sharedMargin rs with
  | none =>
      have hblank := all_isIndent_of_sharedMargin hn row hrow
      rw [dedentRow, all_isIndent_behind hm, dedentRow, if_pos hblank, if_pos hblank]
  | some n => exact dedentRow_behind hm n row

/-! ### Before carriage returns -/

theorem all_isIndent_return (row : List Char) : (row ++ ['\r']).all isIndent = false := by
  simp [isIndent]

theorem leads_return (rs : List (List Char)) :
    leads (rs.map (· ++ ['\r'])) = rs.map (List.takeWhile isIndent) := by
  have hall : ∀ row ∈ rs.map (· ++ ['\r']), (!row.all isIndent) = true := by
    intro row hrow
    obtain ⟨r, -, rfl⟩ := List.mem_map.mp hrow
    rw [all_isIndent_return]
    rfl
  rw [leads, List.filter_eq_self.mpr hall, List.map_map]
  refine List.map_congr_left fun row _ => ?_
  rw [Function.comp_apply, List.takeWhile_append]
  split
  · rename_i hlength
    rw [(List.takeWhile_prefix isIndent).eq_of_length hlength]
    simp [isIndent]
  · rfl

theorem dedentRow_return {n row : List Char} (h : n <+: row) :
    dedentRow n (row ++ ['\r']) = row.drop n.length ++ ['\r'] := by
  rw [dedentRow, all_isIndent_return, if_neg (by simp), List.drop_append_of_le_length h.length_le]

theorem sharedMargin_return {rs : List (List Char)} (h : rs ≠ []) :
    ∃ n, sharedMargin (rs.map (· ++ ['\r'])) = some n ∧
      ∀ p, p <+: n ↔ ∀ row ∈ rs, p <+: row.takeWhile isIndent := by
  rcases sharedMargin_cases (rs.map (· ++ ['\r'])) with ⟨-, hnil⟩ | ⟨n, hn, -, hbefore⟩
  · rw [leads_return, List.map_eq_nil_iff] at hnil
    exact absurd hnil h
  · simp only [leads_return, List.forall_mem_map] at hbefore
    exact ⟨n, hn, hbefore⟩

theorem isPrefix_takeWhile_of_mem_leads {rs : List (List Char)} {p : List Char}
    (h : ∀ row ∈ rs, p <+: row.takeWhile isIndent) : ∀ lead ∈ leads rs, p <+: lead := by
  intro lead hlead
  obtain ⟨row, hrow, rfl⟩ := List.mem_map.mp hlead
  exact h row (List.mem_of_mem_filter hrow)

theorem takeWhile_of_all {row : List Char} (h : row.all isIndent = true) :
    row.takeWhile isIndent = row :=
  List.takeWhile_eq_self_iff.mpr (List.all_eq_true.mp h)

theorem drop_inj {m n row : List Char} (hm : m <+: row) (hn : n <+: row)
    (h : row.drop m.length = row.drop n.length) : m = n := by
  have hlength := congrArg List.length h
  rw [List.length_drop, List.length_drop] at hlength
  have hle := hm.length_le
  have hle' := hn.length_le
  exact (List.prefix_of_prefix_length_le hm hn (by omega)).eq_of_length (by omega)

section

variable {rs : List (List Char)} {n : List Char}
  (hbefore : ∀ p, p <+: n ↔ ∀ row ∈ rs, p <+: row.takeWhile isIndent)

include hbefore

theorem blanksAtMargin_of_drop_eq
    (h : ∀ row ∈ rs, row.drop n.length = dedentRow ((sharedMargin rs).getD []) row) :
    BlanksAtMargin rs := by
  have hlead : ∀ row ∈ rs, n <+: row := fun row hrow =>
    ((hbefore n).mp List.prefix_rfl row hrow).trans (List.takeWhile_prefix _)
  have hblank : ∀ b ∈ rs, b.all isIndent = true → b = n := by
    intro b hb hall
    have hdrop := h b hb
    rw [dedentRow, if_pos hall, List.drop_eq_nil_iff] at hdrop
    exact ((hlead b hb).eq_of_length_le hdrop).symm
  intro b hb hall
  refine ⟨?_, fun c hc hc' => by rw [hblank c hc hc', hblank b hb hall]⟩
  intro m hm
  rw [Option.mem_def] at hm
  -- a row that counts loses the same in front with either margin
  obtain ⟨row, hrow, hcounts⟩ := exists_of_sharedMargin hm
  have hdrop := h row hrow
  rw [hm, dedentRow, if_neg (by simp [hcounts]), Option.getD_some] at hdrop
  rw [hblank b hb hall]
  exact drop_inj (hlead row hrow)
    ((prefix_of_sharedMargin hm hrow hcounts).trans (List.takeWhile_prefix _)) hdrop

theorem drop_eq_of_blanksAtMargin (h : BlanksAtMargin rs) :
    ∀ row ∈ rs, row.drop n.length = dedentRow ((sharedMargin rs).getD []) row := by
  intro row hrow
  rw [dedentRow]
  cases hall : row.all isIndent with
  | true =>
      obtain ⟨hmargin, hblank⟩ := h row hrow hall
      rw [if_pos rfl, List.drop_eq_nil_iff]
      refine List.IsPrefix.length_le ((hbefore row).mpr fun c hc => ?_)
      cases hc' : c.all isIndent with
      | true =>
          have hrow : c.takeWhile isIndent = row :=
            (takeWhile_of_all hc').trans (hblank c hc hc')
          exact hrow ▸ List.prefix_rfl
      | false =>
          obtain ⟨m, hm, -⟩ := exists_sharedMargin hc hc'
          rw [hmargin m hm]
          exact prefix_of_sharedMargin hm hc hc'
  | false =>
      obtain ⟨m, hm, hleads⟩ := exists_sharedMargin hrow hall
      have hnm : n <+: m :=
        (hleads n).mpr (isPrefix_takeWhile_of_mem_leads ((hbefore n).mp List.prefix_rfl))
      have hmn : m <+: n := by
        refine (hbefore m).mpr fun c hc => ?_
        cases hc' : c.all isIndent with
        | true =>
            have hmargin : c.takeWhile isIndent = m :=
              (takeWhile_of_all hc').trans ((h c hc hc').1 m hm)
            exact hmargin ▸ List.prefix_rfl
        | false => exact prefix_of_sharedMargin hm hc hc'
      rw [if_neg (by simp), hm, Option.getD_some, hnm.eq_of_length_le hmn.length_le]

end

/-- Rows before carriage returns lose the same as without exactly when every blank row is the margin
of the others. -/
theorem dedentRows_return_iff (rs : List (List Char)) :
    dedentRows (rs.map (· ++ ['\r'])) = (dedentRows rs).map (· ++ ['\r']) ↔
      BlanksAtMargin rs := by
  rcases List.eq_nil_or_concat' rs with rfl | ⟨before, last, hrs⟩
  · simp [dedentRows_eq, BlanksAtMargin]
  have hne : rs ≠ [] := by simp [hrs]
  obtain ⟨n, hn, hbefore⟩ := sharedMargin_return hne
  have hrow : ∀ row ∈ rs, dedentRow n (row ++ ['\r']) = row.drop n.length ++ ['\r'] :=
    fun row hrow => dedentRow_return
      (((hbefore n).mp List.prefix_rfl row hrow).trans (List.takeWhile_prefix _))
  rw [dedentRows_eq, dedentRows_eq, hn, Option.getD_some, List.map_map, List.map_map,
    List.map_inj_left]
  constructor
  · intro h
    refine blanksAtMargin_of_drop_eq hbefore fun row hmem => ?_
    have hsame := h row hmem
    rw [Function.comp_apply, Function.comp_apply, hrow row hmem] at hsame
    exact List.append_cancel_right hsame
  · intro h row hmem
    rw [Function.comp_apply, Function.comp_apply, hrow row hmem,
      drop_eq_of_blanksAtMargin hbefore h row hmem]

/-! ### Texts of whole rows -/

/-- The text has no line boundaries but newlines, and it ends in one unless it is empty. -/
def WholeRows (text : List Char) : Prop :=
  ∃ rs, (∀ r ∈ rs, ∀ c ∈ r, isBoundary c = false) ∧ text = terminated rs

theorem newline_not_mem {row : List Char} (h : ∀ c ∈ row, isBoundary c = false) : '\n' ∉ row := by
  intro hmem
  exact absurd (h '\n' hmem) (by decide)

/-- Lines that another one follows make up whole rows. -/
theorem wholeRows_flatten {ls : List (List Char)} {after : List Char}
    (hlined : Lined (ls ++ [after])) (h : ∀ l ∈ ls, NewlineOnly l) : WholeRows ls.flatten := by
  induction ls with
  | nil => exact ⟨[], by simp, rfl⟩
  | cons l ls ih =>
      obtain ⟨hline, hrest, hbreak⟩ := lined_cons_iff.mp hlined
      rw [List.forall_mem_cons] at h
      have hne : (ls ++ [after]).flatten ≠ [] := by
        simp [(hrest.isLine after (by simp)).ne_nil]
      obtain ⟨row, hrow, rfl⟩ := hline.exists_row h.1 hbreak hne
      obtain ⟨rs, hrs, hflatten⟩ := ih hrest h.2
      refine ⟨row :: rs, List.forall_mem_cons.mpr ⟨hrow, hrs⟩, ?_⟩
      rw [List.flatten_cons, hflatten, terminated, terminated, List.flatMap_cons]

theorem WholeRows.newlineOnly {text : List Char} (h : WholeRows text) : NewlineOnly text := by
  obtain ⟨rs, hrs, rfl⟩ := h
  rw [terminated, List.flatMap, newlineOnly_flatten_iff, List.forall_mem_map]
  intro r hr
  exact (newlineOnly_of_not_boundary (hrs r hr)).append (by simp [NewlineOnly])

theorem exists_mem_of_mem_dedentRows {rs : List (List Char)} {r : List Char} {c : Char}
    (hr : r ∈ dedentRows rs) (hc : c ∈ r) : ∃ row ∈ rs, c ∈ row := by
  rw [dedentRows_eq] at hr
  obtain ⟨row, hrow, rfl⟩ := List.mem_map.mp hr
  rw [dedentRow] at hc
  split at hc
  · simp at hc
  · exact ⟨row, hrow, List.mem_of_mem_drop hc⟩

section

variable {rs : List (List Char)} (h : ∀ r ∈ rs, ∀ c ∈ r, isBoundary c = false)

include h

theorem lines_terminated : lines (terminated rs) = rs.map (· ++ ['\n']) := by
  induction rs with
  | nil => exact lines_nil
  | cons r rs ih =>
      rw [List.forall_mem_cons] at h
      have hline : lines (r ++ ['\n']) = [r ++ ['\n']] :=
        isLine_append_terminator h.1 (Or.inr ⟨'\n', rfl, rfl⟩)
      rw [terminated, List.flatMap_cons, lines_append (breaks_of_newline (by simp) _), hline,
        ← terminated, ih h.2]
      rfl

theorem bodies_terminated : bodies (terminated rs) = rs := by
  rw [bodies, lines_terminated h, List.map_map]
  conv_rhs => rw [← List.map_id rs]
  exact List.map_congr_left fun r hr => body_append_newline (h r hr)

theorem indented_terminated (margin : List Char) :
    indented margin (terminated rs) = terminated (rs.map (behind margin)) := by
  rw [indented, lines_terminated h, List.flatMap_map, terminated, List.flatMap_map]
  refine List.flatMap_congr fun r hr => ?_
  rw [body_append_newline (h r hr), behind]
  split
  · rename_i hempty
    rw [List.isEmpty_iff.mp hempty]
  · rw [List.append_assoc]

theorem withReturns_terminated :
    withReturns (terminated rs) = terminated (rs.map (· ++ ['\r'])) := by
  rw [terminated, List.flatMap, withReturns_flatten, List.flatMap_map, terminated,
    List.flatMap_map]
  refine List.flatMap_congr fun r hr => ?_
  rw [withReturns_append, withReturns_eq_self (h r hr), List.append_assoc]
  rfl

end

/-- A dedent does not see a margin before all lines. -/
theorem dedent_indented {margin text : List Char} (hmargin : ∀ c ∈ margin, isIndent c = true)
    (htext : WholeRows text) : dedent (indented margin text) = dedent text := by
  obtain ⟨rs, hrs, rfl⟩ := htext
  have hbehind : ∀ r ∈ rs.map (behind margin), '\n' ∉ r := by
    rw [List.forall_mem_map]
    intro r hr
    exact newline_not_mem (not_boundary_of_mem_behind
      (fun c hc => not_boundary_of_isIndent (hmargin c hc)) (hrs r hr))
  rw [indented_terminated hrs, dedent_terminated hbehind, dedentRows_behind hmargin,
    dedent_terminated fun r hr => newline_not_mem (hrs r hr)]

/-- A dedent does not see carriage returns before newlines, unless a blank row is not the margin of
the others. -/
theorem dedent_withReturns_iff {text : List Char} (htext : WholeRows text) :
    dedent (withReturns text) = withReturns (dedent text) ↔ BlanksAtMargin (bodies text) := by
  obtain ⟨rs, hrs, rfl⟩ := htext
  have hdedent : ∀ r ∈ dedentRows rs, ∀ c ∈ r, isBoundary c = false := by
    intro r hr c hc
    obtain ⟨row, hrow, hmem⟩ := exists_mem_of_mem_dedentRows hr hc
    exact hrs row hrow c hmem
  have hreturn : ∀ r ∈ rs.map (· ++ ['\r']), '\n' ∉ r := by
    rw [List.forall_mem_map]
    intro r hr
    simpa using newline_not_mem (hrs r hr)
  rw [withReturns_terminated hrs, dedent_terminated hreturn,
    dedent_terminated fun r hr => newline_not_mem (hrs r hr), withReturns_terminated hdedent,
    bodies_terminated hrs, ← dedentRows_return_iff]
  refine ⟨terminated_injective ?_ ?_, congrArg terminated⟩
  · intro r hr hmem
    obtain ⟨row, hrow, hmem⟩ := exists_mem_of_mem_dedentRows hr hmem
    exact hreturn row hrow hmem
  · rw [List.forall_mem_map]
    intro r hr
    simpa using newline_not_mem (hdedent r hr)

end Codeweave.Text
