import Codeweave.Proofs.Directive.Splice

/-!
The outline of a regenerated source. Each directive is renewed by itself: its closer gets its
number, its region the generated text, and new sentinels stand around a region that is new. A
region that starts with a newline right behind a lone carriage return gives that newline to its
sentinel. A directive is up to date when renewing it changes nothing.
-/

namespace Codeweave.Directive

open Text (Lined)

def Region.renewed (r : Region) (text : List Char) : Region :=
  if r.first.getLast? = some '\r' ∧ text.head? = some '\n' then
    { r with first := r.first ++ ['\n'], body := Text.lines text.tail }
  else { r with body := Text.lines text }

def newRegion (margin newline artifact : List Char) : Region :=
  { first := margin ++ beginSentinel ++ newline
    body := Text.lines (regionText margin newline artifact)
    last := margin ++ endSentinel ++ newline }

/-- Does the directive get sentinels? -/
def Written.framed (w : Written) (artifact : Option (List Char)) : Bool :=
  artifact.isSome && w.region.isNone

/-- The region of a directive for which a text was generated. -/
def Written.regionWith (newline : List Char) (w : Written) (artifact : List Char) : Region :=
  match w.region with
  | some r => r.renewed (regionText (Text.margin w.opener) newline artifact)
  | none => newRegion (Text.margin w.opener) newline artifact

/-- The directive after regeneration. -/
def Written.renewed (config : Config) (newline : List Char) (w : Written)
    (artifact : Option (List Char)) : Written :=
  { w with
    closer := edited (w.closerPieces config) ++ if w.framed artifact then w.gap newline else []
    count := if config.updateCounts then some w.lineCount else w.count
    region :=
      match artifact with
      | none => w.region
      | some artifact => some (w.regionWith newline artifact) }

/-- The outline after regeneration, given the generated text of each directive in turn. -/
def renew (config : Config) (newline : List Char) :
    List Passage → List (Option (List Char)) → List Passage
  | [], _ => []
  | .plain l :: ps, artifacts => .plain l :: renew config newline ps artifacts
  | .directive w :: ps, artifacts =>
      .directive (w.renewed config newline (artifacts.headD none)) ::
        renew config newline ps artifacts.tail

/-- The number on the closer is right if that is asked for, and what was generated stands between
the sentinels. -/
def Written.UpToDate (config : Config) (newline : List Char) (w : Written)
    (artifact : Option (List Char)) : Prop :=
  (config.updateCounts = true → w.count = some w.lineCount) ∧
    ∀ text ∈ artifact, ∃ r ∈ w.region,
      r.body.flatten = regionText (Text.margin w.opener) newline text

/-! ### The text of a renewed outline -/

theorem Region.flatten_renewed (r : Region) (text : List Char) :
    (r.renewed text).lines.flatten = r.first ++ text ++ r.last := by
  rw [Region.renewed]
  split
  · rename_i hfuses
    obtain ⟨rest, rfl⟩ := List.head?_eq_some_iff.mp hfuses.2
    simp [Region.lines]
  · simp [Region.lines]

theorem Region.flatten_body_renewed {r : Region} {text : List Char}
    (h : ¬ (r.first.getLast? = some '\r' ∧ text.head? = some '\n')) :
    (r.renewed text).body.flatten = text := by
  rw [Region.renewed, if_neg h]
  exact Text.flatten_lines text

theorem flatten_newRegion (margin newline artifact : List Char) :
    (newRegion margin newline artifact).lines.flatten = framedRegion margin newline artifact := by
  simp [newRegion, Region.lines, framedRegion]

theorem regionWith_some {w : Written} {r : Region} (h : w.region = some r)
    (newline artifact : List Char) :
    w.regionWith newline artifact =
      r.renewed (regionText (Text.margin w.opener) newline artifact) := by
  simp [Written.regionWith, h]

theorem regionWith_none {w : Written} (h : w.region = none) (newline artifact : List Char) :
    w.regionWith newline artifact = newRegion (Text.margin w.opener) newline artifact := by
  simp [Written.regionWith, h]

theorem framed_of_some {w : Written} {r : Region} (h : w.region = some r)
    (artifact : Option (List Char)) : w.framed artifact = false := by
  simp [Written.framed, h]

theorem edited_pieces (config : Config) (newline : List Char) (w : Written)
    (artifact : Option (List Char)) :
    edited (w.pieces config newline artifact) =
      (w.renewed config newline artifact).lines.flatten := by
  rw [Written.lines_eq, Written.pieces, edited_cons, edited_append, result_kept]
  simp only [List.flatten_append, List.flatten_singleton, List.append_assoc]
  cases artifact with
  | none => simp [Written.renewed, Written.regionPieces, Written.framed]
  | some artifact =>
      cases hregion : w.region with
      | none =>
          simp [Written.renewed, Written.regionPieces, Written.framed, hregion,
            regionWith_none hregion, flatten_newRegion]
      | some r =>
          simp [Written.renewed, Written.regionPieces, Written.framed, hregion,
            regionWith_some hregion, Region.flatten_renewed]

theorem edited_piecesOf (config : Config) (newline : List Char) (ps : List Passage)
    (artifacts : List (Option (List Char))) :
    edited (piecesOf config newline ps artifacts) =
      (linesOf (renew config newline ps artifacts)).flatten := by
  induction ps generalizing artifacts with
  | nil => rfl
  | cons p ps ih =>
      cases p with
      | plain l => simp [piecesOf, renew, ih]
      | directive w => simp [piecesOf, renew, ih, edited_pieces]

theorem writtenOf_renew (config : Config) (newline : List Char) {ps : List Passage}
    {artifacts : List (Option (List Char))} (h : artifacts.length = (writtenOf ps).length) :
    writtenOf (renew config newline ps artifacts) =
      List.zipWith (fun w artifact => w.renewed config newline artifact) (writtenOf ps)
        artifacts := by
  induction ps generalizing artifacts with
  | nil => rfl
  | cons p ps ih =>
      cases p with
      | plain l => exact ih h
      | directive w =>
          rcases artifacts with _ | ⟨artifact, artifacts⟩
          · simp [writtenOf] at h
          · rw [renew, writtenOf, writtenOf, List.zipWith_cons_cons, List.headD_cons,
              List.tail_cons, ih (by simpa [writtenOf] using h)]

/-! ### Directives that are up to date -/

theorem Region.body_of_renewed_eq {r : Region} {text : List Char} (h : r.renewed text = r) :
    r.body.flatten = text := by
  rw [Region.renewed] at h
  split at h
  · have hfirst := congrArg (fun r => r.first.length) h
    simp at hfirst
  · rw [← h]
    simp

theorem Region.renewed_eq_self {r : Region} (h : Lined r.lines) :
    r.renewed r.body.flatten = r := by
  rw [Region.lines, List.cons_append, ← List.singleton_append, Text.lined_append_iff,
    Text.lined_append_iff] at h
  obtain ⟨-, ⟨hbody, -, -⟩, hbreak⟩ := h
  have hapart : ¬ (r.first.getLast? = some '\r' ∧ r.body.flatten.head? = some '\n') := by
    rintro ⟨hlast, hhead⟩
    have := hbreak '\r' (by simpa using hlast) '\n' (by simp [hhead])
    simp [Text.endsBetween] at this
  rw [Region.renewed, if_neg hapart, hbody.lines_flatten]

theorem recounted_eq_false_iff {config : Config} {w : Written} :
    w.recounted config = false ↔ (config.updateCounts = true → w.count = some w.lineCount) := by
  rw [Written.recounted]
  cases config.updateCounts <;> simp

theorem updateCounts_of_recounted {config : Config} {w : Written}
    (h : w.recounted config = true) : config.updateCounts = true := by
  simp only [Written.recounted, Bool.and_eq_true] at h
  exact h.1

theorem edited_closerPieces_of_not {config : Config} {w : Written}
    (h : w.recounted config = false) : edited (w.closerPieces config) = w.closer := by
  simp [Written.closerPieces, h]

/-- Renewing a directive changes nothing exactly when it is up to date. -/
theorem renewed_eq_self_iff {config : Config} {newline : List Char} {w : Written}
    {artifact : Option (List Char)} (hlined : ∀ r ∈ w.region, Lined r.lines) :
    w.renewed config newline artifact = w ↔ w.UpToDate config newline artifact := by
  constructor
  · intro h
    have hcount := congrArg Written.count h
    have hregion := congrArg Written.region h
    simp only [Written.renewed] at hcount hregion
    refine ⟨fun hupdate => by simpa [hupdate, eq_comm] using hcount, ?_⟩
    rintro text ⟨rfl⟩
    cases hr : w.region with
    | none => simp [hr] at hregion
    | some r =>
        simp only [regionWith_some hr, hr, Option.some.injEq] at hregion
        exact ⟨r, rfl, Region.body_of_renewed_eq hregion⟩
  · rintro ⟨hcount, hregion⟩
    have hcloser := edited_closerPieces_of_not (recounted_eq_false_iff.mpr hcount)
    have hcount' : (if config.updateCounts then some w.lineCount else w.count) = w.count := by
      split
      · rename_i hupdate
        exact (hcount hupdate).symm
      · rfl
    cases artifact with
    | none => simp [Written.renewed, Written.framed, hcloser, hcount']
    | some text =>
        obtain ⟨r, hr, hbody⟩ := hregion text rfl
        have hr : w.region = some r := hr
        have hrenewed := Region.renewed_eq_self (hlined r hr)
        rw [hbody] at hrenewed
        simp [Written.renewed, framed_of_some hr, regionWith_some hr, hcloser, hcount', hrenewed,
          ← hr]

theorem renew_eq_self_iff {config : Config} {newline : List Char} {ps : List Passage}
    {artifacts : List (Option (List Char))}
    (hlined : ∀ w ∈ writtenOf ps, ∀ r ∈ w.region, Lined r.lines)
    (hlength : artifacts.length = (writtenOf ps).length) :
    renew config newline ps artifacts = ps ↔
      List.Forall₂ (Written.UpToDate config newline) (writtenOf ps) artifacts := by
  induction ps generalizing artifacts with
  | nil =>
      obtain rfl := List.eq_nil_of_length_eq_zero hlength
      simp [renew, writtenOf]
  | cons p ps ih =>
      cases p with
      | plain l => simp only [renew, List.cons.injEq, true_and, writtenOf, ih hlined hlength]
      | directive w =>
          rcases artifacts with _ | ⟨artifact, artifacts⟩
          · simp [writtenOf] at hlength
          simp only [writtenOf, List.mem_cons, forall_eq_or_imp] at hlined
          rw [renew, writtenOf, List.forall₂_cons, ← renewed_eq_self_iff hlined.1,
            ← ih hlined.2 (by simpa [writtenOf] using hlength)]
          simp

end Codeweave.Directive
