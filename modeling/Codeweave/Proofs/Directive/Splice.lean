import Codeweave.Proofs.Directive.Blocks
import Codeweave.Proofs.Directive.Pieces

/-!
The pieces of a source that its directives replace. Each directive is cut into what precedes its
closer, the closer, and the region or the place for one; the edits that regeneration asks for are
the replacements in this cut.
-/

namespace Codeweave.Directive

def Written.recounted (config : Config) (w : Written) : Bool :=
  config.updateCounts && w.count != some w.lineCount

/-- The closer, of which all but the characters that end it in a source may be replaced. -/
def Written.closerPieces (config : Config) (w : Written) : List Piece :=
  if w.recounted config then
    [⟨Text.trimRight isReturn w.closer,
        some (closerText (Text.margin w.opener) w.lineCount)⟩,
      ⟨w.closer.drop (Text.trimRight isReturn w.closer).length, none⟩]
  else [⟨w.closer, none⟩]

/-- What is put between a closer and the sentinels that are new after it. -/
def Written.gap (newline : List Char) (w : Written) : List Char :=
  if endsInReturn w.closer then [] else newline

/-- The region, or the place for one. -/
def Written.regionPieces (newline : List Char) (w : Written) :
    Option (List Char) → List Piece
  | none => [⟨((w.region.map Region.lines).getD []).flatten, none⟩]
  | some artifact =>
      match w.region with
      | some r =>
          [⟨r.first, none⟩,
            ⟨r.body.flatten, some (regionText (Text.margin w.opener) newline artifact)⟩,
            ⟨r.last, none⟩]
      | none =>
          [⟨[], some (w.gap newline ++ framedRegion (Text.margin w.opener) newline artifact)⟩]

/-- The pieces of a directive, given its generated text. -/
def Written.pieces (config : Config) (newline : List Char) (w : Written)
    (artifact : Option (List Char)) : List Piece :=
  ⟨(w.opener :: w.script).flatten, none⟩ ::
    (w.closerPieces config ++ w.regionPieces newline artifact)

def piecesOf (config : Config) (newline : List Char) :
    List Passage → List (Option (List Char)) → List Piece
  | [], _ => []
  | .plain l :: ps, artifacts => ⟨l, none⟩ :: piecesOf config newline ps artifacts
  | .directive w :: ps, artifacts =>
      w.pieces config newline (artifacts.headD none) ++
        piecesOf config newline ps artifacts.tail

/-! ### Pieces make up the source -/

theorem trimRight_append_drop (p : Char → Bool) (text : List Char) :
    Text.trimRight p text ++ text.drop (Text.trimRight p text).length = text :=
  List.prefix_iff_eq_append.mp (List.rdropWhile_prefix p text)

@[simp] theorem original_closerPieces (config : Config) (w : Written) :
    original (w.closerPieces config) = w.closer := by
  rw [Written.closerPieces]
  split
  · simp [trimRight_append_drop]
  · simp

@[simp] theorem original_regionPieces (newline : List Char) (w : Written)
    (artifact : Option (List Char)) :
    original (w.regionPieces newline artifact) =
      ((w.region.map Region.lines).getD []).flatten := by
  cases artifact with
  | none => simp [Written.regionPieces]
  | some artifact =>
      cases hr : w.region with
      | none => simp [Written.regionPieces, hr]
      | some r => simp [Written.regionPieces, hr, Region.lines]

theorem original_pieces (config : Config) (newline : List Char) (w : Written)
    (artifact : Option (List Char)) :
    original (w.pieces config newline artifact) = w.lines.flatten := by
  simp [Written.pieces, Written.lines]

theorem original_piecesOf (config : Config) (newline : List Char) (ps : List Passage)
    (artifacts : List (Option (List Char))) :
    original (piecesOf config newline ps artifacts) = (linesOf ps).flatten := by
  induction ps generalizing artifacts with
  | nil => rfl
  | cons p ps ih =>
      cases p with
      | plain l => simp [piecesOf, ih]
      | directive w => simp [piecesOf, ih, original_pieces]

/-! ### The edits of directives -/

theorem blockAt_countHolds (w : Written) (p : Place) :
    (w.blockAt p).countHolds = (w.count == some w.lineCount) := by
  rw [Bool.eq_iff_iff, beq_iff_eq, ← declared_eq_iff, Directive.countHolds, beq_iff_eq]
  rfl

theorem countEdit?_blockAt (config : Config) (w : Written) (p : Place) :
    (countEdit? config (w.blockAt p)).toList =
      editsFrom (p.offset + (w.opener :: w.script).flatten.length) (w.closerPieces config) := by
  rw [countEdit?, blockAt_countHolds, Written.closerPieces, Written.recounted]
  simp only [bne]
  split <;> rfl

theorem regionEdit_blockAt {source : List Char} (newline : List Char) (w : Written)
    (p : Place) (artifact : List Char)
    (hends : endsInReturn (source.take (w.blockAt p).insertAt) = endsInReturn w.closer) :
    [regionEdit source newline (w.blockAt p) artifact] =
      editsFrom (w.blockAt p).insertAt (w.regionPieces newline (some artifact)) := by
  rw [regionEdit, hends]
  cases hr : w.region with
  | none => simp [Written.regionPieces, Written.blockAt, Written.gap, hr]
  | some r => simp [Written.regionPieces, Written.blockAt, hr]

theorem edits_blockAt (config : Config) {source : List Char} (newline : List Char)
    (w : Written) (p : Place) (artifact : Option (List Char))
    (hends : endsInReturn (source.take (w.blockAt p).insertAt) = endsInReturn w.closer) :
    edits config source newline (w.blockAt p) artifact =
      editsFrom p.offset (w.pieces config newline artifact) := by
  rw [edits, countEdit?_blockAt, Written.pieces, editsFrom_kept, editsFrom_append,
    original_closerPieces]
  congr 1
  cases artifact with
  | none => simp [Written.regionPieces]
  | some artifact => exact regionEdit_blockAt newline w p artifact hends

theorem endsInReturn_append (before : List Char) {l : List Char} (h : l ≠ []) :
    endsInReturn (before ++ l) = endsInReturn l := by
  rw [endsInReturn, endsInReturn, List.getLast?_append_of_ne_nil before h]

/-- The edits for all directives of a source are the replacements of its pieces. -/
theorem edits_blocksFrom (config : Config) (newline : List Char) {ps : List Passage}
    {before : List Char} {p : Place} {results : List (Block × Option (List Char))}
    (hlines : ∀ l ∈ linesOf ps, l ≠ []) (hbefore : before.length = p.offset)
    (hresults : results.map Prod.fst = blocksFrom p ps) :
    (results.flatMap fun r =>
        edits config (before ++ (linesOf ps).flatten) newline r.1 r.2) =
      editsFrom p.offset (piecesOf config newline ps (results.map Prod.snd)) := by
  induction ps generalizing before p results with
  | nil =>
      obtain rfl : results = [] := by simpa [blocksFrom] using hresults
      rfl
  | cons passage ps ih =>
      cases passage with
      | plain l =>
          have hrest : ∀ m ∈ linesOf ps, m ≠ [] := fun m hm => hlines m (by simp [hm])
          have hplace : (before ++ l).length = (p.after [l]).offset := by
            simp [Place.after, hbefore]
          have := ih hrest hplace hresults
          simpa [piecesOf, Place.after] using this
      | directive w =>
          have hrest : ∀ m ∈ linesOf ps, m ≠ [] := fun m hm => hlines m (by simp [hm])
          have hcloser : w.closer ≠ [] := hlines _ (by simp [Written.lines])
          rcases results with _ | ⟨⟨b, artifact⟩, results⟩
          · simp [blocksFrom] at hresults
          · simp only [List.map_cons, blocksFrom, List.cons.injEq] at hresults
            obtain ⟨rfl, hresults⟩ := hresults
            have hplace : (before ++ w.lines.flatten).length = (p.after w.lines).offset := by
              simp only [Place.after, List.length_append, hbefore]
            have htail := ih hrest hplace hresults
            -- whether new sentinels need a newline before them is seen at the closer alone
            have hends : endsInReturn ((before ++ w.lines.flatten ++
                (linesOf ps).flatten).take (w.blockAt p).insertAt) = endsInReturn w.closer := by
              rw [take_insertAt hbefore, endsInReturn_append _ hcloser]
            simp only [List.append_assoc] at htail hends
            rw [List.flatMap_cons, linesOf_directive, List.flatten_append,
              edits_blockAt config newline w p artifact hends, htail]
            rw [List.map_cons, piecesOf, editsFrom_append, original_pieces]
            rfl

/-- A spliced source is its outline with some pieces replaced. -/
theorem splice_eq_edited (config : Config) {source : List Char} {ps : List Passage}
    {results : List (Block × Option (List Char))} (hparted : Parted source ps)
    (hresults : results.map Prod.fst = blocksFrom {} ps) :
    splice config source results =
      edited (piecesOf config (newlineOf source) ps (results.map Prod.snd)) := by
  have hplace : ([] : List Char).length = ({} : Place).offset := rfl
  have hedits := edits_blocksFrom config (newlineOf source)
    (fun l hl => (hparted.lined.isLine l hl).ne_nil) hplace hresults
  have happly := applyFrom_editsFrom
    (piecesOf config (newlineOf source) ps (results.map Prod.snd)) 0 []
  rw [List.nil_append, hparted.flatten_eq] at hedits
  rw [original_piecesOf, hparted.flatten_eq] at happly
  rw [splice]
  change applyFrom 0 source
    (results.flatMap fun r => edits config source (newlineOf source) r.1 r.2) = _
  rw [hedits]
  exact happly

end Codeweave.Directive
