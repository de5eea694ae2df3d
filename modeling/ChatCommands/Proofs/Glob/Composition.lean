import ChatCommands.Proofs.Glob.Reading
import ChatCommands.Proofs.Glob.Segments
import ChatCommands.Proofs.Glob.Taken

/-!
# Globs put together from segments

Where every segment of a glob is well formed on its own, the glob is, and what fits it is put
together from what fits the segments.

Main statements: `pieces_of_splitOn`, `fits_iff_fills`.
-/

namespace ChatCommands.Glob

/-- A part of a name fits a segment that is a glob on its own. -/
def FitsAlone [CharNames] (segment part : List Char) : Prop :=
  ∃ qs, pieces segment = .ok qs ∧ Piece.fits qs part = true

/-- The pieces of segments, each with a dot before it. -/
inductive Spells [CharNames] : List (List Char) → List Piece → Prop
  | nil : Spells [] []
  | span {segments ps} (h : Spells segments ps) :
      Spells (['*', '*'] :: segments) (.segments :: ps)
  | segment {segment segments qs ps} (hdot : '.' ∉ segment) (hspan : isSpan segment = false)
      (hqs : pieces segment = .ok qs) (h : Spells segments ps) :
      Spells (segment :: segments) (.one (.only '.') :: (qs ++ ps))

/-- Parts fit segments: a list of names fits a span, and one part any other segment. -/
inductive Fills [CharNames] : List (List Char) → List (List Char) → Prop
  | nil : Fills [] []
  | span {segments names parts} (hnames : ∀ name ∈ names, IsSegment name)
      (h : Fills segments parts) : Fills (['*', '*'] :: segments) (names ++ parts)
  | segment {segment segments part parts} (hspan : isSpan segment = false)
      (halone : FitsAlone segment part) (h : Fills segments parts) :
      Fills (segment :: segments) (part :: parts)

variable {glob segment part name cs : List Char} {segments parts : List (List Char)}
  {ps qs : List Piece}

/-! ### Texts -/

lemma isSpan_iff : isSpan segment = true ↔ segment = ['*', '*'] := by simp [isSpan]

lemma isSpan_span : isSpan ['*', '*'] = true := isSpan_iff.mpr rfl

lemma segmentsText_span :
    segmentsText (['*', '*'] :: segments) = Piece.segmentsText ++ segmentsText segments := by
  rw [segmentsText, List.flatMap_cons, if_pos isSpan_span]
  rfl

lemma segmentsText_segment (hspan : isSpan segment = false) :
    segmentsText (segment :: segments) =
      ['\\', '.'] ++ (segmentText segment ++ segmentsText segments) := by
  rw [segmentsText, List.flatMap_cons, if_neg (ne_true_of_eq_false hspan)]
  rfl

lemma text_of_segment (hdot : '.' ∉ segment) (hspan : isSpan segment = false) :
    text segment = segmentText segment := by
  rw [text, splitOn_of_notMem hdot]
  simp [hspan, segmentsText]

section Names

variable [CharNames]

lemma read?_dot : Piece.read? ['\\', '.'] = some [.one (.only '.')] := Piece.read?_escaped rfl

lemma read?_span : Piece.read? Piece.segmentsText = some [.segments] := rfl

/-! ### One segment -/

lemma pieces_eq_ok_iff : pieces glob = .ok ps ↔ Piece.read? (text glob) = some ps := by
  rw [pieces]
  cases Piece.read? (text glob) <;> simp

lemma pieces_of_segment (hdot : '.' ∉ segment) (hspan : isSpan segment = false) :
    pieces segment = .ok qs ↔ Piece.read? (segmentText segment) = some qs := by
  rw [pieces_eq_ok_iff, text_of_segment hdot hspan]

/-! ### Several segments -/

lemma Spells.read? (h : Spells segments ps) : Piece.read? (segmentsText segments) = some ps := by
  induction h with
  | nil => rfl
  | span _ ih =>
    rw [segmentsText_span]
    exact Piece.read?_append read?_span ih
  | segment hdot hspan hqs _ ih =>
    rw [segmentsText_segment hspan]
    have hread := (pieces_of_segment hdot hspan).mp hqs
    exact Piece.read?_append read?_dot (Piece.read?_append hread ih)

lemma exists_spells (hdots : ∀ segment ∈ segments, '.' ∉ segment)
    (halone : ∀ segment ∈ segments, isSpan segment = false → ∃ qs, pieces segment = .ok qs) :
    ∃ ps, Spells segments ps := by
  induction segments with
  | nil => exact ⟨_, .nil⟩
  | cons segment segments ih =>
    obtain ⟨hdot, hdots⟩ := List.forall_mem_cons.mp hdots
    obtain ⟨hsegment, halone⟩ := List.forall_mem_cons.mp halone
    obtain ⟨ps, hps⟩ := ih hdots halone
    cases hspan : isSpan segment with
    | true =>
      rw [isSpan_iff.mp hspan]
      exact ⟨_, .span hps⟩
    | false =>
      obtain ⟨qs, hqs⟩ := hsegment hspan
      exact ⟨_, .segment hdot hspan hqs hps⟩

lemma FitsAlone.takesAll_iff (hqs : pieces segment = .ok qs) :
    FitsAlone segment part ↔ Piece.TakesAll qs part := by
  rw [← Piece.fits_iff]
  constructor
  · rintro ⟨qs', hqs', hfits⟩
    rw [hqs] at hqs'
    exact Except.ok.inj hqs' ▸ hfits
  · exact fun hfits => ⟨qs, hqs, hfits⟩

lemma fills_segment_iff (hspan : isSpan segment = false) :
    Fills (segment :: segments) parts ↔
      ∃ part rest, parts = part :: rest ∧ FitsAlone segment part ∧ Fills segments rest := by
  constructor
  · intro h
    cases h with
    | span => exact absurd isSpan_span (ne_true_of_eq_false hspan)
    | segment _ halone h => exact ⟨_, _, rfl, halone, h⟩
  · rintro ⟨part, rest, rfl, halone, h⟩
    exact .segment hspan halone h

lemma fills_span_iff :
    Fills (['*', '*'] :: segments) parts ↔
      ∃ names rest, parts = names ++ rest ∧ (∀ name ∈ names, IsSegment name) ∧
        Fills segments rest := by
  constructor
  · intro h
    cases h with
    | span hnames h => exact ⟨_, _, rfl, hnames, h⟩
    | segment hspan => exact absurd isSpan_span (ne_true_of_eq_false hspan)
  · rintro ⟨names, rest, rfl, hnames, h⟩
    exact .span hnames h

/-- What segments take is the parts that fit them, with a dot before each. -/
lemma Spells.takesAll_iff (h : Spells segments ps) :
    Piece.TakesAll ps cs ↔ ∃ parts, cs = trail parts ∧ Fills segments parts := by
  induction h generalizing cs with
  | nil =>
    constructor
    · rintro rfl
      exact ⟨[], rfl, .nil⟩
    · rintro ⟨_, rfl, ⟨⟩⟩
      rfl
  | span _ ih =>
    simp only [fills_span_iff]
    constructor
    · rintro ⟨_, b, rfl, ⟨names, rfl, hnames⟩, hb⟩
      obtain ⟨rest, rfl, hrest⟩ := ih.mp hb
      exact ⟨_, List.flatMap_append.symm, names, rest, rfl, hnames, hrest⟩
    · rintro ⟨_, rfl, names, rest, rfl, hnames, hrest⟩
      rw [trail, List.flatMap_append]
      exact .cons ⟨_, rfl, hnames⟩ (ih.mpr ⟨_, rfl, hrest⟩)
  | segment hdot hspan hqs _ ih =>
    simp only [fills_segment_iff hspan, FitsAlone.takesAll_iff hqs]
    constructor
    · rintro ⟨_, _, rfl, ⟨c, rfl, hc⟩, hb⟩
      obtain rfl := CharClass.mem_only_iff.mp hc
      obtain ⟨part, _, rfl, hpart, hb⟩ := Piece.takesAll_append_iff.mp hb
      obtain ⟨rest, rfl, hrest⟩ := ih.mp hb
      exact ⟨_, rfl, part, rest, rfl, hpart, hrest⟩
    · rintro ⟨_, rfl, part, rest, rfl, hpart, hrest⟩
      have hb := Piece.takesAll_append_iff.mpr
        ⟨part, trail rest, rfl, hpart, ih.mpr ⟨rest, rfl, hrest⟩⟩
      exact .cons (a := ['.']) ⟨'.', rfl, by simp⟩ hb

end Names

/-! ### A whole glob -/

section Whole

variable (hsplit : splitOn '.' glob = segment :: segments) (hspan : isSpan segment = false)
include hsplit hspan

lemma text_of_splitOn : text glob = segmentText segment ++ segmentsText segments := by
  rw [text, hsplit]
  simp [hspan]

omit hspan in
lemma dots_of_splitOn : '.' ∉ segment ∧ ∀ segment ∈ segments, '.' ∉ segment :=
  List.forall_mem_cons.mp fun _ h => notMem_of_mem_splitOn (hsplit ▸ h)

variable [CharNames] (halone : ∀ segment ∈ splitOn '.' glob, isSpan segment = false →
  ∃ qs, pieces segment = .ok qs)
include halone

/-- The pieces of a glob are those of its first segment and those of the others. -/
lemma pieces_of_splitOn : ∃ qs ps, pieces segment = .ok qs ∧ Spells segments ps ∧
    pieces glob = .ok (qs ++ ps) := by
  obtain ⟨hdot, hdots⟩ := dots_of_splitOn hsplit
  rw [hsplit] at halone
  obtain ⟨hfirst, hrest⟩ := List.forall_mem_cons.mp halone
  obtain ⟨qs, hqs⟩ := hfirst hspan
  obtain ⟨ps, hps⟩ := exists_spells hdots hrest
  refine ⟨qs, ps, hqs, hps, pieces_eq_ok_iff.mpr ?_⟩
  rw [text_of_splitOn hsplit hspan]
  exact Piece.read?_append ((pieces_of_segment hdot hspan).mp hqs) hps.read?

/-- A name fits a glob whose segments are well formed just if it is put together from parts that fit
them. -/
lemma fits_iff_fills (hps : pieces glob = .ok ps) :
    Piece.fits ps name = true ↔ ∃ parts, name = dotted parts ∧ Fills (splitOn '.' glob) parts := by
  obtain ⟨qs, rest, hqs, hrest, hglob⟩ := pieces_of_splitOn hsplit hspan halone
  obtain rfl : ps = qs ++ rest := Except.ok.inj (hps.symm.trans hglob)
  rw [Piece.fits_iff, Piece.takesAll_append_iff, hsplit]
  simp only [fills_segment_iff hspan, FitsAlone.takesAll_iff hqs]
  constructor
  · rintro ⟨part, _, rfl, hpart, hb⟩
    obtain ⟨parts, rfl, hparts⟩ := hrest.takesAll_iff.mp hb
    exact ⟨_, (dotted_cons part parts).symm, part, parts, rfl, hpart, hparts⟩
  · rintro ⟨_, rfl, part, parts, rfl, hpart, hparts⟩
    exact ⟨part, trail parts, dotted_cons part parts, hpart,
      hrest.takesAll_iff.mpr ⟨parts, rfl, hparts⟩⟩

end Whole

end ChatCommands.Glob
