import ChatCommands.Proofs.Glob.Composition

/-!
# Segments that take no dots

Where no segment of a glob takes a dot, what fits the segments are the segments of a name.

Main statement: `fits_iff_fills_splitOn`.
-/

namespace ChatCommands.Glob

/-! ### Pieces and dots -/

namespace Piece

variable {p : Piece} {ps : List Piece} {cs : List Char}

/-- Whether a piece may take a dot. -/
def admitsDot : Piece → Bool
  | one cls | run cls => cls.mem '.'
  | segments | segmentRest => true

lemma Takes.notMem_dot (ht : p.Takes cs) (h : p.admitsDot = false) : '.' ∉ cs := by
  intro hmem
  match p with
  | one cls =>
    obtain ⟨c, rfl, hc⟩ := ht
    obtain rfl := List.mem_singleton.mp hmem
    exact Bool.false_ne_true (h.symm.trans hc)
  | run cls => exact Bool.false_ne_true (h.symm.trans (ht '.' hmem))
  | segments | segmentRest => cases h

/-- Pieces that admit no dot take none. -/
lemma TakesAll.notMem_dot (ht : TakesAll ps cs) (h : ∀ p ∈ ps, p.admitsDot = false) :
    '.' ∉ cs := by
  induction ps generalizing cs with
  | nil =>
    obtain rfl : cs = [] := ht
    exact List.not_mem_nil
  | cons p ps ih =>
    obtain ⟨a, b, rfl, ha, hb⟩ := ht
    obtain ⟨hp, hps⟩ := List.forall_mem_cons.mp h
    rw [List.mem_append, not_or]
    exact ⟨ha.notMem_dot hp, ih hb hps⟩

end Piece

variable [CharNames] {glob name segment : List Char} {segments parts : List (List Char)}
  {ps : List Piece}

/-! ### Segments and dots -/

/-- A segment is well formed on its own and has no piece that admits a dot. -/
def DotlessAlone (segment : List Char) : Prop :=
  ∃ qs, pieces segment = .ok qs ∧ ∀ p ∈ qs, p.admitsDot = false

lemma Fills.notMem_dot (h : Fills segments parts)
    (hdotless : ∀ segment ∈ segments, isSpan segment = false → DotlessAlone segment) :
    ∀ part ∈ parts, '.' ∉ part := by
  induction h with
  | nil => exact List.forall_mem_nil _
  | span hnames _ ih =>
    have hrest := ih (List.forall_mem_cons.mp hdotless).2
    exact List.forall_mem_append.mpr ⟨fun name hname => (hnames name hname).notMem_dot, hrest⟩
  | segment hspan halone _ ih =>
    obtain ⟨hfirst, hrest⟩ := List.forall_mem_cons.mp hdotless
    obtain ⟨qs, hqs, hdots⟩ := hfirst hspan
    have hpart := ((FitsAlone.takesAll_iff hqs).mp halone).notMem_dot hdots
    exact List.forall_mem_cons.mpr ⟨hpart, ih hrest⟩

/-- Where no segment takes a dot, a name fits a glob just if its segments fit those of the glob. -/
lemma fits_iff_fills_splitOn (hsplit : splitOn '.' glob = segment :: segments)
    (hspan : isSpan segment = false) (hps : pieces glob = .ok ps)
    (hdotless : ∀ segment ∈ splitOn '.' glob, isSpan segment = false → DotlessAlone segment) :
    Piece.fits ps name = true ↔ Fills (splitOn '.' glob) (splitOn '.' name) := by
  have halone : ∀ segment ∈ splitOn '.' glob, isSpan segment = false →
      ∃ qs, pieces segment = .ok qs := fun segment hmem hspan =>
    (hdotless segment hmem hspan).imp fun _ h => h.1
  rw [fits_iff_fills hsplit hspan halone hps]
  refine exists_dotted_iff (fun parts h => ⟨?_, h.notMem_dot hdotless⟩) name
  rw [hsplit, fills_segment_iff hspan] at h
  obtain ⟨part, rest, rfl, -⟩ := h
  exact List.cons_ne_nil part rest

end ChatCommands.Glob
