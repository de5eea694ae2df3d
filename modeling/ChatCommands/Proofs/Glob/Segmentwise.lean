import ChatCommands.Proofs.Glob.Wildcards
import Mathlib.Data.List.Forall2

/-!
# Globs that keep to the segments of a name

A glob without spans is meant to have one segment for each segment of a name. It does just if no
segment takes a dot: a class may take one, if it is negated, has a range over the dot or names a
category, and a class that is closed at once is not closed at all but goes on behind the segment.

Main statements: `fits_iff_segmentwise`, `segmentwise_iff_dotless`.
-/

namespace ChatCommands.Glob

/-! ### Taking a dot -/

namespace Piece

variable {p : Piece} {ps : List Piece} {cs : List Char}

lemma exists_takes_dot (h : p.admitsDot = true) : ∃ cs, p.Takes cs ∧ '.' ∈ cs := by
  have hname : IsSegment ['a'] := ⟨rfl, List.forall_mem_nil _⟩
  match p with
  | one cls => exact ⟨['.'], ⟨'.', rfl, h⟩, List.mem_singleton.mpr rfl⟩
  | run cls => exact ⟨['.'], List.forall_mem_singleton.mpr h, List.mem_singleton.mpr rfl⟩
  | segments => exact ⟨trail [['a']], ⟨_, rfl, by simpa using hname⟩, List.mem_cons_self⟩
  | segmentRest =>
    refine ⟨trail [['a']], ⟨[], [['a']], rfl, List.forall_mem_nil _, ?_⟩, List.mem_cons_self⟩
    simpa using hname

/-- Where one of several pieces admits a dot, they take a text with a dot if they take any. -/
lemma TakesAll.exists_dot (ht : TakesAll ps cs) (hp : p ∈ ps) (h : p.admitsDot = true) :
    ∃ ds, TakesAll ps ds ∧ '.' ∈ ds := by
  obtain ⟨before, after, rfl⟩ := List.append_of_mem hp
  obtain ⟨a, _, rfl, ha, b, d, rfl, -, hd⟩ := takesAll_append_iff.mp ht
  obtain ⟨ds, hds, hdot⟩ := exists_takes_dot h
  refine ⟨a ++ (ds ++ d), takesAll_append_iff.mpr ⟨a, ds ++ d, rfl, ha, .cons hds hd⟩, ?_⟩
  simp [hdot]

end Piece

variable {glob name segment part : List Char} {segments parts : List (List Char)}
  {ps qs : List Piece} {p : Piece}

/-! ### Counting dots -/

lemma length_le_count_trail (parts : List (List Char)) :
    parts.length ≤ (trail parts).count '.' := by
  induction parts with
  | nil => exact Nat.zero_le _
  | cons part parts ih =>
    rw [trail_cons, List.count_cons_self, List.count_append, List.length_cons]
    omega

/-- Parts with a dot among them make more segments than they are. -/
lemma length_lt_of_dot (hpart : part ∈ parts) (hdot : '.' ∈ part) :
    parts.length < (splitOn '.' (dotted parts)).length := by
  have hcount : (splitOn '.' (dotted parts)).length = (trail parts).count '.' := by
    obtain ⟨first, rest, rfl⟩ := List.exists_cons_of_ne_nil (List.ne_nil_of_mem hpart)
    rw [length_splitOn, dotted_cons, trail_cons, List.count_cons_self]
    rfl
  obtain ⟨before, after, rfl⟩ := List.append_of_mem hpart
  have hpos := List.count_pos_iff.mpr hdot
  have hbefore := length_le_count_trail before
  have hafter := length_le_count_trail after
  rw [hcount, trail, List.flatMap_append, ← trail, ← trail, trail_cons, List.count_append,
    List.count_cons_self, List.count_append, List.length_append, List.length_cons]
  omega

/-! ### Segment by segment -/

section Names

variable [CharNames]

/-- Segment by segment a name fits a glob: both have as many segments, and each segment of the name
fits that of the glob on its own. -/
def FitsSegmentwise (glob name : List Char) : Prop :=
  List.Forall₂ FitsAlone (splitOn '.' glob) (splitOn '.' name)

lemma fills_iff_forall₂ (hspan : ∀ segment ∈ segments, isSpan segment = false) :
    Fills segments parts ↔ List.Forall₂ FitsAlone segments parts := by
  induction segments generalizing parts with
  | nil =>
    rw [List.forall₂_nil_left_iff]
    constructor
    · rintro ⟨⟩
      rfl
    · rintro rfl
      exact .nil
  | cons segment segments ih =>
    obtain ⟨hfirst, hrest⟩ := List.forall_mem_cons.mp hspan
    rw [fills_segment_iff hfirst, List.forall₂_cons_left_iff]
    simp only [ih hrest]
    constructor
    · rintro ⟨part, rest, rfl, halone, h⟩
      exact ⟨part, rest, halone, h, rfl⟩
    · rintro ⟨part, rest, halone, h, rfl⟩
      exact ⟨part, rest, rfl, halone, h⟩

lemma exists_pieces_of_forall₂ (h : List.Forall₂ FitsAlone segments parts) :
    ∀ segment ∈ segments, ∃ qs, pieces segment = .ok qs := by
  induction h with
  | nil => exact List.forall_mem_nil _
  | cons halone _ ih => exact List.forall_mem_cons.mpr ⟨halone.imp fun _ h => h.1, ih⟩

lemma exists_dot_of_forall₂ (h : List.Forall₂ FitsAlone segments parts) (hmem : segment ∈ segments)
    (hqs : pieces segment = .ok qs) (hp : p ∈ qs) (hdot : p.admitsDot = true) :
    ∃ parts, List.Forall₂ FitsAlone segments parts ∧ ∃ part ∈ parts, '.' ∈ part := by
  induction h with
  | nil => cases hmem
  | @cons first part segments parts halone hrest ih =>
    rcases List.mem_cons.mp hmem with rfl | hmem
    · obtain ⟨ds, hds, hdots⟩ := ((FitsAlone.takesAll_iff hqs).mp halone).exists_dot hp hdot
      have hfirst := (FitsAlone.takesAll_iff hqs).mpr hds
      exact ⟨ds :: parts, .cons hfirst hrest, ds, List.mem_cons_self, hdots⟩
    · obtain ⟨parts', hparts, ds, hmem, hdots⟩ := ih hmem
      exact ⟨part :: parts', .cons halone hparts, ds, List.mem_cons_of_mem _ hmem, hdots⟩

/-! ### Whole globs -/

section Whole

variable (hspan : ['*', '*'] ∉ splitOn '.' glob) (hps : pieces glob = .ok ps)
include hspan hps

omit [CharNames] hps in
lemma isSpan_of_notMem : (∀ segment ∈ splitOn '.' glob, isSpan segment = false) ∧
    ∃ first rest, splitOn '.' glob = first :: rest ∧ isSpan first = false := by
  have hspans : ∀ segment ∈ splitOn '.' glob, isSpan segment = false := fun _ hmem =>
    eq_false_of_ne_true fun h => hspan (isSpan_iff.mp h ▸ hmem)
  obtain ⟨first, rest, hsplit⟩ := List.exists_cons_of_ne_nil (splitOn_ne_nil '.' glob)
  exact ⟨hspans, first, rest, hsplit, hspans first (hsplit ▸ List.mem_cons_self)⟩

/-- A glob without spans whose segments are well formed takes parts that fit them one by one. -/
lemma fits_iff_parts (halone : ∀ segment ∈ splitOn '.' glob, ∃ qs, pieces segment = .ok qs) :
    Piece.fits ps name = true ↔
      ∃ parts, name = dotted parts ∧ List.Forall₂ FitsAlone (splitOn '.' glob) parts := by
  obtain ⟨hspans, first, rest, hsplit, hfirst⟩ := isSpan_of_notMem hspan
  rw [fits_iff_fills hsplit hfirst (fun segment hmem _ => halone segment hmem) hps]
  simp only [fills_iff_forall₂ hspans]

/-- A glob that takes no dots means its segments. -/
lemma fits_iff_segmentwise (hdotless : ∀ segment ∈ splitOn '.' glob, DotlessAlone segment) :
    Piece.fits ps name = true ↔ FitsSegmentwise glob name := by
  obtain ⟨hspans, first, rest, hsplit, hfirst⟩ := isSpan_of_notMem hspan
  rw [fits_iff_fills_splitOn hsplit hfirst hps fun segment hmem _ => hdotless segment hmem,
    fills_iff_forall₂ hspans, FitsSegmentwise]

/-- A glob keeps to the segments of the names that fit it exactly if none does, or if its segments
are well formed on their own and admit no dot. So it does if it has no brackets. -/
theorem segmentwise_iff_dotless :
    ((∀ name, Piece.fits ps name = true → FitsSegmentwise glob name) ↔
      (∀ name, Piece.fits ps name = false) ∨
        ∀ segment ∈ splitOn '.' glob, DotlessAlone segment) ∧
    ('[' ∉ glob → ∀ name, Piece.fits ps name = true → FitsSegmentwise glob name) := by
  refine ⟨⟨?_, ?_⟩, fun hbracket name hfits => ?_⟩
  · intro h
    by_cases hfits : ∃ name, Piece.fits ps name = true
    · obtain ⟨name, hfits⟩ := hfits
      have halone : ∀ segment ∈ splitOn '.' glob, ∃ qs, pieces segment = .ok qs :=
        exists_pieces_of_forall₂ (h name hfits)
      obtain ⟨parts, rfl, hparts⟩ := (fits_iff_parts hspan hps halone).mp hfits
      refine Or.inr fun segment hmem => ?_
      obtain ⟨qs, hqs⟩ := halone segment hmem
      refine ⟨qs, hqs, fun p hp => eq_false_of_ne_true fun hdot => ?_⟩
      -- the piece takes a dot in some name, which has a segment too many then
      obtain ⟨parts', hparts', part, hpart, hdots⟩ :=
        exists_dot_of_forall₂ hparts hmem hqs hp hdot
      have hmore := length_lt_of_dot hpart hdots
      have hfits' := (fits_iff_parts hspan hps halone).mpr ⟨parts', rfl, hparts'⟩
      have hlength := (h _ hfits').length_eq
      rw [← hparts'.length_eq] at hmore
      omega
    · left
      simpa using hfits
  · rintro (hnone | hdotless) name hfits
    · exact absurd hfits (ne_true_of_eq_false (hnone name))
    · exact (fits_iff_segmentwise hspan hps hdotless).mp hfits
  · refine (fits_iff_segmentwise hspan hps fun segment hmem => ?_).mp hfits
    exact dotlessAlone_of_noBracket hbracket segment hmem ((isSpan_of_notMem hspan).1 segment hmem)

end Whole

end Names

/-- A class of two letters admits no dot, so the segment that has it takes one segment. -/
theorem segmentwise_of_class : letI := CharNames.unknown
    ['*', '*'] ∉ splitOn '.' "b.u[xy]".toList ∧
      (∃ ps, pieces "b.u[xy]".toList = .ok ps ∧ Piece.fits ps "b.uy".toList = true) ∧
      FitsSegmentwise "b.u[xy]".toList "b.uy".toList := by
  let _ : CharNames := .unknown
  have hspan : ['*', '*'] ∉ splitOn '.' "b.u[xy]".toList := by decide
  have hb : pieces "b".toList = .ok [.one (.only 'b')] := by
    rw [pieces_eq_ok_iff]
    decide +kernel
  have hu : pieces "u[xy]".toList =
      .ok [.one (.only 'u'), .one ⟨false, [.point 'x'.toNat, .point 'y'.toNat]⟩] := by
    rw [pieces_eq_ok_iff]
    decide +kernel
  have hps : pieces "b.u[xy]".toList = .ok [.one (.only 'b'), .one (.only '.'), .one (.only 'u'),
      .one ⟨false, [.point 'x'.toNat, .point 'y'.toNat]⟩] := by
    rw [pieces_eq_ok_iff]
    decide +kernel
  have hdotless : ∀ segment ∈ splitOn '.' "b.u[xy]".toList, DotlessAlone segment :=
    List.forall_mem_cons.mpr ⟨⟨_, hb, by decide⟩,
      List.forall_mem_singleton.mpr ⟨_, hu, by decide⟩⟩
  have hfits : Piece.fits [.one (.only 'b'), .one (.only '.'), .one (.only 'u'),
      .one ⟨false, [.point 'x'.toNat, .point 'y'.toNat]⟩] "b.uy".toList = true := by cbv
  exact ⟨hspan, ⟨_, hps, hfits⟩,
    (segmentwise_iff_dotless hspan hps).1.mpr (Or.inr hdotless) _ hfits⟩

/-- A negated class admits the dot, so the segment that has it takes two segments. -/
theorem not_segmentwise_of_negated : letI := CharNames.unknown
    ∃ ps, pieces "bot.u[!a]x".toList = .ok ps ∧ ['*', '*'] ∉ splitOn '.' "bot.u[!a]x".toList ∧
      Piece.fits ps "bot.u.x".toList = true ∧
      ¬FitsSegmentwise "bot.u[!a]x".toList "bot.u.x".toList := by
  let _ : CharNames := .unknown
  refine ⟨[.one (.only 'b'), .one (.only 'o'), .one (.only 't'), .one (.only '.'),
    .one (.only 'u'), .one ⟨true, [.point 'a'.toNat]⟩, .one (.only 'x')], ?_, by decide, ?_, ?_⟩
  · rw [pieces_eq_ok_iff]
    decide +kernel
  · cbv
  · intro h
    exact absurd h.length_eq (by decide)

end ChatCommands.Glob
