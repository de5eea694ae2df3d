import ChatCommands.Proofs.Glob.Dotless

/-!
# Globs without brackets

A glob without brackets means what its segments say: a star any characters, a question mark one
character, a backslash with the character behind it that character, any other character itself,
and a segment of two stars any number of whole segments.

Main statements: `exists_pieces_of_noBracket`, `fits_iff_matchesSegments`.
-/

namespace ChatCommands.Glob

/-! ### What a glob means -/

/-- A text matches a segment. -/
inductive Matches : List Char → List Char → Prop
  | nil : Matches [] []
  | escaped {segment cs} (c) (h : Matches segment cs) : Matches ('\\' :: c :: segment) (c :: cs)
  | star {segment cs} (run) (h : Matches segment cs) : Matches ('*' :: segment) (run ++ cs)
  | question {segment cs} (c) (h : Matches segment cs) : Matches ('?' :: segment) (c :: cs)
  | itself {segment cs c} (hstar : c ≠ '*') (hquestion : c ≠ '?')
      (hescape : c = '\\' → segment = []) (h : Matches segment cs) :
      Matches (c :: segment) (c :: cs)

/-- Segments of a name match the segments of a glob: two stars any number of them, any other segment
one. -/
inductive MatchesSegments : List (List Char) → List (List Char) → Prop
  | nil : MatchesSegments [] []
  | span {segments parts} (skipped) (h : MatchesSegments segments parts) :
      MatchesSegments (['*', '*'] :: segments) (skipped ++ parts)
  | segment {segment segments part parts} (hspan : segment ≠ ['*', '*'])
      (hmatch : Matches segment part) (h : MatchesSegments segments parts) :
      MatchesSegments (segment :: segments) (part :: parts)

variable {glob segment part name cs : List Char} {segments parts : List (List Char)}
  {ps : List Piece} {c : Char}

/-! ### Pieces of a segment -/

/-- The pieces of a segment without brackets. -/
def segmentPieces : List Char → List Piece
  | [] => []
  | '\\' :: c :: rest => .one (.only c) :: segmentPieces rest
  | '*' :: rest => .run (.allBut '.') :: segmentPieces rest
  | '?' :: rest => .one (.allBut '.') :: segmentPieces rest
  | c :: rest => .one (.only c) :: segmentPieces rest

lemma isAlphanum_of_isSpecial (h : Pattern.Expr.isSpecial c = true) : c.isAlphanum = false := by
  have hall : "()[]\x7b\x7d?*+-|^$\\.&~# \t\n\r\x0b\x0c".toList.all (!·.isAlphanum) = true := by
    decide
  simpa using List.all_eq_true.mp hall c (List.contains_iff_mem.mp h)

section Names

variable [CharNames]

lemma read?_escape (c : Char) : Piece.read? (Pattern.Expr.escape [c]) = some [.one (.only c)] := by
  rw [Pattern.Expr.escape, List.flatMap_singleton]
  split_ifs with h
  · exact Piece.read?_escaped (isAlphanum_of_isSpecial h)
  · have hall : ['(', ')', '*', '\\', '['].all Pattern.Expr.isSpecial = true := by decide
    exact Piece.read?_plain fun hmem => h (List.all_eq_true.mp hall c hmem)

lemma read?_runText : Piece.read? runText = some [.run (.allBut '.')] := rfl

lemma read?_oneText : Piece.read? oneText = some [.one (.allBut '.')] := rfl

lemma read?_segmentText (hbracket : '[' ∉ segment) :
    Piece.read? (segmentText segment) = some (segmentPieces segment) := by
  fun_induction segmentPieces segment with
  | case1 =>
    rw [segmentText]
    rfl
  | case2 c rest ih =>
    rw [segmentText]
    exact Piece.read?_append (read?_escape c) (ih (by simp_all))
  | case3 rest ih =>
    rw [segmentText]
    exact Piece.read?_append read?_runText (ih (by simp_all))
  | case4 rest ih =>
    rw [segmentText]
    exact Piece.read?_append read?_oneText (ih (by simp_all))
  | case5 c rest hescape hstar hquestion ih =>
    rw [List.mem_cons, not_or] at hbracket
    rw [segmentText]
    · exact Piece.read?_append (read?_escape c) (ih hbracket.2)
    · exact hescape
    · exact hstar
    · exact hquestion
    · exact fun hc => hbracket.1 hc.symm

end Names

lemma admitsDot_segmentPieces (hdot : '.' ∉ segment) :
    ∀ p ∈ segmentPieces segment, p.admitsDot = false := by
  have honly : ∀ c, '.' ≠ c → (Piece.one (.only c)).admitsDot = false := by
    intro c hc
    exact eq_false_of_ne_true fun h => hc (CharClass.mem_only_iff.mp h)
  fun_induction segmentPieces segment with
  | case1 => exact List.forall_mem_nil _
  | case2 c rest ih =>
    simp only [List.mem_cons, not_or] at hdot
    exact List.forall_mem_cons.mpr ⟨honly c hdot.2.1, ih hdot.2.2⟩
  | case3 rest ih =>
    simp only [List.mem_cons, not_or] at hdot
    exact List.forall_mem_cons.mpr ⟨by decide, ih hdot.2⟩
  | case4 rest ih =>
    simp only [List.mem_cons, not_or] at hdot
    exact List.forall_mem_cons.mpr ⟨by decide, ih hdot.2⟩
  | case5 c rest _ _ _ ih =>
    simp only [List.mem_cons, not_or] at hdot
    exact List.forall_mem_cons.mpr ⟨honly c hdot.1, ih hdot.2⟩

/-! ### Matching a segment -/

lemma takesAll_only_iff : Piece.TakesAll (.one (.only c) :: ps) cs ↔
    ∃ rest, cs = c :: rest ∧ Piece.TakesAll ps rest := by
  constructor
  · rintro ⟨_, rest, rfl, ⟨d, rfl, hd⟩, hrest⟩
    obtain rfl := CharClass.mem_only_iff.mp hd
    exact ⟨rest, rfl, hrest⟩
  · rintro ⟨rest, rfl, hrest⟩
    exact .cons (a := [c]) ⟨c, rfl, CharClass.mem_only_iff.mpr rfl⟩ hrest

/-- In a text without dots the pieces of a segment take what matches it. -/
lemma takesAll_segmentPieces_iff (hdot : '.' ∉ part) :
    Piece.TakesAll (segmentPieces segment) part ↔ Matches segment part := by
  fun_induction segmentPieces segment generalizing part with
  | case1 =>
    constructor
    · rintro rfl
      exact .nil
    · rintro ⟨⟩
      rfl
  | case2 c rest ih =>
    rw [takesAll_only_iff]
    constructor
    · rintro ⟨cs, rfl, hcs⟩
      exact .escaped c ((ih (List.not_mem_of_not_mem_cons hdot)).mp hcs)
    · intro h
      cases h with
      | escaped _ h => exact ⟨_, rfl, (ih (List.not_mem_of_not_mem_cons hdot)).mpr h⟩
      | itself _ _ hescape => cases hescape rfl
  | case3 rest ih =>
    constructor
    · rintro ⟨run, cs, rfl, -, hcs⟩
      rw [List.mem_append, not_or] at hdot
      exact .star run ((ih hdot.2).mp hcs)
    · intro h
      cases h with
      | star run h =>
        rw [List.mem_append, not_or] at hdot
        have hrun : ∀ c ∈ run, (CharClass.allBut '.').mem c = true := fun c hc =>
          CharClass.mem_allBut_iff.mpr fun h => hdot.1 (h ▸ hc)
        exact .cons hrun ((ih hdot.2).mpr h)
      | itself hstar => exact absurd rfl hstar
  | case4 rest ih =>
    constructor
    · rintro ⟨_, cs, rfl, ⟨c, rfl, -⟩, hcs⟩
      exact .question c ((ih (List.not_mem_of_not_mem_cons hdot)).mp hcs)
    · intro h
      cases h with
      | question c h =>
        rw [List.mem_cons, not_or] at hdot
        have hc := CharClass.mem_allBut_iff.mpr (Ne.symm hdot.1)
        exact .cons (a := [c]) ⟨c, rfl, hc⟩ ((ih hdot.2).mpr h)
      | itself _ hquestion => exact absurd rfl hquestion
  | case5 c rest hescape hstar hquestion ih =>
    rw [takesAll_only_iff]
    constructor
    · rintro ⟨cs, rfl, hcs⟩
      have hlast : c = '\\' → rest = [] := fun hc => by
        cases rest with
        | nil => rfl
        | cons d ds => exact (hescape d ds hc rfl).elim
      exact .itself hstar hquestion hlast ((ih (List.not_mem_of_not_mem_cons hdot)).mp hcs)
    · intro h
      cases h with
      | escaped d h => exact (hescape _ _ rfl rfl).elim
      | star => exact (hstar rfl).elim
      | question => exact (hquestion rfl).elim
      | itself _ _ _ h => exact ⟨_, rfl, (ih (List.not_mem_of_not_mem_cons hdot)).mpr h⟩

/-! ### Matching segments -/

variable [CharNames]

/-- A part without dots fits a segment on its own just if it matches it. -/
lemma fitsAlone_iff_matches (hbracket : '[' ∉ segment) (hdot : '.' ∉ segment)
    (hspan : isSpan segment = false) (hpart : '.' ∉ part) :
    FitsAlone segment part ↔ Matches segment part := by
  have hqs := (pieces_of_segment hdot hspan).mpr (read?_segmentText hbracket)
  rw [FitsAlone.takesAll_iff hqs, takesAll_segmentPieces_iff hpart]

/-- Names fit segments without brackets just if they match them. -/
lemma fills_iff_matchesSegments (hplain : ∀ segment ∈ segments, '[' ∉ segment ∧ '.' ∉ segment)
    (hparts : ∀ part ∈ parts, IsSegment part) :
    Fills segments parts ↔ MatchesSegments segments parts := by
  constructor
  · intro h
    induction h with
    | nil => exact .nil
    | span _ _ ih =>
      have hrest := ih (List.forall_mem_cons.mp hplain).2
      exact .span _ (hrest (List.forall_mem_append.mp hparts).2)
    | segment hspan halone _ ih =>
      obtain ⟨⟨hbracket, hdot⟩, hplain⟩ := List.forall_mem_cons.mp hplain
      obtain ⟨hpart, hparts⟩ := List.forall_mem_cons.mp hparts
      have hmatch := (fitsAlone_iff_matches hbracket hdot hspan hpart.notMem_dot).mp halone
      exact .segment (fun h => ne_true_of_eq_false hspan (isSpan_iff.mpr h)) hmatch
        (ih hplain hparts)
  · intro h
    induction h with
    | nil => exact .nil
    | span skipped _ ih =>
      obtain ⟨hskipped, hparts⟩ := List.forall_mem_append.mp hparts
      exact .span hskipped (ih (List.forall_mem_cons.mp hplain).2 hparts)
    | segment hspan hmatch _ ih =>
      obtain ⟨⟨hbracket, hdot⟩, hplain⟩ := List.forall_mem_cons.mp hplain
      obtain ⟨hpart, hparts⟩ := List.forall_mem_cons.mp hparts
      have hspan := eq_false_of_ne_true fun h => hspan (isSpan_iff.mp h)
      have halone := (fitsAlone_iff_matches hbracket hdot hspan hpart.notMem_dot).mpr hmatch
      exact .segment hspan halone (ih hplain hparts)

/-! ### Matching a name -/

section Whole

variable (hbracket : '[' ∉ glob) (hsplit : splitOn '.' glob = segment :: segments)
  (hspan : isSpan segment = false)
include hbracket hsplit hspan

omit hsplit hspan in
lemma dotlessAlone_of_noBracket : ∀ segment ∈ splitOn '.' glob, isSpan segment = false →
    DotlessAlone segment := by
  intro segment hmem hspan
  have hdot := notMem_of_mem_splitOn hmem
  have hread := read?_segmentText fun h => hbracket (mem_of_mem_splitOn hmem h)
  exact ⟨_, (pieces_of_segment hdot hspan).mpr hread, admitsDot_segmentPieces hdot⟩

/-- A glob without brackets whose first segment is no span is well formed. -/
lemma exists_pieces_of_noBracket : ∃ ps, pieces glob = .ok ps := by
  obtain ⟨_, _, -, -, hps⟩ := pieces_of_splitOn hsplit hspan fun segment hmem hspan =>
    (dotlessAlone_of_noBracket hbracket segment hmem hspan).imp fun _ h => h.1
  exact ⟨_, hps⟩

/-- A name fits a glob without brackets just if its segments match those of the glob. -/
lemma fits_iff_matchesSegments (hps : pieces glob = .ok ps)
    (hname : ∀ part ∈ splitOn '.' name, IsSegment part) :
    Piece.fits ps name = true ↔ MatchesSegments (splitOn '.' glob) (splitOn '.' name) := by
  have hplain : ∀ segment ∈ splitOn '.' glob, '[' ∉ segment ∧ '.' ∉ segment := fun _ hmem =>
    ⟨fun h => hbracket (mem_of_mem_splitOn hmem h), notMem_of_mem_splitOn hmem⟩
  rw [fits_iff_fills_splitOn hsplit hspan hps (dotlessAlone_of_noBracket hbracket),
    fills_iff_matchesSegments hplain hname]

end Whole

end ChatCommands.Glob
