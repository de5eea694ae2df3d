import ChatCommands.Proofs.Glob.Tree
import ChatCommands.Proofs.Glob.Wildcards
import Mathlib.Data.List.TakeWhile

/-!
# Expanding globs without brackets

A glob with a wildcard is expanded to the modules of the tree of its leading package that match it
segment by segment. No module outside of that tree could match.

Main statements: `expand_gives`, `expand_segmentwise`.
-/

namespace ChatCommands.Glob

variable {σ : Type} {entries : List Entry} {opens : String → Bool} {load : String → Act σ Unit}
  {source : String} {glob segment part : List Char} {segments parts : List (List Char)}
  {ps : List Piece}

/-- The segments at the start of a glob that are names. -/
def leading (glob : List Char) : List (List Char) := (splitOn '.' glob).takeWhile isName

/-- The package that a glob starts with. -/
def leadingPackage (glob : List Char) : String := String.ofList (dotted (leading glob))

/-! ### The leading package -/

lemma eq_of_matches_word (h : Matches segment part)
    (hword : ∀ c ∈ segment, Text.wordChars.mem c = true) : part = segment := by
  have hnot : ∀ c, Text.wordChars.mem c = false → ∀ segment : List Char,
      (∀ d ∈ c :: segment, Text.wordChars.mem d = true) → False := fun c hc _ hword =>
    Bool.false_ne_true (hc.symm.trans (hword c List.mem_cons_self))
  induction h with
  | nil => rfl
  | escaped => exact (hnot '\\' (by decide) _ hword).elim
  | star => exact (hnot '*' (by decide) _ hword).elim
  | question => exact (hnot '?' (by decide) _ hword).elim
  | itself _ _ _ _ ih => rw [ih (List.forall_mem_cons.mp hword).2]

lemma word_of_isName (h : isName segment = true) :
    ∀ c ∈ segment, Text.wordChars.mem c = true := by
  match segment with
  | [] => cases h
  | c :: cs =>
    rw [isName, Bool.and_eq_true] at h
    exact List.all_eq_true.mp h.2

/-- A glob with a wildcard has a segment that is no name. -/
lemma exists_not_isName {c : Char} (hc : c ∈ glob) (hdot : c ≠ '.')
    (hword : Text.wordChars.mem c = false) :
    ∃ segment ∈ splitOn '.' glob, isName segment = false := by
  obtain ⟨segment, hmem, hc⟩ := exists_mem_splitOn hc hdot
  refine ⟨segment, hmem, eq_false_of_ne_true fun hname => ?_⟩
  exact Bool.false_ne_true (hword.symm.trans (word_of_isName hname c hc))

lemma isSpan_of_isName (h : isName segment = true) : isSpan segment = false := by
  refine eq_false_of_ne_true fun hspan => ?_
  rw [isSpan_iff.mp hspan] at h
  exact absurd h (by decide)

/-- Segments that are names match themselves only. -/
lemma prefix_of_matchesSegments {names : List (List Char)}
    (hnames : ∀ name ∈ names, isName name = true)
    (h : MatchesSegments (names ++ segments) parts) : names <+: parts := by
  induction names generalizing parts with
  | nil => exact List.nil_prefix
  | cons name names ih =>
    obtain ⟨hname, hnames⟩ := List.forall_mem_cons.mp hnames
    cases h with
    | span => exact absurd hname (by decide)
    | segment _ hmatch h =>
      rw [eq_of_matches_word hmatch (word_of_isName hname)]
      exact List.prefix_cons_inj _ |>.mpr (ih hnames h)

/-- What matches a glob is in its leading package. -/
lemma leading_of_matchesSegments (h : MatchesSegments (splitOn '.' glob) parts) :
    leading glob <+: parts := by
  rw [← List.takeWhile_append_dropWhile (p := isName) (l := splitOn '.' glob)] at h
  exact prefix_of_matchesSegments (fun _ hmem => List.mem_takeWhile_imp hmem) h

/-! ### Expansion -/

section Expand

variable [CharNames] (hsplit : splitOn '.' glob = segment :: segments)
  (hname : isName segment = true) (hsource : Text.trim source.toList = glob)
  (hwild : ∃ segment ∈ splitOn '.' glob, isName segment = false)
include hsplit hname hsource hwild

lemma expand_gives (hps : pieces glob = .ok ps) (hopens : opens (leadingPackage glob) = true)
    (hload : Loads load opens (leadingPackage glob))
    (hloads : ∀ e ∈ entries, e.isPackage = true →
      InTree entries opens (leadingPackage glob) e.name → Loads load opens e.name) :
    (expand entries load (.text source)).Gives (sorted
      ((treeNames entries opens (leadingPackage glob)).filter fun name =>
        Piece.fits ps name.toList)) := by
  -- such a glob is not empty, not all of names and not without a name at its start
  have hglob : ¬glob.isEmpty = true := by
    intro hempty
    rw [List.isEmpty_iff.mp hempty] at hsplit
    obtain rfl := (List.cons.inj hsplit).1
    cases hname
  have hlength : ¬(leading glob).length = (splitOn '.' glob).length := by
    intro hlength
    obtain ⟨other, hmem, hother⟩ := hwild
    have hall := (List.takeWhile_prefix isName).eq_of_length hlength
    exact Bool.false_ne_true (hother.symm.trans (List.takeWhile_eq_self_iff.mp hall other hmem))
  have hleading : ¬(leading glob).isEmpty = true := by
    rw [leading, hsplit, List.takeWhile_cons_of_pos hname]
    exact Bool.false_ne_true
  unfold expand
  simp only [hsource, ← leading.eq_1]
  rw [if_neg hglob, if_neg hlength, if_neg hleading]
  simp only [← leadingPackage.eq_1, ← isPackageName.eq_1]
  refine .bind hload ?_
  rw [hopens, hps]
  refine .bind (x := ps) (fun s => ⟨s, rfl⟩) ?_
  rw [treeNames]
  split
  case isTrue hpackage =>
    have htree := isPackageName_iff.mp hpackage
    exact .bind (walk_gives fun e he h hbelow => hloads e he h (Or.inr ⟨htree, hbelow⟩)) (.pure _)
  case isFalse => exact .pure _

end Expand

/-- The names that a glob means, among those of the tree of its leading package. -/
structure IsExpansion (entries : List Entry) (opens : String → Bool) (glob : List Char)
    (names : List String) : Prop where
  sorted : names.Pairwise (· ≤ ·)
  nodup : names.Nodup
  mem_iff : ∀ name, name ∈ names ↔ InTree entries opens (leadingPackage glob) name ∧
    MatchesSegments (splitOn '.' glob) (splitOn '.' name.toList)

/-- A glob without brackets that starts with a name means its segments: a name fits it just if their
segments match, every name that matches is in its leading package, and if a segment is no name, as
one with a wildcard is none, it expands to the modules of the tree of that package that match. -/
theorem expand_segmentwise [CharNames] (hbracket : '[' ∉ glob)
    (hsplit : splitOn '.' glob = segment :: segments) (hname : isName segment = true) :
    (∃ ps, pieces glob = .ok ps ∧ ∀ name, (∀ part ∈ splitOn '.' name, IsSegment part) →
      (Piece.fits ps name = true ↔ MatchesSegments (splitOn '.' glob) (splitOn '.' name))) ∧
    (∀ parts, MatchesSegments (splitOn '.' glob) parts → leading glob <+: parts) ∧
    ∀ {σ : Type} (entries : List Entry) (opens : String → Bool) (load : String → Act σ Unit)
      (source : String), Text.trim source.toList = glob →
      (∃ segment ∈ splitOn '.' glob, isName segment = false) →
      opens (leadingPackage glob) = true → Loads load opens (leadingPackage glob) →
      (∀ e ∈ entries, e.isPackage = true → InTree entries opens (leadingPackage glob) e.name →
        Loads load opens e.name) →
      (∀ name, InTree entries opens (leadingPackage glob) name →
        ∀ part ∈ splitOn '.' name.toList, IsSegment part) →
      ∃ names, (expand entries load (.text source)).Gives names ∧
        IsExpansion entries opens glob names := by
  have hspan := isSpan_of_isName hname
  obtain ⟨ps, hps⟩ := exists_pieces_of_noBracket hbracket hsplit hspan
  have hfits : ∀ name, (∀ part ∈ splitOn '.' name, IsSegment part) →
      (Piece.fits ps name = true ↔ MatchesSegments (splitOn '.' glob) (splitOn '.' name)) :=
    fun _ => fits_iff_matchesSegments hbracket hsplit hspan hps
  refine ⟨⟨ps, hps, hfits⟩, fun parts => leading_of_matchesSegments, ?_⟩
  intro σ entries opens load source hsource hwild hopens hload hloads htree
  refine ⟨_, expand_gives hsplit hname hsource hwild hps hopens hload hloads,
    pairwise_sorted _, nodup_sorted _, fun name => ?_⟩
  rw [mem_sorted, List.mem_filter, mem_treeNames_iff]
  exact and_congr_right fun h => hfits _ (htree name h)

/-- A module in a package in a package. -/
def nested : List Entry := [⟨"b", true⟩, ⟨"b.u", true⟩, ⟨"b.u.x1", false⟩]

/-- A segment of two stars reaches into the packages of a package. -/
theorem expand_segmentwise_nested : letI := CharNames.unknown
    ∃ names, (expand nested (fun _ => pure () : String → Act Unit Unit) (.text "b.**.x?")).Gives
      names ∧ "b.u.x1" ∈ names := by
  let _ : CharNames := .unknown
  have htree : ∀ name, InTree nested (fun _ => true) (leadingPackage "b.**.x?".toList) name ↔
      name ∈ ["b", "b.u", "b.u.x1"] := by
    intro name
    have hnames : treeNames nested (fun _ => true) (leadingPackage "b.**.x?".toList) =
        ["b", "b.u", "b.u.x1"] := by decide +kernel
    rw [← mem_treeNames_iff, hnames]
  have hsegments : ∀ name ∈ ["b", "b.u", "b.u.x1"],
      ∀ part ∈ splitOn '.' name.toList, IsSegment part := by decide
  have hbracket : '[' ∉ "b.**.x?".toList := by decide
  have hstar : '*' ∈ "b.**.x?".toList := by decide
  have hwild := exists_not_isName hstar (by decide) (by decide)
  obtain ⟨names, hgives, hnames⟩ := (expand_segmentwise hbracket rfl (by decide)).2.2 nested
    (fun _ => true) (fun _ => pure () : String → Act Unit Unit) "b.**.x?" (by decide) hwild rfl
    (fun s => ⟨s, rfl⟩) (fun _ _ _ _ s => ⟨s, rfl⟩)
    fun name h => hsegments name ((htree name).mp h)
  have hb : Matches ['b'] ['b'] := .itself (by decide) (by decide) (by decide) .nil
  have hx : Matches ['x', '?'] ['x', '1'] :=
    .itself (by decide) (by decide) (by decide) (.question '1' .nil)
  have hmatch : MatchesSegments [['b'], ['*', '*'], ['x', '?']] [['b'], ['u'], ['x', '1']] :=
    .segment (by decide) hb (.span [['u']] (.segment (by decide) hx .nil))
  exact ⟨names, hgives, (hnames.mem_iff "b.u.x1").mpr ⟨(htree _).mpr (by decide), hmatch⟩⟩

end ChatCommands.Glob
