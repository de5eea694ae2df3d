import ChatCommands.Proofs.Pattern.Outcome
import ChatCommands.Proofs.Pattern.Plain
import Mathlib.Data.List.Basic

/-!
# Reading a text along a usage

A text can be matched directly with the tree of a usage. A placeholder takes the longest word, a
literal its text, a trailing placeholder all the rest; an optional part is tried before it is
skipped, and alternatives in their order. Between two parts that are there, one run of blanks is
taken as a whole.

Main statement: `captures_eq_firstReading`. Where no part of a usage that may be empty stands in
another optional part or in alternatives, a pattern captures what the first such reading of the
whole text captures.
-/

namespace ChatCommands

namespace Pattern

/-! ### Readings -/

/-- What follows the blanks at the front of a text, of which there has to be one. -/
def afterGap? : List Char → Option (List Char)
  | [] => none
  | c :: cs => if Text.isBlank c then some (Text.trimStart (c :: cs)) else none

/-- The longest value of a shape at the front of a text, and what follows it. -/
def Shape.longest? : Shape → List Char → Option (List Char × List Char)
  | .word, cs =>
    match cs.takeWhile Text.isSolid with
    | [] => none
    | v => some (v, cs.dropWhile Text.isSolid)
  | .rest, cs => if cs.isEmpty then none else some (cs, [])
  | .exact text, cs =>
    if text.toList.isPrefixOf cs then some (text.toList, cs.drop text.toList.length) else none

/-- The reading of a field at the front of a text. -/
def Field.readings (f : Field) (cs : List Char) : List Outcome :=
  (f.shape.longest? cs).toList.map fun p => ⟨[⟨f.slot, String.ofList p.1⟩], p.2⟩

namespace Form

mutual
/-- The readings of a form at the front of a text, in the order in which they are tried; `after`
tells that another part was read before, so that a gap has to come first. -/
def readings : Form → (after : Bool) → List Char → List Outcome
  | field f, false, cs => f.readings cs
  | field f, true, cs => (afterGap? cs).elim [] f.readings
  | sequence parts, after, cs => readingsOfSequence parts after cs
  | alternatives branches, after, cs => readingsOfBranches branches after cs
  | optional body, after, cs => readings body after cs ++ [⟨[], cs⟩]

/-- The readings of forms one after another. -/
def readingsOfSequence : List Form → (after : Bool) → List Char → List Outcome
  | [], _, cs => [⟨[], cs⟩]
  | f :: fs, after, cs => (readings f after cs).flatMap fun o =>
    (readingsOfSequence fs (after || !o.captures.isEmpty) o.rest).map fun o' =>
      ⟨o.captures ++ o'.captures, o'.rest⟩

/-- The readings of one of several forms. -/
def readingsOfBranches : List Form → (after : Bool) → List Char → List Outcome
  | [], _, _ => []
  | f :: fs, after, cs => readings f after cs ++ readingsOfBranches fs after cs
end

/-! ### What readings capture and leave -/

mutual
/-- Only a form that may be empty is read without captures. -/
lemma captures_ne_nil {f : Form} {after : Bool} {cs : List Char} {o : Outcome}
    (hf : f.nullable = false) (h : o ∈ f.readings after cs) : o.captures ≠ [] := by
  match f with
  | .field f =>
    have hfield : ∀ cs, o ∈ f.readings cs → o.captures ≠ [] := by
      intro cs h
      obtain ⟨p, -, rfl⟩ := List.mem_map.mp h
      exact List.cons_ne_nil _ _
    cases after with
    | false => exact hfield cs h
    | true =>
      rw [readings] at h
      cases hgap : afterGap? cs with
      | none => simp [hgap] at h
      | some rest =>
        rw [hgap] at h
        exact hfield rest h
  | .sequence ps => exact captures_ne_nil_of_sequence hf h
  | .alternatives bs => exact captures_ne_nil_of_branches hf h
  | .optional b => cases hf

lemma captures_ne_nil_of_sequence {fs : List Form} {after : Bool} {cs : List Char} {o : Outcome}
    (hfs : allNullable fs = false) (h : o ∈ readingsOfSequence fs after cs) :
    o.captures ≠ [] := by
  match fs with
  | [] => cases hfs
  | f :: fs =>
    rw [readingsOfSequence, List.mem_flatMap] at h
    obtain ⟨o₁, h₁, h⟩ := h
    obtain ⟨o₂, h₂, rfl⟩ := List.mem_map.mp h
    rw [allNullable, Bool.and_eq_false_iff] at hfs
    intro hnil
    obtain ⟨hnil₁, hnil₂⟩ := List.append_eq_nil_iff.mp hnil
    rcases hfs with hf | hfs
    · exact captures_ne_nil hf h₁ hnil₁
    · exact captures_ne_nil_of_sequence hfs h₂ hnil₂

lemma captures_ne_nil_of_branches {fs : List Form} {after : Bool} {cs : List Char} {o : Outcome}
    (hfs : anyNullable fs = false) (h : o ∈ readingsOfBranches fs after cs) :
    o.captures ≠ [] := by
  match fs with
  | [] => exact absurd h List.not_mem_nil
  | f :: fs =>
    rw [anyNullable, Bool.or_eq_false_iff] at hfs
    rcases List.mem_append.mp h with h | h
    · exact captures_ne_nil hfs.1 h
    · exact captures_ne_nil_of_branches hfs.2 h
end

lemma afterGap?_suffix {cs rest : List Char} (h : afterGap? cs = some rest) : rest <:+ cs := by
  cases cs with
  | nil => cases h
  | cons c cs =>
    rw [afterGap?] at h
    split at h
    · cases h
      exact List.dropWhile_suffix _
    · cases h

lemma suffix_of_mem_field {f : Field} {cs : List Char} {o : Outcome} (h : o ∈ f.readings cs) :
    o.rest <:+ cs := by
  obtain ⟨p, hp, rfl⟩ := List.mem_map.mp h
  rw [Option.mem_toList] at hp
  match hshape : f.shape with
  | .word =>
    rw [hshape, Shape.longest?] at hp
    split at hp <;> cases hp
    exact List.dropWhile_suffix _
  | .rest =>
    rw [hshape, Shape.longest?] at hp
    split at hp <;> cases hp
    exact List.nil_suffix
  | .exact text =>
    rw [hshape, Shape.longest?] at hp
    split at hp <;> cases hp
    exact List.drop_suffix _ _

mutual
/-- A reading leaves an end of the text. -/
lemma rest_suffix (f : Form) {after : Bool} {cs : List Char} {o : Outcome}
    (h : o ∈ f.readings after cs) : o.rest <:+ cs := by
  match f, after with
  | .field f, false => exact suffix_of_mem_field h
  | .field f, true =>
    rw [readings] at h
    cases hgap : afterGap? cs with
    | none => simp [hgap] at h
    | some rest =>
      rw [hgap] at h
      exact (suffix_of_mem_field h).trans (afterGap?_suffix hgap)
  | .sequence ps, after => exact rest_suffix_of_sequence ps h
  | .alternatives bs, after => exact rest_suffix_of_branches bs h
  | .optional b, after =>
    rw [readings, List.mem_append, List.mem_singleton] at h
    rcases h with h | rfl
    · exact rest_suffix b h
    · exact List.suffix_refl _

lemma rest_suffix_of_sequence (fs : List Form) {after : Bool} {cs : List Char} {o : Outcome}
    (h : o ∈ readingsOfSequence fs after cs) : o.rest <:+ cs := by
  match fs with
  | [] =>
    obtain rfl := List.mem_singleton.mp h
    exact List.suffix_refl _
  | f :: fs =>
    rw [readingsOfSequence, List.mem_flatMap] at h
    obtain ⟨o₁, h₁, h⟩ := h
    obtain ⟨o₂, h₂, rfl⟩ := List.mem_map.mp h
    exact (rest_suffix_of_sequence fs h₂).trans (rest_suffix f h₁)

lemma rest_suffix_of_branches (fs : List Form) {after : Bool} {cs : List Char} {o : Outcome}
    (h : o ∈ readingsOfBranches fs after cs) : o.rest <:+ cs := by
  match fs with
  | [] => exact absurd h List.not_mem_nil
  | f :: fs =>
    rcases List.mem_append.mp h with h | h
    · exact rest_suffix f h
    · exact rest_suffix_of_branches fs h
end

/-! ### Going on after a reading -/

variable {next : List Char → Option (List Capture)} {after : Bool} {cs : List Char}

lemma first_optional (b : Form) : first ((optional b).readings after cs) next =
    (first (b.readings after cs) next).or (next cs) := by
  rw [readings, first_append, first_skip]

lemma readingsOfSequence_single (f : Form) :
    readingsOfSequence [f] after cs = f.readings after cs := by
  simp [readingsOfSequence]

/-- After a form that captures something, the next one stands behind a gap. -/
lemma readingsOfSequence_required {f : Form} (hf : f.nullable = false) (fs : List Form) :
    readingsOfSequence (f :: fs) after cs = (f.readings after cs).flatMap fun o =>
      (readingsOfSequence fs true o.rest).map fun o' =>
        ⟨o.captures ++ o'.captures, o'.rest⟩ := by
  rw [readingsOfSequence]
  refine List.flatMap_congr fun o ho => ?_
  have hne : o.captures.isEmpty = false := by simpa using captures_ne_nil hf ho
  rw [hne, Bool.not_false, Bool.or_true]

/-- After an optional form that is skipped, the next one stands where it did. -/
lemma readingsOfSequence_skippable (b : Form) (fs : List Form) :
    readingsOfSequence (optional b :: fs) after cs =
      readingsOfSequence (b :: fs) after cs ++ readingsOfSequence fs after cs := by
  rw [readingsOfSequence, readings, List.flatMap_append, readingsOfSequence]
  simp

lemma first_required {f : Form} (hf : f.nullable = false) (fs : List Form) :
    first (readingsOfSequence (f :: fs) after cs) next =
      first (f.readings after cs) fun rest => first (readingsOfSequence fs true rest) next := by
  rw [readingsOfSequence_required hf]
  exact first_flatMap fun o _ => rfl

lemma first_skippable {b : Form} (hb : b.nullable = false) (fs : List Form) :
    first (readingsOfSequence (optional b :: fs) after cs) next =
      (first (b.readings after cs) fun rest => first (readingsOfSequence fs true rest) next).or
        (first (readingsOfSequence fs after cs) next) := by
  rw [readingsOfSequence_skippable, first_append, first_required hb]

/-! ### Readings behind a gap -/

lemma Field.readings_nil {f : Field} (h : (field f).Plain) : f.readings [] = [] := by
  match hshape : f.shape with
  | .word => simp [Field.readings, hshape, Shape.longest?]
  | .rest => simp [Field.readings, hshape, Shape.longest?]
  | .exact text =>
    have hne := (h text hshape).1
    simp [Field.readings, hshape, Shape.longest?, hne]

mutual
/-- A form that captures something cannot be read at the end of the text. -/
lemma readings_nil {f : Form} (hplain : ∀ g ∈ f.walk, g.Plain) (hf : f.nullable = false) :
    f.readings false [] = [] := by
  match f with
  | .field f => exact Field.readings_nil (hplain _ (self_mem_walk _))
  | .sequence ps =>
    exact readings_nil_of_sequence (fun g hg => hplain g (List.mem_cons_of_mem _ hg))
      (hplain _ (self_mem_walk _)) hf
  | .alternatives bs =>
    exact readings_nil_of_branches (fun g hg => hplain g (List.mem_cons_of_mem _ hg)) hf
  | .optional b => cases hf

lemma readings_nil_of_sequence {fs : List Form} (hplain : ∀ g ∈ walkAll fs, g.Plain)
    (hflat : ∀ f ∈ fs, f.isSequence = false) (hfs : allNullable fs = false) :
    readingsOfSequence fs false [] = [] := by
  match fs with
  | [] => cases hfs
  | f :: fs =>
    have hf := hplain f (List.mem_append_left _ (self_mem_walk f))
    rcases required_or_optional hf (hflat f List.mem_cons_self) with hreq | ⟨b, rfl, hb⟩
    · have hnil := readings_nil (fun g hg => hplain g (List.mem_append_left _ hg)) hreq
      rw [readingsOfSequence, hnil, List.flatMap_nil]
    · have hnil := readings_nil (f := b)
        (fun g hg => hplain g (List.mem_append_left _ (List.mem_cons_of_mem _ hg))) hb
      rw [readingsOfSequence_skippable, readingsOfSequence, hnil, List.flatMap_nil,
        List.nil_append]
      exact readings_nil_of_sequence (fun g hg => hplain g (List.mem_append_right _ hg))
        (fun g hg => hflat g (List.mem_cons_of_mem _ hg)) hfs

lemma readings_nil_of_branches {fs : List Form} (hplain : ∀ g ∈ walkAll fs, g.Plain)
    (hfs : anyNullable fs = false) : readingsOfBranches fs false [] = [] := by
  match fs with
  | [] => rfl
  | f :: fs =>
    rw [anyNullable, Bool.or_eq_false_iff] at hfs
    rw [readingsOfBranches, readings_nil (fun g hg => hplain g (List.mem_append_left _ hg)) hfs.1,
      readings_nil_of_branches (fun g hg => hplain g (List.mem_append_right _ hg)) hfs.2,
      List.append_nil]
end

mutual
/-- Behind another part, a form that captures something is read behind a gap. -/
lemma readings_gap {f : Form} (hplain : ∀ g ∈ f.walk, g.Plain) (hf : f.nullable = false)
    (cs : List Char) : f.readings true cs = (afterGap? cs).elim [] (f.readings false) := by
  match f with
  | .field f => rfl
  | .sequence ps =>
    exact readings_gap_of_sequence (fun g hg => hplain g (List.mem_cons_of_mem _ hg))
      (hplain _ (self_mem_walk _)) hf cs
  | .alternatives bs =>
    exact readings_gap_of_branches (fun g hg => hplain g (List.mem_cons_of_mem _ hg)) hf cs
  | .optional b => cases hf

lemma readings_gap_of_sequence {fs : List Form} (hplain : ∀ g ∈ walkAll fs, g.Plain)
    (hflat : ∀ f ∈ fs, f.isSequence = false) (hfs : allNullable fs = false) (cs : List Char) :
    readingsOfSequence fs true cs = (afterGap? cs).elim [] (readingsOfSequence fs false) := by
  match fs with
  | [] => cases hfs
  | f :: fs =>
    have hf := hplain f (List.mem_append_left _ (self_mem_walk f))
    rcases required_or_optional hf (hflat f List.mem_cons_self) with hreq | ⟨b, rfl, hb⟩
    · have hgap := readings_gap (fun g hg => hplain g (List.mem_append_left _ hg)) hreq cs
      rw [readingsOfSequence_required hreq, hgap]
      cases afterGap? cs with
      | none => rfl
      | some rest =>
        rw [Option.elim_some, Option.elim_some, readingsOfSequence_required hreq]
    · have hgap := readings_gap (f := b)
        (fun g hg => hplain g (List.mem_append_left _ (List.mem_cons_of_mem _ hg))) hb cs
      have ih := readings_gap_of_sequence (fun g hg => hplain g (List.mem_append_right _ hg))
        (fun g hg => hflat g (List.mem_cons_of_mem _ hg)) hfs cs
      rw [readingsOfSequence_skippable, readingsOfSequence_required hb, hgap, ih]
      cases afterGap? cs with
      | none => rfl
      | some rest =>
        rw [Option.elim_some, Option.elim_some, Option.elim_some, readingsOfSequence_skippable,
          readingsOfSequence_required hb]

lemma readings_gap_of_branches {fs : List Form} (hplain : ∀ g ∈ walkAll fs, g.Plain)
    (hfs : anyNullable fs = false) (cs : List Char) :
    readingsOfBranches fs true cs = (afterGap? cs).elim [] (readingsOfBranches fs false) := by
  match fs with
  | [] => cases afterGap? cs <;> rfl
  | f :: fs =>
    rw [anyNullable, Bool.or_eq_false_iff] at hfs
    rw [readingsOfBranches, readings_gap (fun g hg => hplain g (List.mem_append_left _ hg)) hfs.1,
      readings_gap_of_branches (fun g hg => hplain g (List.mem_append_right _ hg)) hfs.2]
    cases afterGap? cs <;> rfl
end

/-! ### Shorter runs of blanks -/

/-- Whether nothing can go on in front of a word. -/
def Stops (next : List Char → Option (List Capture)) : Prop :=
  ∀ c cs, Text.isSolid c → next (c :: cs) = none

/-- Whether nothing can go on before the end. -/
def Ends (next : List Char → Option (List Capture)) : Prop :=
  ∀ c cs, next (c :: cs) = none

lemma Ends.stops (h : Ends next) : Stops next := fun c cs _ => h c cs

/-- A field that cannot be read behind all blanks cannot be read before the last of them. -/
lemma Field.dominated {f : Field} {c : Char} (hf : (field f).Plain) (hc : Text.isBlank c)
    (hcs : Text.EndsSolid (c :: cs))
    (h : first (f.readings (Text.trimStart (c :: cs))) next = none) :
    first (f.readings (c :: cs)) next = none := by
  match hshape : f.shape with
  | .word => simp [Field.readings, hshape, Shape.longest?, Text.isSolid, hc]
  | .exact text =>
    obtain ⟨hne, htrim⟩ := hf text hshape
    have hprefix : ¬text.toList <+: c :: cs := by
      rintro ⟨rest, heq⟩
      cases hlist : text.toList with
      | nil => exact hne (String.toList_eq_nil_iff.mp hlist)
      | cons d ds =>
        rw [hlist] at heq htrim
        obtain ⟨rfl, -⟩ := List.cons.inj heq
        rw [htrim.head d rfl] at hc
        cases hc
    simp [Field.readings, hshape, Shape.longest?, hprefix]
  | .rest =>
    have hne := hcs.trimStart_ne_nil (List.cons_ne_nil c cs)
    simpa [Field.readings, hshape, Shape.longest?, first, hne] using h

mutual
/-- The same of a form that captures something. -/
lemma dominated {next : List Char → Option (List Capture)} {f : Form} {c : Char} {cs : List Char}
    (hplain : ∀ g ∈ f.walk, g.Plain) (hf : f.nullable = false)
    (hc : Text.isBlank c) (hcs : Text.EndsSolid (c :: cs))
    (h : first (f.readings false (Text.trimStart (c :: cs))) next = none) :
    first (f.readings false (c :: cs)) next = none := by
  match f with
  | .field f => exact Field.dominated (hplain _ (self_mem_walk _)) hc hcs h
  | .sequence ps =>
    exact dominated_of_sequence (fun g hg => hplain g (List.mem_cons_of_mem _ hg))
      (hplain _ (self_mem_walk _)) (Or.inl hf) hc hcs h
  | .alternatives bs =>
    exact dominated_of_branches (fun g hg => hplain g (List.mem_cons_of_mem _ hg)) hf hc hcs h
  | .optional b => cases hf

lemma dominated_of_sequence {next : List Char → Option (List Capture)} {fs : List Form} {c : Char}
    {cs : List Char} (hplain : ∀ g ∈ walkAll fs, g.Plain)
    (hflat : ∀ f ∈ fs, f.isSequence = false) (hfs : allNullable fs = false ∨ Ends next)
    (hc : Text.isBlank c) (hcs : Text.EndsSolid (c :: cs))
    (h : first (readingsOfSequence fs false (Text.trimStart (c :: cs))) next = none) :
    first (readingsOfSequence fs false (c :: cs)) next = none := by
  match fs with
  | [] =>
    rcases hfs with hfs | hends
    · cases hfs
    · rw [readingsOfSequence, first_skip]
      exact hends c cs
  | f :: fs =>
    have hf := hplain f (List.mem_append_left _ (self_mem_walk f))
    rcases required_or_optional hf (hflat f List.mem_cons_self) with hreq | ⟨b, rfl, hb⟩
    · rw [first_required hreq] at h ⊢
      exact dominated (fun g hg => hplain g (List.mem_append_left _ hg)) hreq hc hcs h
    · rw [first_skippable hb, Option.or_eq_none_iff] at h ⊢
      refine ⟨dominated (fun g hg => ?_) hb hc hcs h.1, ?_⟩
      · exact hplain g (List.mem_append_left _ (List.mem_cons_of_mem _ hg))
      · exact dominated_of_sequence (fun g hg => hplain g (List.mem_append_right _ hg))
          (fun g hg => hflat g (List.mem_cons_of_mem _ hg)) hfs hc hcs h.2

lemma dominated_of_branches {next : List Char → Option (List Capture)} {fs : List Form} {c : Char}
    {cs : List Char} (hplain : ∀ g ∈ walkAll fs, g.Plain)
    (hfs : anyNullable fs = false) (hc : Text.isBlank c) (hcs : Text.EndsSolid (c :: cs))
    (h : first (readingsOfBranches fs false (Text.trimStart (c :: cs))) next = none) :
    first (readingsOfBranches fs false (c :: cs)) next = none := by
  match fs with
  | [] => rfl
  | f :: fs =>
    rw [anyNullable, Bool.or_eq_false_iff] at hfs
    rw [readingsOfBranches, first_append, Option.or_eq_none_iff] at h ⊢
    exact ⟨dominated (fun g hg => hplain g (List.mem_append_left _ hg)) hfs.1 hc hcs h.1,
      dominated_of_branches (fun g hg => hplain g (List.mem_append_right _ hg)) hfs.2 hc hcs h.2⟩
end

end Form

/-! ### Boundaries -/

section
variable {β : Type} {cs : List Char} {go go' : List Char → Option β}

lemma afterBoundary_suffix {rest : List Char} (h : rest ∈ afterBoundary cs) : rest <:+ cs := by
  rcases mem_afterBoundary.mp h with ⟨gap, rfl, -⟩ | ⟨rfl, rfl⟩
  · exact List.suffix_append gap rest
  · exact List.suffix_refl _

lemma findSome?_congr {α : Type} {l : List α} {g g' : α → Option β} (h : ∀ a ∈ l, g a = g' a) :
    l.findSome? g = l.findSome? g' := by
  induction l with
  | nil => rfl
  | cons a l ih =>
    rw [List.findSome?_cons, List.findSome?_cons, h a List.mem_cons_self,
      ih fun b hb => h b (List.mem_cons_of_mem _ hb)]

/-- If what fails behind all blanks fails before the last of them, a boundary takes all blanks. -/
lemma findSome?_afterBoundary (hcs : Text.EndsSolid cs) (hne : cs ≠ [])
    (h : ∀ c cs, Text.isBlank c → Text.EndsSolid (c :: cs) →
      go (Text.trimStart (c :: cs)) = none → go (c :: cs) = none) :
    (afterBoundary cs).findSome? go = (afterGap? cs).bind go := by
  match cs with
  | [] => exact absurd rfl hne
  | c :: cs =>
    rw [afterGap?]
    by_cases hc : Text.isBlank c
    · have hsplit : (c :: cs).takeWhile Text.isBlank ++ Text.trimStart (c :: cs) = c :: cs :=
        List.takeWhile_append_dropWhile
      have hgap : (c :: cs).takeWhile Text.isBlank ≠ [] := by simp [hc]
      have hblank : ∀ d ∈ (c :: cs).takeWhile Text.isBlank, Text.isBlank d :=
        fun d hd => List.mem_takeWhile_imp hd
      rw [if_pos hc, Option.bind_some, afterBoundary, List.findSome?_append, List.findSome?_map,
        List.isEmpty_cons, if_neg Bool.false_ne_true, List.findSome?_nil, Option.or_none]
      generalize (c :: cs).takeWhile Text.isBlank = gap at hsplit hgap hblank ⊢
      generalize hrest : Text.trimStart (c :: cs) = rest at hsplit ⊢
      rw [← hsplit] at hrest hcs ⊢
      refine findSome?_cuts hgap fun hnone v₁ d v₂ _ hv => ?_
      subst hv
      have hd : ∀ e ∈ d :: v₂, Text.isBlank e := fun e he =>
        hblank e (List.mem_append_right _ he)
      refine h d _ (hd d List.mem_cons_self) ?_ ?_
      · rw [List.append_assoc] at hcs
        exact hcs.of_append
      · rw [Text.trimStart_append hblank] at hrest
        rwa [← List.cons_append, Text.trimStart_append hd, hrest]
    · simp [afterBoundary, hc, cuts]

end

namespace Form

variable {next : List Char → Option (List Capture)} {cs : List Char}

/-- Behind a boundary a form that captures something is read behind the gap. -/
lemma findSome?_boundary {f : Form} (hplain : ∀ g ∈ f.walk, g.Plain) (hf : f.nullable = false)
    (hcs : Text.EndsSolid cs) :
    (afterBoundary cs).findSome? (fun rest => first (f.readings false rest) next) =
      first (f.readings true cs) next := by
  rw [readings_gap hplain hf]
  cases cs with
  | nil => simp [afterBoundary, cuts, afterGap?, readings_nil hplain hf]
  | cons c cs =>
    rw [findSome?_afterBoundary hcs (List.cons_ne_nil c cs) fun d ds hd hds h =>
      dominated hplain hf hd hds h]
    cases afterGap? (c :: cs) <;> rfl

/-- At the end of the text it does not matter whether a gap has to come first. -/
lemma first_sequence_nil {fs : List Form} (hplain : ∀ g ∈ walkAll fs, g.Plain)
    (hflat : ∀ f ∈ fs, f.isSequence = false) :
    first (readingsOfSequence fs true []) next = first (readingsOfSequence fs false []) next := by
  induction fs with
  | nil => rfl
  | cons f fs ih =>
    have hf := hplain f (List.mem_append_left _ (self_mem_walk f))
    have hgap : ∀ f : Form, (∀ g ∈ f.walk, g.Plain) → f.nullable = false →
        f.readings true [] = f.readings false [] := by
      intro f hplain hf
      rw [readings_gap hplain hf, readings_nil hplain hf]
      rfl
    rcases required_or_optional hf (hflat f List.mem_cons_self) with hreq | ⟨b, rfl, hb⟩
    · rw [first_required hreq, first_required hreq,
        hgap f (fun g hg => hplain g (List.mem_append_left _ hg)) hreq]
    · rw [first_skippable hb, first_skippable hb, ih
        (fun g hg => hplain g (List.mem_append_right _ hg))
        (fun g hg => hflat g (List.mem_cons_of_mem _ hg)),
        hgap b (fun g hg => hplain g (List.mem_append_left _ (List.mem_cons_of_mem _ hg))) hb]

/-- A sequence that captures something, or that ends the text, is read behind the gap. -/
lemma first_sequence_gap {fs : List Form} (hplain : ∀ g ∈ walkAll fs, g.Plain)
    (hflat : ∀ f ∈ fs, f.isSequence = false) (hfs : allNullable fs = false ∨ Ends next)
    (hcs : Text.EndsSolid cs) (hne : cs ≠ []) :
    first (readingsOfSequence fs true cs) next =
      (afterGap? cs).bind fun rest => first (readingsOfSequence fs false rest) next := by
  induction fs with
  | nil =>
    rcases hfs with hfs | hends
    · cases hfs
    · have hnone : ∀ cs : List Char, cs ≠ [] → next cs = none := by
        intro cs hne
        cases cs with
        | nil => exact absurd rfl hne
        | cons c cs => exact hends c cs
      simp only [readingsOfSequence, first_skip, hnone cs hne]
      cases cs with
      | nil => exact absurd rfl hne
      | cons c cs =>
        rw [afterGap?]
        split
        · exact (hnone _ (hcs.trimStart_ne_nil hne)).symm
        · rfl
  | cons f fs ih =>
    have hf := hplain f (List.mem_append_left _ (self_mem_walk f))
    rcases required_or_optional hf (hflat f List.mem_cons_self) with hreq | ⟨b, rfl, hb⟩
    · simp only [first_required hreq,
        readings_gap (fun g hg => hplain g (List.mem_append_left _ hg)) hreq]
      cases afterGap? cs <;> rfl
    · have ih := ih (fun g hg => hplain g (List.mem_append_right _ hg))
        (fun g hg => hflat g (List.mem_cons_of_mem _ hg)) hfs
      simp only [first_skippable hb, ih, readings_gap (f := b)
        (fun g hg => hplain g (List.mem_append_left _ (List.mem_cons_of_mem _ hg))) hb]
      cases afterGap? cs <;> rfl

/-- Behind a boundary such a sequence is read behind the gap. -/
lemma findSome?_boundary_sequence {fs : List Form} (hplain : ∀ g ∈ walkAll fs, g.Plain)
    (hflat : ∀ f ∈ fs, f.isSequence = false) (hfs : allNullable fs = false ∨ Ends next)
    (hcs : Text.EndsSolid cs) :
    (afterBoundary cs).findSome? (fun rest => first (readingsOfSequence fs false rest) next) =
      first (readingsOfSequence fs true cs) next := by
  cases cs with
  | nil => simp [afterBoundary, cuts, first_sequence_nil hplain hflat]
  | cons c cs =>
    rw [first_sequence_gap hplain hflat hfs hcs (List.cons_ne_nil c cs)]
    exact findSome?_afterBoundary hcs (List.cons_ne_nil c cs) fun d ds hd hds h =>
      dominated_of_sequence hplain hflat hfs hd hds h

/-! ### A pattern captures what the first reading captures -/

/-- A field takes its longest value, since nothing can go on before that one. -/
lemma first_field (f : Field) (hstops : Stops next)
    (hends : f.shape = .rest → Ends next) :
    (field f).expr.first next cs = first (f.readings cs) next := by
  rw [expr_field, Expr.first_capture, Field.readings]
  match hshape : f.shape with
  | .exact text =>
    rw [Shape.takes, Shape.longest?]
    split <;> simp [first]
  | .word =>
    rw [Shape.takes, Shape.longest?]
    have hsplit : cs.takeWhile Text.isSolid ++ cs.dropWhile Text.isSolid = cs :=
      List.takeWhile_append_dropWhile
    have hsolid : ∀ c ∈ cs.takeWhile Text.isSolid, Text.isSolid c :=
      fun c hc => List.mem_takeWhile_imp hc
    generalize cs.takeWhile Text.isSolid = v at hsplit hsolid ⊢
    generalize cs.dropWhile Text.isSolid = rest at hsplit ⊢
    subst hsplit
    cases v with
    | nil => rfl
    | cons c v =>
      rw [findSome?_cuts (List.cons_ne_nil c v) fun _ v₁ d v₂ _ heq => ?_]
      · simp [first]
      · rw [hstops d _ (hsolid d (heq ▸ List.mem_append_right _ List.mem_cons_self))]
        rfl
  | .rest =>
    rw [Shape.takes, Shape.longest?]
    cases cs with
    | nil => rfl
    | cons c cs =>
      have hcuts : (cuts ((c :: cs) ++ []) (c :: cs).length).findSome?
          (fun p => (next p.2).map (⟨f.slot, String.ofList p.1⟩ :: ·)) =
          (next []).map (⟨f.slot, String.ofList (c :: cs)⟩ :: ·) :=
        findSome?_cuts (List.cons_ne_nil c cs) fun _ v₁ d v₂ _ _ => by rw [hends hshape d]; rfl
      rw [List.append_nil] at hcuts
      rw [hcuts]
      simp [first]

lemma stops_boundary (go : List Char → Option (List Capture)) : Stops (Expr.boundary.first go) := by
  intro c cs hc
  rw [Expr.first_boundary, afterBoundary_solid hc]
  rfl

/-- Parts behind a required one need a gap, unless they are skipped. -/
lemma stops_laterParts (fs : List Form) (hstops : Stops next) :
    Stops (Expr.firstAll (laterParts fs) next) := by
  induction fs with
  | nil =>
    rw [laterParts, Expr.firstAll_nil]
    exact hstops
  | cons f fs ih =>
    intro c cs hc
    cases f with
    | optional b =>
      rw [laterParts, Expr.firstAll_cons, Expr.first_lead, stops_boundary _ c cs hc, ih c cs hc]
      rfl
    | field | sequence | alternatives =>
      simp only [laterParts, Expr.firstAll_cons]
      exact stops_boundary _ c cs hc

/-- A boundary in front of a part, where what follows the part is the same on all that the part
can leave. -/
lemma first_boundary_part {b : Form} {go go' : List Char → Option (List Capture)}
    (hplain : ∀ g ∈ b.walk, g.Plain) (hb : b.nullable = false) (hcs : Text.EndsSolid cs)
    (hfirst : ∀ rest, Text.EndsSolid rest →
      b.expr.first go rest = first (b.readings false rest) go)
    (hgo : ∀ rest, Text.EndsSolid rest → go rest = go' rest) :
    (afterBoundary cs).findSome? (b.expr.first go) = first (b.readings true cs) go' := by
  rw [← findSome?_boundary hplain hb hcs]
  refine findSome?_congr fun rest hrest => ?_
  have hsolid : Text.EndsSolid rest := by
    obtain ⟨gap, rfl⟩ := afterBoundary_suffix hrest
    exact hcs.of_append
  rw [hfirst rest hsolid]
  refine first_congr fun o ho => hgo _ ?_
  obtain ⟨front, hfront⟩ := rest_suffix b ho
  rw [← hfront] at hsolid
  exact hsolid.of_append

mutual
/-- What a form captures when `next` goes on is what its first reading captures. -/
lemma first_expr {next : List Char → Option (List Capture)} {cs : List Char} {final : Bool}
    (f : Form) (hplain : ∀ g ∈ f.walk, g.Plain) (hrests : f.RestsAtEnd final)
    (hstops : Stops next) (hends : final = true → Ends next)
    (hopen : f.isSequence = true → f.nullable = true → Ends next) (hcs : Text.EndsSolid cs) :
    f.expr.first next cs = first (f.readings false cs) next := by
  match f with
  | .field f => exact first_field f hstops fun hshape => hends (hrests hshape)
  | .sequence ps =>
    rw [expr_sequence, Expr.first_sequence]
    exact first_openingParts ps (fun g hg => hplain g (List.mem_cons_of_mem _ hg))
      (hplain _ (self_mem_walk _)) hrests hstops hends (hopen rfl) hcs
  | .alternatives bs =>
    have hbs := hplain _ (self_mem_walk (.alternatives bs))
    rw [expr_alternatives hbs.1]
    exact first_branches bs (fun g hg => hplain g (List.mem_cons_of_mem _ hg)) hbs.2 hrests hstops
      hends hcs
  | .optional b =>
    have hb : b.nullable = false := hplain _ (self_mem_walk (.optional b))
    rw [expr_optional, Expr.first_single, first_optional,
      first_expr b (fun g hg => hplain g (List.mem_cons_of_mem _ hg)) hrests hstops hends
        (fun _ h => by rw [hb] at h; cases h) hcs]

/-- What the parts of a sequence capture. -/
lemma first_openingParts {next : List Char → Option (List Capture)} {cs : List Char} {final : Bool}
    (fs : List Form) (hplain : ∀ g ∈ walkAll fs, g.Plain)
    (hflat : ∀ f ∈ fs, f.isSequence = false) (hrests : RestsAtEndOfSequence final fs)
    (hstops : Stops next) (hends : final = true → Ends next)
    (hopen : allNullable fs = true → Ends next) (hcs : Text.EndsSolid cs) :
    Expr.firstAll (openingParts fs) next cs = first (readingsOfSequence fs false cs) next := by
  match fs with
  | [] => rw [openingParts, Expr.firstAll_nil, readingsOfSequence, first_skip]
  | [f] =>
    rw [openingParts, Expr.firstAll_cons, Expr.firstAll_nil, readingsOfSequence_single]
    refine first_expr f (fun g hg => hplain g (List.mem_append_left _ hg)) hrests.1 hstops
      (fun h => hends ?_) (fun h => ?_) hcs
    · exact (Bool.and_eq_true_iff.mp h).1
    · rw [hflat f List.mem_cons_self] at h
      cases h
  | f :: g :: gs =>
    have hf := hplain f (List.mem_append_left _ (self_mem_walk f))
    have hplain' : ∀ h ∈ walkAll (g :: gs), h.Plain := fun h hh =>
      hplain h (List.mem_append_right _ hh)
    have hflat' : ∀ h ∈ g :: gs, h.isSequence = false := fun h hh =>
      hflat h (List.mem_cons_of_mem _ hh)
    have hrestsf := hrests.1
    rw [List.isEmpty_cons, Bool.and_false] at hrestsf
    rcases required_or_optional hf (hflat f List.mem_cons_self) with hreq | ⟨b, rfl, hb⟩
    · rw [openingParts_cons (ne_optional hreq), Expr.firstAll_cons, first_required hreq]
      rw [first_expr f (fun g hg => hplain g (List.mem_append_left _ hg)) hrestsf
        (stops_laterParts (g :: gs) hstops) (fun h => by cases h)
        (fun _ h => by rw [hreq] at h; cases h) hcs]
      refine first_congr fun o ho => ?_
      obtain ⟨front, rfl⟩ := rest_suffix f ho
      exact first_laterParts (g :: gs) hplain' hflat' hrests.2 hstops hends hcs.of_append
    · rw [openingParts, Expr.firstAll_cons, Expr.first_trail, first_skippable hb,
        first_openingParts (g :: gs) hplain' hflat' hrests.2 hstops hends hopen hcs]
      congr 1
      rw [first_expr b (fun h hh => hplain h (List.mem_append_left _ (List.mem_cons_of_mem _ hh)))
        hrestsf (stops_boundary _) (fun h => by cases h) (fun _ h => by rw [hb] at h; cases h) hcs]
      refine first_congr fun o ho => ?_
      obtain ⟨front, rfl⟩ := rest_suffix b ho
      have hsolid := hcs.of_append
      have hcond : allNullable (g :: gs) = false ∨ Ends next := by
        cases hnull : allNullable (g :: gs) with
        | false => exact Or.inl rfl
        | true => exact Or.inr (hopen hnull)
      rw [Expr.first_boundary, ← findSome?_boundary_sequence hplain' hflat' hcond hsolid]
      refine findSome?_congr fun rest hrest => ?_
      obtain ⟨gap, hgap⟩ := afterBoundary_suffix hrest
      rw [← hgap] at hsolid
      exact first_openingParts (g :: gs) hplain' hflat' hrests.2 hstops hends hopen
        hsolid.of_append

/-- What parts behind a required one capture. -/
lemma first_laterParts {next : List Char → Option (List Capture)} {cs : List Char} {final : Bool}
    (fs : List Form) (hplain : ∀ g ∈ walkAll fs, g.Plain)
    (hflat : ∀ f ∈ fs, f.isSequence = false) (hrests : RestsAtEndOfSequence final fs)
    (hstops : Stops next) (hends : final = true → Ends next) (hcs : Text.EndsSolid cs) :
    Expr.firstAll (laterParts fs) next cs = first (readingsOfSequence fs true cs) next := by
  match fs with
  | [] => rw [laterParts, Expr.firstAll_nil, readingsOfSequence, first_skip]
  | f :: fs =>
    have hf := hplain f (List.mem_append_left _ (self_mem_walk f))
    have hlater : ∀ rest, Text.EndsSolid rest → Expr.firstAll (laterParts fs) next rest =
        first (readingsOfSequence fs true rest) next := fun rest hrest =>
      first_laterParts fs (fun h hh => hplain h (List.mem_append_right _ hh))
        (fun h hh => hflat h (List.mem_cons_of_mem _ hh)) hrests.2 hstops hends hrest
    have hends' : (final && fs.isEmpty) = true → Ends (Expr.firstAll (laterParts fs) next) := by
      intro h
      obtain ⟨hfinal, hempty⟩ := Bool.and_eq_true_iff.mp h
      obtain rfl := List.isEmpty_iff.mp hempty
      rw [laterParts, Expr.firstAll_nil]
      exact hends hfinal
    rcases required_or_optional hf (hflat f List.mem_cons_self) with hreq | ⟨b, rfl, hb⟩
    · have hplainf : ∀ g ∈ f.walk, g.Plain := fun g hg => hplain g (List.mem_append_left _ hg)
      rw [laterParts_cons (ne_optional hreq), Expr.firstAll_cons, Expr.firstAll_cons,
        Expr.first_boundary, first_required hreq]
      exact first_boundary_part hplainf hreq hcs (fun rest hrest => first_expr f hplainf hrests.1
        (stops_laterParts fs hstops) hends' (fun _ h => by rw [hreq] at h; cases h) hrest) hlater
    · have hplainb : ∀ g ∈ b.walk, g.Plain := fun g hg =>
        hplain g (List.mem_append_left _ (List.mem_cons_of_mem _ hg))
      rw [laterParts, Expr.firstAll_cons, Expr.first_lead, Expr.first_boundary,
        first_skippable hb, hlater cs hcs]
      congr 1
      exact first_boundary_part hplainb hb hcs (fun rest hrest => first_expr b hplainb hrests.1
        (stops_laterParts fs hstops) hends' (fun _ h => by rw [hb] at h; cases h) hrest) hlater

/-- What one of several branches captures. -/
lemma first_branches {next : List Char → Option (List Capture)} {cs : List Char} {final : Bool}
    (fs : List Form) (hplain : ∀ g ∈ walkAll fs, g.Plain) (hfs : anyNullable fs = false)
    (hrests : RestsAtEndOfBranches final fs) (hstops : Stops next)
    (hends : final = true → Ends next) (hcs : Text.EndsSolid cs) :
    (Expr.alternatives (fs.map expr)).first next cs =
      first (readingsOfBranches fs false cs) next := by
  match fs with
  | [] => rfl
  | f :: fs =>
    rw [anyNullable, Bool.or_eq_false_iff] at hfs
    rw [List.map_cons, Expr.first_alternatives_cons, readingsOfBranches, first_append,
      first_expr f (fun g hg => hplain g (List.mem_append_left _ hg)) hrests.1 hstops hends
        (fun _ h => by rw [hfs.1] at h; cases h) hcs,
      first_branches fs (fun g hg => hplain g (List.mem_append_right _ hg)) hfs.2 hrests.2 hstops
        hends hcs]
end

end Form

lemma ends_whole : Form.Ends whole := fun _ _ => rfl

/-- The captures of the first reading of a whole text, without blanks around it. -/
def firstReading (u : Usage) (text : String) : Option (List Capture) :=
  firstWhole ((Form.ofUsage u).readings false (Text.trim text.toList))

/-- A pattern captures what the first reading of its usage captures, and fails where there is
none. -/
theorem captures_eq_firstReading {source : String} {u : Usage} (hread : Usage.read source = .ok u)
    (hplain : ∀ t ∈ u.expression.walk, t.Plain) (text : String) :
    (ofUsage u).captures? text = firstReading u text := by
  rw [Pattern.captures?, Form.body_ofUsage, Expr.captures?_eq_first, firstReading,
    firstWhole_eq_first]
  exact Form.first_expr (Form.ofUsage u) (Form.plain_of_read hread hplain)
    (Form.restsAtEnd_of_read hread) ends_whole.stops (fun _ => ends_whole) (fun _ _ => ends_whole)
    (Text.trimmed_trim _).last

theorem captures_eq_firstReading_optional_group :
    ∃ u, Usage.read "<a> ['b' <c>]" = .ok u ∧ (∀ t ∈ u.expression.walk, t.Plain) ∧
      (ofUsage u).captures? " x  b y " = firstReading u " x  b y " ∧
      (firstReading u " x  b y ").map (·.map Capture.text) = some ["x", "b", "y"] := by
  have hread : Usage.read "<a> ['b' <c>]" = .ok ⟨"<a> ['b' <c>]", .sequence [.placeholder "a" 0,
      .optional (.sequence [.literal "b" 5, .placeholder "c" 9] 5) 4] 0⟩ := by cbv
  have hplain : ∀ t ∈ (Term.sequence [.placeholder "a" 0,
      .optional (.sequence [.literal "b" 5, .placeholder "c" 9] 5) 4] 0).walk, t.Plain := by
    decide +kernel
  exact ⟨_, hread, hplain, captures_eq_firstReading hread hplain _, by decide +kernel⟩

end Pattern

end ChatCommands
