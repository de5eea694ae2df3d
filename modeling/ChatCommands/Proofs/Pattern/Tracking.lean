import ChatCommands.Proofs.Pattern.Completion
import ChatCommands.Proofs.Pattern.Even

/-!
# Tracking through forms

Two texts of the same words are matched in step, a narrow one with single spaces between its words
and a wide one. Where each field takes one word, whatever the wide text completes first is completed
first in the narrow text too, if it can be completed there at all.

Main statement: a form tracks at words what follows it tracks at gaps (`Form.aligned_expr`).
-/

namespace ChatCommands.Pattern

/-! ### What the outcomes of a form capture -/

namespace Traces

variable {os : List Char → List Outcome} {rs : List Route} {cs : List Char} {o : Outcome}

lemma slot_mem (h : Traces os rs) {fields : List Field}
    (hrs : ∀ r ∈ rs, ∀ f ∈ r.fields, f ∈ fields) (ho : o ∈ os cs) :
    ∀ x ∈ o.captures, x.slot ∈ fields.map Field.slot := by
  intro x hx
  obtain ⟨r, hr, hreads⟩ := (h _ _).mp ho
  have hslot : x.slot ∈ r.fields.map Field.slot :=
    hreads.map_slot ▸ List.mem_map_of_mem hx
  obtain ⟨f, hf, heq⟩ := List.mem_map.mp hslot
  exact List.mem_map.mpr ⟨f, hrs r hr f hf, heq⟩

/-- An outcome that captures nothing in front of a word passes only blanks. -/
lemma rest_eq (h : Traces os rs) {gap w t : List Char} (hw : Text.IsWord w)
    (ho : o ∈ os (gap ++ (w ++ t))) (hnil : o.captures = []) :
    ∃ passed left, gap = passed ++ left ∧ o.rest = left ++ (w ++ t) := by
  obtain ⟨r, -, hreads⟩ := (h _ _).mp ho
  rw [hnil] at hreads
  obtain ⟨passed, hpassed, hblank⟩ := hreads.exists_blanks
  exact ⟨passed, hw.exists_left hblank hpassed⟩

lemma rest_nil (h : Traces os rs) (ho : o ∈ os []) : o.rest = [] := by
  obtain ⟨r, -, hreads⟩ := (h _ _).mp ho
  exact hreads.rest_eq_nil rfl

end Traces

/-! ### Forms that go word by word -/

namespace Form

lemma mem_slotsAll_left {f : Form} {s : Slot} (hs : s ∈ f.slots)
    (fs : List Form) : s ∈ slotsAll (f :: fs) := by
  rw [slotsAll_cons]
  exact List.mem_append_left _ hs

lemma mem_slotsAll_right {fs : List Form} {s : Slot} (f : Form)
    (hs : s ∈ slotsAll fs) : s ∈ slotsAll (f :: fs) := by
  rw [slotsAll_cons]
  exact List.mem_append_right _ hs

/-- Forms of which each field captures one word, and no two have a slot in common. -/
structure Wordwise (fs : List Form) : Prop where
  wellFormed : ∀ g ∈ walkAll fs, g.WellFormed
  isWord : ∀ f ∈ fieldsAll fs, ∀ v, f.shape.Fits v → Text.IsWord v
  nodup : (slotsAll fs).Nodup

namespace Wordwise

variable {f b : Form} {fs ps bs : List Form}

lemma head (h : Wordwise (f :: fs)) : Wordwise [f] where
  wellFormed g hg := by
    rw [walkAll, walkAll, List.append_nil] at hg
    exact h.wellFormed g (List.mem_append_left _ hg)
  isWord g hg := by
    rw [fieldsAll, fieldsAll, List.append_nil] at hg
    exact h.isWord g (List.mem_append_left _ hg)
  nodup := by
    have hnodup := h.nodup
    rw [slotsAll_cons] at hnodup ⊢
    exact (List.append_nil f.slots).symm ▸ hnodup.of_append_left

lemma tail (h : Wordwise (f :: fs)) : Wordwise fs where
  wellFormed g hg := h.wellFormed g (List.mem_append_right _ hg)
  isWord g hg := h.isWord g (List.mem_append_right _ hg)
  nodup := by
    have hnodup := h.nodup
    rw [slotsAll_cons] at hnodup
    exact hnodup.of_append_right

lemma disjoint (h : Wordwise (f :: fs)) {s : Slot} (hs : s ∈ slotsAll fs) : s ∉ f.slots := by
  have hnodup := h.nodup
  rw [slotsAll_cons] at hnodup
  exact fun hs' => List.disjoint_of_nodup_append hnodup hs' hs

lemma sequence (h : Wordwise [.sequence ps]) : Wordwise ps where
  wellFormed g hg := h.wellFormed g (List.mem_append_left _ (List.mem_cons_of_mem _ hg))
  isWord g hg := h.isWord g (List.mem_append_left _ hg)
  nodup := by simpa [slotsAll, fieldsAll, fields] using h.nodup

lemma alternatives (h : Wordwise [.alternatives bs]) : Wordwise bs where
  wellFormed g hg := h.wellFormed g (List.mem_append_left _ (List.mem_cons_of_mem _ hg))
  isWord g hg := h.isWord g (List.mem_append_left _ hg)
  nodup := by simpa [slotsAll, fieldsAll, fields] using h.nodup

lemma optional (h : Wordwise (.optional b :: fs)) : Wordwise (b :: fs) where
  wellFormed g hg := h.wellFormed g (List.mem_cons_of_mem _ hg)
  isWord := h.isWord
  nodup := h.nodup

/-! ### Outcomes -/

variable {cs : List Char} {o : Outcome}

lemma traces (h : Wordwise (f :: fs)) : Traces f.expr.outcomes f.routes :=
  traces_expr f fun g hg => h.wellFormed g (List.mem_append_left _ hg)

lemma slot_mem (h : Wordwise (f :: fs)) (ho : o ∈ f.expr.outcomes cs) :
    ∀ x ∈ o.captures, x.slot ∈ f.slots :=
  h.traces.slot_mem (fun _ hr _ hg => (fields_sublist f hr).subset hg) ho

lemma slot_mem_opening (h : Wordwise fs) (ho : o ∈ Expr.outcomesAll (openingParts fs) cs) :
    ∀ x ∈ o.captures, x.slot ∈ slotsAll fs :=
  (traces_opening fs h.wellFormed).slot_mem (fun r hr _ hg =>
    (sublist_of_mem_derivationsOfSequence fs ((covers_opening fs _).mpr ⟨r, hr, rfl⟩)).subset hg) ho

lemma slot_mem_later (h : Wordwise fs) (ho : o ∈ Expr.outcomesAll (laterParts fs) cs) :
    ∀ x ∈ o.captures, x.slot ∈ slotsAll fs :=
  (traces_later fs h.wellFormed).slot_mem (fun r hr _ hg =>
    (sublist_of_mem_derivationsOfSequence fs ((covers_later fs _).mpr ⟨r, hr, rfl⟩)).subset hg) ho

lemma slot_mem_branches (h : Wordwise fs)
    (ho : o ∈ (Expr.alternatives (fs.map expr)).outcomes cs) :
    ∀ x ∈ o.captures, x.slot ∈ slotsAll fs :=
  (traces_branches fs h.wellFormed).slot_mem (fun r hr _ hg =>
    (sublist_of_mem_derivationsOfBranches fs
      ((covers_branches fs _).mpr ⟨r, hr, rfl⟩)).subset hg) ho

end Wordwise

end Form

/-! ### What follows, in step on both texts -/

/-- No completion has any of some slots. -/
def Avoids (next : Next) (slots : List Slot) : Prop :=
  ∀ cs, ∀ y ∈ next cs, ∀ x ∈ y, x.slot ∉ slots

lemma Avoids.mono {next : Next} {slots slots' : List Slot} (h : Avoids next slots)
    (hsub : ∀ s ∈ slots', s ∈ slots) : Avoids next slots' :=
  fun cs y hy x hx hslot => h cs y hy x hx (hsub _ hslot)

lemma Avoids.completions {next : Next} {slots : List Slot} (h : Avoids next slots)
    {os : List Char → List Outcome} (hos : ∀ cs, ∀ o ∈ os cs, ∀ x ∈ o.captures, x.slot ∉ slots) :
    Avoids (fun cs => Pattern.completions (os cs) next) slots := by
  intro cs y hy x hx
  obtain ⟨o, ho, z, hz, rfl⟩ := mem_completions.mp hy
  rcases List.mem_append.mp hx with hx | hx
  · exact hos cs o ho x hx
  · exact h _ z hz x hx

lemma Avoids.boundary {next : Next} {slots : List Slot} (h : Avoids next slots) :
    Avoids (Expr.boundary.completions next) slots := by
  refine h.completions fun cs o ho x hx => ?_
  obtain ⟨rest, -, rfl⟩ := List.mem_map.mp ho
  exact absurd hx List.not_mem_nil

lemma avoids_atEnd (slots : List Slot) : Avoids atEnd slots := by
  intro cs y hy x hx
  cases cs with
  | nil =>
    obtain rfl := List.mem_singleton.mp hy
    exact absurd hx List.not_mem_nil
  | cons c cs => exact absurd hy List.not_mem_nil

/-- What goes on at the gaps of two texts of the same words. -/
structure Paired (next next' : Next) : Prop where
  solid : ∀ c cs, Text.isSolid c → next (c :: cs) = [] ∧ next' (c :: cs) = []
  nil : next [] = next' []
  gapped : ∀ {s t}, Text.Gapped s t → Tracks (next s) (next' t)

/-- What goes on at the words of two texts of the same words. -/
structure Aligned (next next' : Next) : Prop where
  nil : next [] = next' []
  word : ∀ {w s t}, Text.IsWord w → Text.Gapped s t → Tracks (next (w ++ s)) (next' (w ++ t))

section
variable {next next' : Next} {w s t : List Char}

lemma Paired.word_left (h : Paired next next') (hw : Text.IsWord w) (s : List Char) :
    next (w ++ s) = [] := by
  obtain ⟨c, cs, heq, hc⟩ := hw.head s
  rw [heq]
  exact (h.solid c cs (Text.isSolid_eq_true.mpr hc)).1

lemma Paired.word_right (h : Paired next next') (hw : Text.IsWord w) (t : List Char) :
    next' (w ++ t) = [] := by
  obtain ⟨c, cs, heq, hc⟩ := hw.head t
  rw [heq]
  exact (h.solid c cs (Text.isSolid_eq_true.mpr hc)).2

/-- What goes on at gaps only does not go on at words. -/
lemma Paired.aligned (h : Paired next next') : Aligned next next' where
  nil := h.nil
  word {w s t} hw _ := by
    rw [h.word_left hw s]
    exact Tracks.nil _

lemma paired_atEnd : Paired atEnd atEnd where
  solid _ _ _ := ⟨rfl, rfl⟩
  nil := rfl
  gapped {s t} h := by
    cases h with
    | nil => exact Tracks.refl _
    | cons => exact Tracks.nil _

lemma afterBoundary_gap {gap : List Char} (hw : Text.IsWord w) (hne : gap ≠ [])
    (hblank : ∀ c ∈ gap, Text.isBlank c) (t : List Char) :
    afterBoundary (gap ++ (w ++ t)) =
      (w ++ t) :: (cuts (gap ++ (w ++ t)) (gap.length - 1)).map Prod.snd := by
  have hsome : (gap ++ (w ++ t)).isEmpty = false := by
    rw [List.isEmpty_eq_false_iff]
    exact fun hnil => hne (List.append_eq_nil_iff.mp hnil).1
  rw [afterBoundary, hw.takeWhile_gap hblank, cuts_append hne, hsome, List.map_cons]
  simp

/-- Behind a gap a word follows; behind a part of the gap more blanks do. -/
lemma exists_of_mem_afterBoundary {gap rest : List Char} (hw : Text.IsWord w) (hne : gap ≠ [])
    (hblank : ∀ c ∈ gap, Text.isBlank c) (h : rest ∈ afterBoundary (gap ++ (w ++ t))) :
    ∃ left, (∀ c ∈ left, Text.isBlank c) ∧ rest = left ++ (w ++ t) := by
  rcases mem_afterBoundary.mp h with ⟨passed, hpassed, -, hblank'⟩ | ⟨hnil, -⟩
  · obtain ⟨left, rfl, heq⟩ := hw.exists_left hblank' hpassed
    exact ⟨left, fun c hc => hblank c (List.mem_append_right _ hc), heq⟩
  · exact absurd (List.append_eq_nil_iff.mp hnil).1 hne

lemma afterBoundary_space (hw : Text.IsWord w) (s : List Char) :
    afterBoundary (' ' :: (w ++ s)) = [w ++ s] :=
  afterBoundary_gap hw (List.cons_ne_nil ' ' []) Text.isBlank_of_mem_space s

/-- Words follow gaps: the narrow text has nothing but the word behind its blank, and in the wide
one the longest run of blanks is tried first. -/
lemma Aligned.boundary (h : Aligned next next') :
    Paired (Expr.boundary.completions next) (Expr.boundary.completions next') where
  solid c cs hc := by
    rw [Expr.completions_boundary, Expr.completions_boundary, afterBoundary_solid hc]
    exact ⟨rfl, rfl⟩
  nil := by
    rw [Expr.completions_boundary, Expr.completions_boundary]
    simp [afterBoundary, cuts, h.nil]
  gapped {s t} hgapped := by
    rw [Expr.completions_boundary, Expr.completions_boundary]
    cases hgapped with
    | nil =>
      simp only [afterBoundary, cuts, List.takeWhile_nil, List.length_nil, List.map_nil,
        List.nil_append, List.isEmpty_nil, if_true, List.flatMap_cons, List.flatMap_nil, h.nil]
      exact Tracks.refl _
    | @cons w gap s t hw hne hblank hst =>
      rw [afterBoundary_space hw, afterBoundary_gap hw hne hblank, List.flatMap_cons,
        List.flatMap_cons, List.flatMap_nil, List.append_nil]
      exact (h.word hw hst).extend _

end

/-! ### Fields -/

section
variable {f : Field} {next next' : Next} {w s t : List Char}

/-- A field that does not take the whole word leaves a part of it, where nothing goes on. -/
lemma next_nil_of_mem_takes (hf : ∀ v, f.shape.Fits v → Text.IsWord v)
    (hsolid : ∀ c cs, Text.isSolid c → next (c :: cs) = []) (hw : Text.IsWord w)
    (hs : ∀ c, s.head? = some c → Text.isBlank c) {v rest : List Char} (hne : v ≠ w)
    (h : (v, rest) ∈ f.shape.takes (w ++ s)) : next rest = [] := by
  obtain ⟨heq, hfits⟩ := Shape.mem_takes.mp h
  have hv := hf v hfits
  rcases List.append_eq_append_iff.mp heq with ⟨left, rfl, rfl⟩ | ⟨more, rfl, rfl⟩
  · cases left with
    | nil => exact absurd (List.append_nil v).symm hne
    | cons c left =>
      exact hsolid c _ (hw.2 c (List.mem_append_right _ List.mem_cons_self))
  · cases more with
    | nil => exact absurd (List.append_nil w) hne
    | cons c more =>
      have hc := hv.2 c (List.mem_append_right _ List.mem_cons_self)
      rw [Text.isSolid_eq_true, hs c rfl] at hc
      cases hc

/-- The whole word is what a field tries first. -/
lemma exists_takes_of_fits (hf : ∀ v, f.shape.Fits v → Text.IsWord v) (hfits : f.shape.Fits w)
    (hs : ∀ c, s.head? = some c → Text.isBlank c) :
    ∃ shorter, f.shape.takes (w ++ s) = (w, s) :: shorter ∧ ∀ p ∈ shorter, p.1 ≠ w := by
  have hw := hf w hfits
  cases hshape : f.shape with
  | word =>
    refine ⟨_, by rw [Shape.takes, hw.takeWhile_eq hs, cuts_append hw.1], ?_⟩
    rintro ⟨v, rest⟩ hp (rfl : v = w)
    have hlen := ((mem_cuts (by rw [List.length_append]; omega)).mp hp).2.2
    have hpos := List.length_pos_iff.mpr hw.1
    omega
  | rest =>
    rw [hshape] at hf
    exact absurd ((hf [' '] (List.cons_ne_nil _ _)).2 ' ' List.mem_cons_self) (by decide)
  | exact text =>
    rw [hshape] at hfits
    obtain rfl := hfits
    exact ⟨[], by simp [Shape.takes], by simp⟩

/-- A field captures the word in front, or nothing can go on behind it. -/
lemma completions_field (hf : ∀ v, f.shape.Fits v → Text.IsWord v)
    (hsolid : ∀ c cs, Text.isSolid c → next (c :: cs) = []) (hw : Text.IsWord w)
    (hs : ∀ c, s.head? = some c → Text.isBlank c) :
    (f.shape.Fits w → (Expr.capture f.slot f.shape).completions next (w ++ s) =
      (next s).map (⟨f.slot, String.ofList w⟩ :: ·)) ∧
    (¬ f.shape.Fits w → (Expr.capture f.slot f.shape).completions next (w ++ s) = []) := by
  rw [Expr.completions_capture]
  constructor
  · intro hfits
    obtain ⟨shorter, heq, hshorter⟩ := exists_takes_of_fits hf hfits hs
    have hnil : (shorter.flatMap fun p =>
        (next p.2).map (⟨f.slot, String.ofList p.1⟩ :: ·)) = [] := by
      rw [List.flatMap_eq_nil_iff]
      rintro ⟨v, rest⟩ hp
      have hmem : (v, rest) ∈ f.shape.takes (w ++ s) := by
        rw [heq]
        exact List.mem_cons_of_mem _ hp
      rw [next_nil_of_mem_takes hf hsolid hw hs (hshorter _ hp) hmem, List.map_nil]
    rw [heq, List.flatMap_cons, hnil, List.append_nil]
  · intro hfits
    rw [List.flatMap_eq_nil_iff]
    rintro ⟨v, rest⟩ hp
    have hne : v ≠ w := by
      rintro rfl
      exact hfits (Shape.mem_takes.mp hp).2
    rw [next_nil_of_mem_takes hf hsolid hw hs hne hp, List.map_nil]

lemma aligned_field (hf : ∀ v, f.shape.Fits v → Text.IsWord v) (h : Paired next next') :
    Aligned ((Expr.capture f.slot f.shape).completions next)
      ((Expr.capture f.slot f.shape).completions next') where
  nil := completions_congr fun o ho => by rw [(Traces.capture f).rest_nil ho, h.nil]
  word {w s t} hw hst := by
    have hnarrow := completions_field hf (fun c cs hc => (h.solid c cs hc).1) hw hst.head_left
    have hwide := completions_field hf (fun c cs hc => (h.solid c cs hc).2) hw hst.head_right
    by_cases hfits : f.shape.Fits w
    · rw [hnarrow.1 hfits, hwide.1 hfits]
      exact (h.gapped hst).map (List.cons_injective)
    · rw [hnarrow.2 hfits]
      exact Tracks.nil _

end

namespace Form

/-! ### Forms -/

section
variable {f b : Form} {fs : List Form} {next next' : Next} {w s t : List Char}

/-- At a word, where nothing else goes on, a form captures something. -/
lemma exists_slot (hf : Wordwise (f :: fs)) (hnext : next (w ++ t) = []) (hw : Text.IsWord w)
    {y : List Capture} (hy : y ∈ f.expr.completions next (w ++ t)) : ∃ x ∈ y, x.slot ∈ f.slots := by
  obtain ⟨o, ho, z, hz, rfl⟩ := mem_completions.mp hy
  cases hcaptures : o.captures with
  | nil =>
    have ho' : o ∈ f.expr.outcomes ([] ++ (w ++ t)) := ho
    obtain ⟨passed, left, hnil, hrest⟩ := hf.traces.rest_eq hw ho' hcaptures
    rw [(List.append_eq_nil_iff.mp hnil.symm).2, List.nil_append] at hrest
    rw [hrest, hnext] at hz
    exact absurd hz List.not_mem_nil
  | cons x xs =>
    have hx : x ∈ o.captures := hcaptures ▸ List.mem_cons_self
    exact ⟨x, List.mem_append_left _ List.mem_cons_self, hf.slot_mem ho x hx⟩

/-- What a form completes first behind a part of the gap, the narrow text completes only by passing
the form: then the form has captured nothing, and what follows tracks. -/
lemma head?_of_part {left : List Char} (hf : Wordwise [f]) (h : Paired next next')
    (havoid : Avoids next f.slots) (hw : Text.IsWord w) (hst : Text.Gapped s t)
    (hleft : ∀ c ∈ left, Text.isBlank c) {z : List Capture}
    (hz : (f.expr.completions next' (left ++ (w ++ t))).head? = some z)
    (hmem : z ∈ next (' ' :: (w ++ s))) : (next (' ' :: (w ++ s))).head? = some z := by
  obtain ⟨o, ho, x, hx, rfl⟩ := exists_of_head?_completions hz
  have hnil : o.captures = [] := by
    rw [List.eq_nil_iff_forall_not_mem]
    intro c hc
    exact havoid _ _ hmem c (List.mem_append_left _ hc) (hf.slot_mem ho c hc)
  obtain ⟨passed, left, rfl, hrest⟩ := hf.traces.rest_eq hw ho hnil
  rw [hnil, List.nil_append] at hmem ⊢
  rw [hrest] at hx
  cases left with
  | nil =>
    rw [List.nil_append, h.word_right hw] at hx
    cases hx
  | cons c left =>
    have hleft' : ∀ d ∈ c :: left, Text.isBlank d := fun d hd =>
      hleft d (List.mem_append_right _ hd)
    exact (h.gapped (.cons hw (List.cons_ne_nil c left) hleft' hst)).2 x hx hmem

/-- An optional part that takes in the boundary in front of it. In the wide text it can be tried
behind a part of the gap too. -/
lemma paired_lead (hf : Wordwise [f]) (h : Paired next next') (havoid : Avoids next f.slots)
    (hal : Aligned (f.expr.completions next) (f.expr.completions next')) :
    Paired ((Expr.optional (.sequence [.boundary, f.expr])).completions next)
      ((Expr.optional (.sequence [.boundary, f.expr])).completions next') where
  solid c cs hc := by
    obtain ⟨hnarrow, hwide⟩ := hal.boundary.solid c cs hc
    obtain ⟨hnext, hnext'⟩ := h.solid c cs hc
    rw [Expr.completions_lead, Expr.completions_lead, hnarrow, hwide, hnext, hnext']
    exact ⟨rfl, rfl⟩
  nil := by rw [Expr.completions_lead, Expr.completions_lead, hal.boundary.nil, h.nil]
  gapped {s t} hgapped := by
    rw [Expr.completions_lead, Expr.completions_lead]
    cases hgapped with
    | nil =>
      rw [hal.boundary.nil, h.nil]
      exact Tracks.refl _
    | @cons w gap s t hw hne hblank hst =>
      rw [Expr.completions_boundary, Expr.completions_boundary, afterBoundary_space hw,
        List.flatMap_cons, List.flatMap_nil, List.append_nil, afterBoundary_gap hw hne hblank,
        List.flatMap_cons, List.append_assoc]
      apply (hal.word hw hst).append
      · apply (h.gapped (.cons hw hne hblank hst)).prepend
        intro z hz hmem
        obtain ⟨rest, hrest, hz⟩ := exists_of_head?_flatMap hz
        have hrest' : rest ∈ afterBoundary (gap ++ (w ++ t)) := by
          rw [afterBoundary_gap hw hne hblank]
          exact List.mem_cons_of_mem _ hrest
        obtain ⟨left, hleft, rfl⟩ := exists_of_mem_afterBoundary hw hne hblank hrest'
        exact head?_of_part hf h havoid hw hst hleft hz hmem
      · intro y hy hmem
        obtain ⟨x, hx, hslot⟩ := exists_slot hf (h.word_right hw t) hw hy
        exact havoid _ _ hmem x hx hslot

/-- An optional part that takes in the boundary behind it. -/
lemma aligned_trail (hb : Wordwise (b :: fs)) (h : Aligned next next')
    (havoid : Avoids next b.slots)
    (hal : Aligned (b.expr.completions (Expr.boundary.completions next))
      (b.expr.completions (Expr.boundary.completions next'))) :
    Aligned ((Expr.optional (.sequence [b.expr, .boundary])).completions next)
      ((Expr.optional (.sequence [b.expr, .boundary])).completions next') where
  nil := by rw [Expr.completions_trail, Expr.completions_trail, hal.nil, h.nil]
  word {w s t} hw hst := by
    rw [Expr.completions_trail, Expr.completions_trail]
    apply (hal.word hw hst).append (h.word hw hst)
    intro y hy hmem
    obtain ⟨x, hx, hslot⟩ := exists_slot hb (h.boundary.word_right hw t) hw hy
    exact havoid _ _ hmem x hx hslot

lemma aligned_optional (h : Paired next next')
    (hal : Aligned (b.expr.completions next) (b.expr.completions next')) :
    Aligned ((Expr.optional (.sequence [b.expr])).completions next)
      ((Expr.optional (.sequence [b.expr])).completions next') where
  nil := by rw [Expr.completions_single, Expr.completions_single, hal.nil, h.nil]
  word {w s t} hw hst := by
    rw [Expr.completions_single, Expr.completions_single, h.word_left hw, h.word_right hw,
      List.append_nil, List.append_nil]
    exact hal.word hw hst

end

/-! ### Tracking through forms -/

/-- Parts behind a form capture nothing in its slots. -/
lemma avoids_later {next : Next} {f : Form} {fs : List Form}
    (h : Avoids next (slotsAll (f :: fs))) (hfs : Wordwise (f :: fs)) :
    Avoids (Expr.completionsAll (laterParts fs) next) f.slots :=
  (h.mono fun _ hs => mem_slotsAll_left hs _).completions fun _ _ ho x hx =>
    hfs.disjoint (hfs.tail.slot_mem_later ho x hx)

mutual
/-- A form tracks as what follows it does. -/
lemma aligned_expr {next next' : Next} (f : Form) (hf : Wordwise [f]) (h : Paired next next')
    (havoid : Avoids next f.slots) :
    Aligned (f.expr.completions next) (f.expr.completions next') := by
  match f with
  | .field f => exact aligned_field (hf.isWord f List.mem_cons_self) h
  | .sequence ps =>
    rw [expr_sequence, Expr.completions_sequence, Expr.completions_sequence]
    exact aligned_opening ps hf.sequence h havoid
  | .alternatives bs =>
    rw [expr_alternatives (hf.wellFormed _ List.mem_cons_self)]
    exact aligned_branches bs hf.alternatives h havoid
  | .optional b =>
    rw [expr_optional]
    exact aligned_optional h (aligned_expr b hf.optional h havoid)

lemma aligned_opening {next next' : Next} (fs : List Form) (hfs : Wordwise fs)
    (h : Paired next next') (havoid : Avoids next (slotsAll fs)) :
    Aligned (Expr.completionsAll (openingParts fs) next)
      (Expr.completionsAll (openingParts fs) next') := by
  match fs with
  | [] =>
    rw [openingParts, Expr.completionsAll_nil, Expr.completionsAll_nil]
    exact h.aligned
  | [f] =>
    rw [openingParts, Expr.completionsAll_cons, Expr.completionsAll_cons, Expr.completionsAll_nil,
      Expr.completionsAll_nil]
    exact aligned_expr f hfs h (havoid.mono fun _ hs => mem_slotsAll_left hs _)
  | .optional b :: f :: fs =>
    have hfs' := aligned_opening (f :: fs) hfs.tail h
      (havoid.mono fun _ hs => mem_slotsAll_right _ hs)
    have havoid' : Avoids (Expr.completionsAll (openingParts (f :: fs)) next) b.slots :=
      (havoid.mono fun _ hs => mem_slotsAll_left hs _).completions fun cs o ho x hx =>
        hfs.disjoint (hfs.tail.slot_mem_opening ho x hx)
    rw [openingParts, Expr.completionsAll_cons, Expr.completionsAll_cons]
    exact aligned_trail hfs.optional hfs' havoid'
      (aligned_expr b hfs.optional.head hfs'.boundary havoid'.boundary)
  | .field _ :: g :: gs | .sequence _ :: g :: gs | .alternatives _ :: g :: gs =>
    have hgs := paired_later (g :: gs) hfs.tail h (havoid.mono fun _ hs => mem_slotsAll_right _ hs)
    simp only [openingParts, Expr.completionsAll_cons]
    exact aligned_expr _ hfs.head hgs (avoids_later havoid hfs)

lemma paired_later {next next' : Next} (fs : List Form) (hfs : Wordwise fs)
    (h : Paired next next') (havoid : Avoids next (slotsAll fs)) :
    Paired (Expr.completionsAll (laterParts fs) next)
      (Expr.completionsAll (laterParts fs) next') := by
  match fs with
  | [] =>
    rw [laterParts, Expr.completionsAll_nil, Expr.completionsAll_nil]
    exact h
  | f :: fs =>
    have hfs' := paired_later fs hfs.tail h (havoid.mono fun _ hs => mem_slotsAll_right _ hs)
    have havoid' := avoids_later havoid hfs
    match f with
    | .optional b =>
      rw [laterParts, Expr.completionsAll_cons, Expr.completionsAll_cons]
      exact paired_lead hfs.optional.head hfs' havoid'
        (aligned_expr b hfs.optional.head hfs' havoid')
    | .field _ | .sequence _ | .alternatives _ =>
      simp only [laterParts, Expr.completionsAll_cons]
      exact (aligned_expr _ hfs.head hfs' havoid').boundary

lemma aligned_branches {next next' : Next} (fs : List Form) (hfs : Wordwise fs)
    (h : Paired next next') (havoid : Avoids next (slotsAll fs)) :
    Aligned ((Expr.alternatives (fs.map expr)).completions next)
      ((Expr.alternatives (fs.map expr)).completions next') := by
  match fs with
  | [] => exact ⟨rfl, fun _ _ => Tracks.nil _⟩
  | f :: fs =>
    have hf := aligned_expr f hfs.head h (havoid.mono fun _ hs => mem_slotsAll_left hs _)
    have hfs' := aligned_branches fs hfs.tail h
      (havoid.mono fun _ hs => mem_slotsAll_right _ hs)
    have havoid' : Avoids ((Expr.alternatives (fs.map expr)).completions next) f.slots :=
      (havoid.mono fun _ hs => mem_slotsAll_left hs _).completions fun cs o ho x hx =>
        hfs.disjoint (hfs.tail.slot_mem_branches ho x hx)
    rw [List.map_cons]
    constructor
    case nil =>
      rw [Expr.completions_alternatives_cons, Expr.completions_alternatives_cons, hf.nil, hfs'.nil]
    case word =>
      intro w s t hw hst
      rw [Expr.completions_alternatives_cons, Expr.completions_alternatives_cons]
      apply (hf.word hw hst).append (hfs'.word hw hst)
      intro y hy hmem
      obtain ⟨x, hx, hslot⟩ := exists_slot hfs (h.word_right hw t) hw hy
      exact havoid' _ _ hmem x hx hslot
end

end Form

end ChatCommands.Pattern
