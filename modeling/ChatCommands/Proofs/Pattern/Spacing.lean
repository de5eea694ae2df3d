import ChatCommands.Proofs.Pattern.Tracking

/-!
# Spacing

In a usage that goes word by word, what is captured in a text may still depend on the blanks between
its words: beside a part that is skipped without being an optional term itself two separators stay,
and only a gap of two blanks can be shared between them. Where even routes do for all that is
captured, the words decide.

Main statement: `byWords_iff`.
-/

namespace ChatCommands.Pattern

/-! ### Texts of the same words -/

/-- Whether what the pattern of a usage captures in a text depends on the words of the text only. -/
def ByWords (u : Usage) : Prop :=
  ∀ text text' : String, Text.words text.toList = Text.words text'.toList →
    (ofUsage u).captures? text = (ofUsage u).captures? text'

/-- Whether an even route through a usage passes some slots. -/
def PassesEvenly (u : Usage) (slots : List Slot) : Prop :=
  ∃ r ∈ (Form.ofUsage u).routes, r.Even ∧ r.fields.map Field.slot = slots

section
variable {source text : String} {u : Usage} {xs : List Capture}

lemma wordwise_of_read (hread : Usage.read source = .ok u)
    (hwords : ∀ t ∈ u.expression.walk, t.Wordwise) : Form.Wordwise [Form.ofUsage u] where
  wellFormed g hg := by
    rw [Form.walkAll, Form.walkAll, List.append_nil] at hg
    exact Form.wellFormed_of_read hread g hg
  isWord f hf v hv := by
    rw [Form.fieldsAll, Form.fieldsAll, List.append_nil] at hf
    exact Form.isWord_of_fits hread hwords hf hv
  nodup := by
    rw [Form.slotsAll_cons, Form.slotsAll, Form.fieldsAll, List.map_nil, List.append_nil]
    exact Form.nodup_slots_ofUsage u

/-- With single spaces between its words a text tracks itself. -/
lemma tracks_joined (hread : Usage.read source = .ok u)
    (hwords : ∀ t ∈ u.expression.walk, t.Wordwise) (text : String) :
    Tracks ((Form.ofUsage u).expr.completions atEnd (Text.joined (Text.words text.toList)))
      ((Form.ofUsage u).expr.completions atEnd (Text.trim text.toList)) := by
  have haligned := Form.aligned_expr _ (wordwise_of_read hread hwords) paired_atEnd
    (avoids_atEnd _)
  obtain ⟨hspaced, hws⟩ := Text.spaced_words (Text.trimmed_trim text.toList)
  rw [Text.words_trim] at hspaced hws
  cases hcases : Text.words text.toList with
  | nil =>
    rw [hcases, Text.spaced_nil_iff] at hspaced
    rw [hspaced, Text.joined_nil]
    exact Tracks.refl _
  | cons w ws =>
    rw [hcases] at hspaced hws
    obtain ⟨s, t, hs, ht, hst⟩ := Text.gapped_of_spaced hspaced hws
    rw [hs, ht]
    exact haligned.word (hws w List.mem_cons_self) hst

lemma captures?_eq_head? (u : Usage) (text : String) : (ofUsage u).captures? text =
    ((Form.ofUsage u).expr.completions atEnd (Text.trim text.toList)).head? := by
  rw [Pattern.captures?, Form.body_ofUsage, Expr.captures?_eq_head?]

lemma mem_completions_atEnd (hread : Usage.read source = .ok u) {cs : List Char} :
    xs ∈ (Form.ofUsage u).expr.completions atEnd cs ↔
      ∃ r ∈ (Form.ofUsage u).routes, r.Reads cs xs [] := by
  have htraces := Form.traces_expr (Form.ofUsage u) (Form.wellFormed_of_read hread)
  rw [Expr.completions, mem_completions]
  constructor
  · rintro ⟨⟨captures, rest⟩, ho, x, hx, rfl⟩
    cases rest with
    | nil =>
      obtain rfl := List.mem_singleton.mp hx
      rw [List.append_nil]
      exact (htraces _ _).mp ho
    | cons c cs => exact absurd hx List.not_mem_nil
  · rintro ⟨r, hr, hreads⟩
    exact ⟨⟨xs, []⟩, (htraces _ _).mpr ⟨r, hr, hreads⟩, [], List.mem_singleton_self _,
      (List.append_nil xs).symm⟩

/-- Fields of a form are told apart by their slots. -/
lemma fields_eq_of_slots {f : Form} (hnodup : f.slots.Nodup) {ds es : List Field}
    (hds : ∀ g ∈ ds, g ∈ f.fields) (hes : ∀ g ∈ es, g ∈ f.fields)
    (h : ds.map Field.slot = es.map Field.slot) : ds = es := by
  induction ds generalizing es with
  | nil => exact (List.map_eq_nil_iff.mp h.symm).symm
  | cons d ds ih =>
    obtain ⟨e, es, rfl, heq, htail⟩ := List.map_eq_cons_iff.mp h.symm
    have hhead : d = e := List.inj_on_of_nodup_map hnodup (hds d List.mem_cons_self)
      (hes e List.mem_cons_self) heq.symm
    subst hhead
    rw [ih (fun g hg => hds g (List.mem_cons_of_mem _ hg))
      (fun g hg => hes g (List.mem_cons_of_mem _ hg)) htail.symm]

/-- What a text captures with the slots of an even route can be captured with single spaces between
its words too. -/
lemma mem_completions_joined (hread : Usage.read source = .ok u)
    (hwords : ∀ t ∈ u.expression.walk, t.Wordwise) (h : (ofUsage u).captures? text = some xs)
    {r : Route} (hr : r ∈ (Form.ofUsage u).routes) (heven : r.Even)
    (hslots : r.fields.map Field.slot = xs.map Capture.slot) :
    xs ∈ (Form.ofUsage u).expr.completions atEnd (Text.joined (Text.words text.toList)) := by
  obtain ⟨r', hr', hreads⟩ := exists_route_of_captures? hread h
  have hsub : ∀ g ∈ r'.fields, g ∈ (Form.ofUsage u).fields := fun g hg =>
    (Form.fields_sublist _ hr').subset hg
  have hfields : r.fields = r'.fields := by
    rw [hreads.map_slot] at hslots
    exact fields_eq_of_slots (Form.nodup_slots_ofUsage u)
      (fun g hg => (Form.fields_sublist _ hr).subset hg) hsub hslots
  have hcaptures := hreads.captures
  have htexts : ∀ v ∈ xs.map (·.text.toList), Text.IsWord v := by
    intro v hv
    obtain ⟨x, hx, rfl⟩ := List.mem_map.mp hv
    obtain ⟨g, hg, -, hfits⟩ := exists_of_forall₂ hcaptures hx
    exact Form.isWord_of_mem_routes hread hwords hr' g hg _ hfits
  have hspaced := spaced_of_captures? hread h
  rw [← Text.words_trim, hspaced.words_eq htexts, mem_completions_atEnd hread]
  rw [← hfields] at hcaptures
  exact ⟨r, hr, heven.reads hcaptures⟩

/-- The same words with single spaces between them are read along even routes only. -/
lemma passesEvenly_of_byWords (hread : Usage.read source = .ok u)
    (hwords : ∀ t ∈ u.expression.walk, t.Wordwise) (hby : ByWords u)
    (h : (ofUsage u).captures? text = some xs) : PassesEvenly u (xs.map Capture.slot) := by
  have hws := (Text.spaced_words (Text.trimmed_trim text.toList)).2
  rw [Text.words_trim] at hws
  have hjoined : (ofUsage u).captures?
      (String.ofList (Text.joined (Text.words text.toList))) = some xs := by
    rw [← h]
    apply hby
    rw [String.toList_ofList, Text.words_joined hws]
  obtain ⟨r, hr, hreads⟩ := exists_route_of_captures? hread hjoined
  have htrimmed : Text.Trimmed (Text.joined (Text.words text.toList)) := by
    apply Text.trimmed_joined
    intro w hw
    exact ⟨(hws w hw).1, (hws w hw).trimmed⟩
  rw [String.toList_ofList, htrimmed.trim_eq] at hreads
  obtain ⟨heven, -⟩ := Form.even_of_reads hread hwords hws hr hreads
  exact ⟨r, hr, heven, hreads.map_slot.symm⟩

/-- Where only slots of even routes are captured, a text captures what its words do with single
spaces between them. -/
lemma captures?_eq_joined (hread : Usage.read source = .ok u)
    (hwords : ∀ t ∈ u.expression.walk, t.Wordwise)
    (heven : ∀ xs, (ofUsage u).captures? text = some xs → PassesEvenly u (xs.map Capture.slot)) :
    (ofUsage u).captures? text = ((Form.ofUsage u).expr.completions atEnd
      (Text.joined (Text.words text.toList))).head? := by
  have htracks := tracks_joined hread hwords text
  cases h : (ofUsage u).captures? text with
  | none =>
    rw [captures?_eq_head?, List.head?_eq_none_iff] at h
    rw [htracks.1 h, List.head?_nil]
  | some xs =>
    obtain ⟨r, hr, hr', hslots⟩ := heven xs h
    have hmem := mem_completions_joined hread hwords h hr hr' hslots
    rw [captures?_eq_head?] at h
    exact (htracks.2 xs h hmem).symm

/-- What is captured depends on the words of a text only, just if each text captures the slots of an
even route. So it does if there is an even route for each derivation, as in plain usages. -/
theorem byWords_iff (hread : Usage.read source = .ok u)
    (hwords : ∀ t ∈ u.expression.walk, t.Wordwise) :
    (ByWords u ↔ ∀ text xs, (ofUsage u).captures? text = some xs →
      PassesEvenly u (xs.map Capture.slot)) ∧
    ((∀ d ∈ (Form.ofUsage u).derivations, PassesEvenly u (d.map Field.slot)) → ByWords u) ∧
    ((∀ t ∈ u.expression.walk, t.Plain) → ByWords u) := by
  have hiff : ByWords u ↔ ∀ text xs, (ofUsage u).captures? text = some xs →
      PassesEvenly u (xs.map Capture.slot) := by
    constructor
    · intro hby text xs h
      exact passesEvenly_of_byWords hread hwords hby h
    · intro heven text text' hsame
      rw [captures?_eq_joined hread hwords (heven text),
        captures?_eq_joined hread hwords (heven text'), hsame]
  have hderivations : (∀ d ∈ (Form.ofUsage u).derivations, PassesEvenly u (d.map Field.slot)) →
      ByWords u := by
    intro hall
    apply hiff.mpr
    intro text xs h
    obtain ⟨r, hr, hreads⟩ := exists_route_of_captures? hread h
    rw [hreads.map_slot]
    exact hall _ ((Form.covers_routes _ _).mpr ⟨r, hr, rfl⟩)
  refine ⟨hiff, hderivations, fun hplain => hderivations fun d hd => ?_⟩
  obtain ⟨r, hr, rfl⟩ := (Form.covers_routes _ _).mp hd
  exact ⟨r, hr, Form.even_of_mem_routes (Form.plain_of_read hread hplain) hr, rfl⟩

theorem byWords_of_optional_group : ∃ u, Usage.read "<a> ['to' <b>]" = .ok u ∧ ByWords u := by
  have hread : Usage.read "<a> ['to' <b>]" = .ok ⟨"<a> ['to' <b>]", .sequence [.placeholder "a" 0,
      .optional (.sequence [.literal "to" 5, .placeholder "b" 10] 5) 4] 0⟩ := by cbv
  exact ⟨_, hread, (byWords_iff hread (by decide +kernel)).2.2 (by decide +kernel)⟩

/-- Two blanks go to the separators on both sides of the skipped `[<b>]`, one blank does not. -/
example : ¬ ByWords ⟨"<a> ([<b>] | <c>) <d>", .sequence [.placeholder "a" 0,
    .alternatives [.optional (.placeholder "b" 6) 5, .placeholder "c" 13] 4,
    .placeholder "d" 18] 0⟩ := fun h =>
  absurd (h "x y" "x  y" (by decide +kernel)) (by decide +kernel)

end

end ChatCommands.Pattern
