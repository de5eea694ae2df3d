import ChatCommands.Proofs.Pattern.Route
import ChatCommands.Proofs.Pattern.Slots
import ChatCommands.Proofs.Text.Spaced

/-!
# Derivations

A derivation of a usage is what is left of it when each optional part is taken or dropped, and one
branch of alternatives is chosen: a list of fields, left to right.

Main statement: `captures_sound`. What a pattern captures in a text is a derivation of its usage,
each field captures what it may, and nothing but gaps lies between the captures.
-/

namespace ChatCommands.Pattern

namespace Form

mutual
/-- The derivations of a form. -/
def derivations : Form → List (List Field)
  | field f => [[f]]
  | sequence parts => derivationsOfSequence parts
  | alternatives branches => derivationsOfBranches branches
  | optional body => derivations body ++ [[]]

/-- The derivations of forms one after another. -/
def derivationsOfSequence : List Form → List (List Field)
  | [] => [[]]
  | f :: fs => concats (derivations f) (derivationsOfSequence fs)

/-- The derivations of one of several forms. -/
def derivationsOfBranches : List Form → List (List Field)
  | [] => []
  | f :: fs => derivations f ++ derivationsOfBranches fs
end

end Form

/-! ### Routes pass derivations -/

@[simp] lemma concats_nil_left {α : Type} (xs : List (List α)) : concats [[]] xs = xs := by
  simp [concats]

@[simp] lemma concats_nil_right {α : Type} (xs : List (List α)) : concats xs [[]] = xs := by
  simp [concats]

/-- The fields that some routes pass are some derivations. -/
def Covers (routes : List Route) (derivations : List (List Field)) : Prop :=
  ∀ d, d ∈ derivations ↔ ∃ r ∈ routes, r.fields = d

namespace Covers

variable {rs ss : List Route} {ds es : List (List Field)}

lemma nil : Covers [[]] [[]] := fun d => by simp [eq_comm]

lemma separator : Covers [[.separator]] [[]] := fun d => by simp [eq_comm]

lemma field (f : Field) : Covers [[.field f]] [[f]] := fun d => by simp [eq_comm]

lemma append (hr : Covers rs ds) (hs : Covers ss es) : Covers (rs ++ ss) (ds ++ es) := by
  intro d
  rw [List.mem_append, hr d, hs d]
  constructor
  · rintro (⟨r, hmem, rfl⟩ | ⟨r, hmem, rfl⟩)
    · exact ⟨r, List.mem_append_left _ hmem, rfl⟩
    · exact ⟨r, List.mem_append_right _ hmem, rfl⟩
  · rintro ⟨r, hmem, rfl⟩
    rcases List.mem_append.mp hmem with hmem | hmem
    · exact Or.inl ⟨r, hmem, rfl⟩
    · exact Or.inr ⟨r, hmem, rfl⟩

lemma concats (hr : Covers rs ds) (hs : Covers ss es) :
    Covers (Pattern.concats rs ss) (Pattern.concats ds es) := by
  intro d
  constructor
  · intro h
    obtain ⟨d₁, h₁, d₂, h₂, rfl⟩ := mem_concats.mp h
    obtain ⟨r, hr, rfl⟩ := (hr d₁).mp h₁
    obtain ⟨s, hs, rfl⟩ := (hs d₂).mp h₂
    exact ⟨r ++ s, mem_concats.mpr ⟨r, hr, s, hs, rfl⟩, Route.fields_append r s⟩
  · rintro ⟨_, h, rfl⟩
    obtain ⟨r, hr', s, hs', rfl⟩ := mem_concats.mp h
    rw [Route.fields_append]
    exact mem_concats.mpr ⟨_, (hr _).mpr ⟨r, hr', rfl⟩, _, (hs _).mpr ⟨s, hs', rfl⟩, rfl⟩

/-- A separator behind routes, or before them, adds no field. -/
lemma trail (hr : Covers rs ds) : Covers (Pattern.concats rs [[.separator]]) ds := by
  have h := hr.concats separator
  rwa [concats_nil_right] at h

lemma lead (hr : Covers rs ds) : Covers (Pattern.concats [[.separator]] rs) ds := by
  have h := separator.concats hr
  rwa [concats_nil_left] at h

end Covers

namespace Form

mutual
/-- The routes through a form pass its derivations. -/
lemma covers_routes (f : Form) : Covers f.routes f.derivations := by
  match f with
  | .field f => exact Covers.field f
  | .sequence ps => exact covers_opening ps
  | .alternatives bs => exact covers_branches bs
  | .optional b => exact (covers_routes b).append Covers.nil

lemma covers_opening (fs : List Form) : Covers (openingRoutes fs) (derivationsOfSequence fs) := by
  match fs with
  | [] => exact Covers.nil
  | [f] =>
    rw [openingRoutes, derivationsOfSequence, derivationsOfSequence, concats_nil_right]
    exact covers_routes f
  | .optional b :: f :: fs =>
    exact ((covers_routes b).trail.append Covers.nil).concats (covers_opening (f :: fs))
  | .field _ :: g :: gs | .sequence _ :: g :: gs | .alternatives _ :: g :: gs =>
    exact (covers_routes _).concats (covers_later (g :: gs))

lemma covers_later (fs : List Form) : Covers (laterRoutes fs) (derivationsOfSequence fs) := by
  match fs with
  | [] => exact Covers.nil
  | .optional b :: fs =>
    exact ((covers_routes b).lead.append Covers.nil).concats (covers_later fs)
  | .field _ :: fs | .sequence _ :: fs | .alternatives _ :: fs =>
    exact ((covers_routes _).concats (covers_later fs)).lead

lemma covers_branches (fs : List Form) :
    Covers (branchRoutes fs) (derivationsOfBranches fs) := by
  match fs with
  | [] =>
    intro d
    simp [branchRoutes, derivationsOfBranches]
  | f :: fs => exact (covers_routes f).append (covers_branches fs)
end

/-! ### Fields of derivations -/

mutual
/-- A derivation passes fields of the form, in their order. -/
lemma sublist_of_mem_derivations {d : List Field} (f : Form) (h : d ∈ f.derivations) :
    d.Sublist f.fields := by
  match f with
  | .field f =>
    obtain rfl := List.mem_singleton.mp h
    exact List.Sublist.refl _
  | .sequence ps => exact sublist_of_mem_derivationsOfSequence ps h
  | .alternatives bs => exact sublist_of_mem_derivationsOfBranches bs h
  | .optional b =>
    rcases List.mem_append.mp h with h | h
    · exact sublist_of_mem_derivations b h
    · obtain rfl := List.mem_singleton.mp h
      exact List.nil_sublist _

lemma sublist_of_mem_derivationsOfSequence {d : List Field} (fs : List Form)
    (h : d ∈ derivationsOfSequence fs) : d.Sublist (fieldsAll fs) := by
  match fs with
  | [] =>
    obtain rfl := List.mem_singleton.mp h
    exact List.Sublist.refl _
  | f :: fs =>
    obtain ⟨d₁, h₁, d₂, h₂, rfl⟩ := mem_concats.mp h
    exact (sublist_of_mem_derivations f h₁).append (sublist_of_mem_derivationsOfSequence fs h₂)

lemma sublist_of_mem_derivationsOfBranches {d : List Field} (fs : List Form)
    (h : d ∈ derivationsOfBranches fs) : d.Sublist (fieldsAll fs) := by
  match fs with
  | [] => exact absurd h List.not_mem_nil
  | f :: fs =>
    rcases List.mem_append.mp h with h | h
    · exact (sublist_of_mem_derivations f h).trans (List.sublist_append_left _ _)
    · exact (sublist_of_mem_derivationsOfBranches fs h).trans (List.sublist_append_right _ _)
end

/-- A route passes fields of the form, in their order. -/
lemma fields_sublist {r : Route} (f : Form) (h : r ∈ f.routes) : r.fields.Sublist f.fields :=
  sublist_of_mem_derivations f ((covers_routes f _).mpr ⟨r, h, rfl⟩)

/-- Only the last field may take all the rest, and that only if `final`. -/
def RestLast (final : Bool) (d : List Field) : Prop :=
  ∀ f ∈ if final then d.dropLast else d, f.shape ≠ .rest

lemma RestLast.append {final : Bool} {d₁ d₂ : List Field} {last : Bool}
    (h₁ : RestLast (final && last) d₁) (h₂ : RestLast final d₂) (hlast : last → d₂ = []) :
    RestLast final (d₁ ++ d₂) := by
  intro f hf
  cases final with
  | false =>
    rcases List.mem_append.mp hf with hf | hf
    · exact h₁ f hf
    · exact h₂ f hf
  | true =>
    cases d₂ with
    | nil =>
      rw [List.append_nil] at hf
      cases last with
      | false => exact h₁ f ((List.dropLast_sublist _).subset hf)
      | true => exact h₁ f hf
    | cons g d₂ =>
      cases last with
      | true => cases hlast rfl
      | false =>
        rw [if_pos rfl, List.dropLast_append_of_ne_nil (List.cons_ne_nil _ _)] at hf
        rcases List.mem_append.mp hf with hf | hf
        · exact h₁ f hf
        · exact h₂ f hf

mutual
lemma restLast_of_mem_derivations {final : Bool} {d : List Field} (f : Form)
    (hf : f.RestsAtEnd final) (h : d ∈ f.derivations) : RestLast final d := by
  match f with
  | .field f =>
    obtain rfl := List.mem_singleton.mp h
    intro g hg
    cases final with
    | true => exact absurd hg List.not_mem_nil
    | false =>
      obtain rfl := List.mem_singleton.mp hg
      exact fun hrest => Bool.false_ne_true (hf hrest)
  | .sequence ps => exact restLast_of_mem_derivationsOfSequence ps hf h
  | .alternatives bs => exact restLast_of_mem_derivationsOfBranches bs hf h
  | .optional b =>
    rcases List.mem_append.mp h with h | h
    · exact restLast_of_mem_derivations b hf h
    · obtain rfl := List.mem_singleton.mp h
      cases final <;> simp [RestLast]

lemma restLast_of_mem_derivationsOfSequence {final : Bool} {d : List Field} (fs : List Form)
    (hfs : RestsAtEndOfSequence final fs) (h : d ∈ derivationsOfSequence fs) :
    RestLast final d := by
  match fs with
  | [] =>
    obtain rfl := List.mem_singleton.mp h
    cases final <;> simp [RestLast]
  | f :: fs =>
    obtain ⟨d₁, h₁, d₂, h₂, rfl⟩ := mem_concats.mp h
    have hlast := restLast_of_mem_derivations f hfs.1 h₁
    refine hlast.append (restLast_of_mem_derivationsOfSequence fs hfs.2 h₂) fun hempty => ?_
    obtain rfl := List.isEmpty_iff.mp hempty
    exact List.mem_singleton.mp h₂

lemma restLast_of_mem_derivationsOfBranches {final : Bool} {d : List Field} (fs : List Form)
    (hfs : RestsAtEndOfBranches final fs) (h : d ∈ derivationsOfBranches fs) :
    RestLast final d := by
  match fs with
  | [] => exact absurd h List.not_mem_nil
  | f :: fs =>
    rcases List.mem_append.mp h with h | h
    · exact restLast_of_mem_derivations f hfs.1 h
    · exact restLast_of_mem_derivationsOfBranches fs hfs.2 h
end

end Form

/-! ### Gaps along a route -/

lemma Field.WellFormed.ne_nil {f : Field} (hf : f.WellFormed) {v : List Char}
    (h : f.shape.Fits v) : v ≠ [] := by
  rw [Field.WellFormed] at hf
  split at hf
  · rw [hf.1] at h
    rintro rfl
    exact hf.2 (by simpa [Shape.Fits] using h)
  · rcases hf with hf | hf
    · rw [hf] at h
      exact h.1
    · rw [hf] at h
      exact h

/-- A literal captures its own text. -/
lemma Field.WellFormed.text_eq {f : Field} (hf : f.WellFormed) {x : Capture} (h : f.Captures x)
    (hliteral : x.slot.isLiteral = true) : x.text = x.slot.name := by
  obtain ⟨hslot, hfits⟩ := h
  rw [hslot] at hliteral ⊢
  rw [Field.WellFormed, if_pos hliteral] at hf
  rw [hf.1] at hfits
  exact String.toList_inj.mp hfits

namespace Route

/-- What is read along a route are its captures with gaps between them, and blanks at both ends. -/
lemma Reads.exists_spaced {r : Route} {cs rest : List Char} {xs : List Capture}
    (h : r.Reads cs xs rest) (hsep : r.Separated) (hfields : ∀ f ∈ r.fields, f.WellFormed) :
    ∃ lead body tail, cs = lead ++ body ++ tail ++ rest ∧ (∀ c ∈ lead, Text.isBlank c) ∧
      (∀ c ∈ tail, Text.isBlank c) ∧ Text.Spaced (xs.map (·.text.toList)) body ∧
      (r.Led → xs ≠ [] → lead ≠ []) := by
  induction h with
  | done cs => exact ⟨[], [], [], rfl, by simp, by simp, .nil, fun _ h => absurd rfl h⟩
  | @gap r gap cs xs rest hne hblank _ ih =>
    obtain ⟨lead, body, tail, rfl, hlead, htail, hbody, -⟩ := ih (List.IsChain.tail hsep) hfields
    refine ⟨gap ++ lead, body, tail, by simp, fun c hc => ?_, htail, hbody, fun _ _ h => ?_⟩
    · exact (List.mem_append.mp hc).elim (hblank c) (hlead c)
    · exact hne (List.append_eq_nil_iff.mp h).1
  | @finish r xs rest h ih =>
    obtain ⟨lead, body, tail, heq, -, -, hbody, -⟩ := ih (List.IsChain.tail hsep) hfields
    have heq := heq.symm
    simp only [List.append_eq_nil_iff] at heq
    obtain ⟨⟨⟨rfl, rfl⟩, rfl⟩, rfl⟩ := heq
    exact ⟨[], [], [], rfl, by simp, by simp, hbody,
      fun _ h' => absurd (h.eq_nil fun f hf _ => (hfields f hf).ne_nil) h'⟩
  | @field r f v cs xs rest hfits _ ih =>
    obtain ⟨lead, body, tail, rfl, hlead, htail, hbody, hne⟩ :=
      ih (List.IsChain.tail hsep) fun g hg => hfields g (List.mem_cons_of_mem _ hg)
    cases xs with
    | nil =>
      obtain rfl := Text.spaced_nil_iff.mp hbody
      refine ⟨[], v, lead ++ tail, by simp, by simp, fun c hc => ?_, ?_, fun hled => ?_⟩
      · exact (List.mem_append.mp hc).elim (hlead c) (htail c)
      · simpa using Text.Spaced.single v
      · exact absurd rfl (hled f)
    | cons x xs =>
      have hlead' := hne hsep.led (List.cons_ne_nil _ _)
      refine ⟨[], v ++ (lead ++ body), tail, by simp, by simp, htail, ?_, fun hled => ?_⟩
      · simpa using Text.Spaced.cons hlead' hlead hbody
      · exact absurd rfl (hled f)

end Route

/-! ### Captures are a derivation with gaps -/

/-- A pattern matches a text just if the trimmed text can be read along a route of its form. -/
lemma isSome_captures?_iff {source text : String} {u : Usage}
    (hread : Usage.read source = .ok u) : ((ofUsage u).captures? text).isSome ↔
      ∃ r ∈ (Form.ofUsage u).routes, ∃ xs, r.Reads (Text.trim text.toList) xs [] := by
  have htraces := Form.traces_expr (Form.ofUsage u) (Form.wellFormed_of_read hread)
  rw [Pattern.captures?, Form.body_ofUsage, Expr.captures?_eq_firstWhole, isSome_firstWhole]
  constructor
  · rintro ⟨xs, h⟩
    obtain ⟨r, hr, hreads⟩ := (htraces _ _).mp h
    exact ⟨r, hr, xs, hreads⟩
  · rintro ⟨r, hr, xs, hreads⟩
    exact ⟨xs, (htraces _ _).mpr ⟨r, hr, hreads⟩⟩

/-- What a pattern captures is read along a route of its form. -/
lemma exists_route_of_captures? {source text : String} {u : Usage} {xs : List Capture}
    (hread : Usage.read source = .ok u) (h : (ofUsage u).captures? text = some xs) :
    ∃ r ∈ (Form.ofUsage u).routes, r.Reads (Text.trim text.toList) xs [] := by
  rw [Pattern.captures?, Form.body_ofUsage, Expr.captures?_eq_firstWhole] at h
  have htraces := Form.traces_expr (Form.ofUsage u) (Form.wellFormed_of_read hread)
  exact (htraces _ _).mp (mem_of_firstWhole h)

lemma wellFormed_of_mem_fields {source : String} {u : Usage} (hread : Usage.read source = .ok u)
    {r : Route} (hr : r ∈ (Form.ofUsage u).routes) : ∀ f ∈ r.fields, f.WellFormed := fun _ hf =>
  Form.wellFormed_of_read hread _
    (Form.field_mem_walk _ ((Form.fields_sublist _ hr).subset hf))

/-- The trimmed text is what is captured in it, with gaps between the captures. -/
lemma spaced_of_captures? {source text : String} {u : Usage} {xs : List Capture}
    (hread : Usage.read source = .ok u) (h : (ofUsage u).captures? text = some xs) :
    Text.Spaced (xs.map (·.text.toList)) (Text.trim text.toList) := by
  obtain ⟨r, hr, hreads⟩ := exists_route_of_captures? hread h
  obtain ⟨lead, body, tail, heq, hlead, htail, hbody, -⟩ :=
    hreads.exists_spaced (Form.separated_of_mem_routes _ hr) (wellFormed_of_mem_fields hread hr)
  rw [List.append_nil] at heq
  have htrim := Text.trimmed_trim text.toList
  rw [heq] at htrim ⊢
  rwa [htrim.eq_of_append hlead htail]

/-- Matching is sound and loses nothing: the captures are those of a derivation, in slot order, each
literal captures its text, nothing follows what takes the rest, and the captures with gaps between
them are the trimmed text. -/
theorem captures_sound {source text : String} {u : Usage} {xs : List Capture}
    (hread : Usage.read source = .ok u) (h : (ofUsage u).captures? text = some xs) :
    (∃ d ∈ (Form.ofUsage u).derivations, List.Forall₂ Field.Captures d xs ∧
      ∀ f ∈ d.dropLast, f.shape ≠ .rest) ∧
    (xs.map Capture.slot).Sublist (ofUsage u).slots ∧ (ofUsage u).slots.Nodup ∧
    (∀ x ∈ xs, x.slot.isLiteral = true → x.text = x.slot.name) ∧
    Text.Spaced (xs.map (·.text.toList)) (Text.trim text.toList) ∧
    text.toList.filter Text.isSolid = (xs.map (·.text.toList)).flatten.filter Text.isSolid := by
  obtain ⟨r, hr, hreads⟩ := exists_route_of_captures? hread h
  have hd : r.fields ∈ (Form.ofUsage u).derivations := (Form.covers_routes _ _).mpr ⟨r, hr, rfl⟩
  have hsub := Form.fields_sublist _ hr
  have hwf := wellFormed_of_mem_fields hread hr
  have hslots : (ofUsage u).slots = (Form.ofUsage u).slots := by
    rw [Pattern.slots, Form.body_ofUsage, Form.slots_expr]
  have hbody := spaced_of_captures? hread h
  refine ⟨⟨r.fields, hd, hreads.captures, ?_⟩, ?_, ?_, ?_, hbody, ?_⟩
  · exact Form.restLast_of_mem_derivations _ (Form.restsAtEnd_of_read hread) hd
  · rw [hreads.map_slot, hslots]
    exact hsub.map _
  · rw [hslots]
    exact Form.nodup_slots_ofUsage u
  · intro x hx hliteral
    obtain ⟨f, hf, hcaptures⟩ := exists_of_forall₂ hreads.captures hx
    exact (hwf f hf).text_eq hcaptures hliteral
  · rw [← Text.filter_isSolid_trim, hbody.filter_isSolid]

theorem captures_sound_optional_group :
    ∃ u xs, Usage.read "<a> ['b' <c>]" = .ok u ∧ (ofUsage u).captures? " x  b y " = some xs ∧
      xs.map Capture.text = ["x", "b", "y"] ∧
      Text.Spaced (xs.map (·.text.toList)) (Text.trim " x  b y ".toList) := by
  have hread : Usage.read "<a> ['b' <c>]" = .ok ⟨"<a> ['b' <c>]", .sequence [.placeholder "a" 0,
      .optional (.sequence [.literal "b" 5, .placeholder "c" 9] 5) 4] 0⟩ := by cbv
  have hmatch : (ofUsage ⟨"<a> ['b' <c>]", .sequence [.placeholder "a" 0,
      .optional (.sequence [.literal "b" 5, .placeholder "c" 9] 5) 4] 0⟩).captures? " x  b y " =
      some [⟨.numbered "a" false 0, "x"⟩, ⟨.numbered "b" true 0, "b"⟩,
        ⟨.numbered "c" false 0, "y"⟩] := by decide +kernel
  exact ⟨_, _, hread, hmatch, rfl, (captures_sound hread hmatch).2.2.2.2.1⟩

end ChatCommands.Pattern
