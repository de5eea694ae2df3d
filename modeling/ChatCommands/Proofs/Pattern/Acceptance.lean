import ChatCommands.Proofs.Pattern.Even

/-!
# Accepting the instances of a usage

An instance of a usage gives each field of a derivation a value; its text is the values with single
spaces between them. A pattern matches the text just if it can be read along a route. That is so if
a route of the derivation is even. The separators beside a part that may be empty, but is not an
optional term itself, stay when the part is skipped; then there is no even route, and the instance
is rejected unless it is also an instance of another derivation.

Main statement: `accepts_instance_iff`.
-/

namespace ChatCommands.Pattern

/-- Whether a value may be given to a field: a word to a placeholder, its text to a literal, and any
trimmed text to a placeholder that takes the rest. -/
def Field.Admits (f : Field) (v : String) : Prop :=
  match f.shape with
  | .word => Text.IsWord v.toList
  | .exact text => v = text
  | .rest => v ≠ "" ∧ Text.Trimmed v.toList

namespace Field.Admits

variable {f : Field} {v : String}

lemma fits (h : f.Admits v) : f.shape.Fits v.toList := by
  rw [Field.Admits] at h
  split at h <;> rename_i hshape <;> rw [hshape]
  · exact h
  · exact congrArg String.toList h
  · exact fun hnil => h.1 (String.toList_eq_nil_iff.mp hnil)

lemma captures (h : f.Admits v) : f.Captures ⟨f.slot, v⟩ := ⟨rfl, h.fits⟩

/-- Where literals neither start nor end with a blank, no value does. -/
lemma trimmed (h : f.Admits v) {source : String} {u : Usage} (hread : Usage.read source = .ok u)
    (hflush : ∀ t ∈ u.expression.walk, t.Flush) (hf : f ∈ (Form.ofUsage u).fields) :
    v.toList ≠ [] ∧ Text.Trimmed v.toList := by
  rw [Field.Admits] at h
  rcases Form.exists_term_of_mem_fields hf with ⟨text, p, ht, hshape⟩ | ⟨name, p, ht, hshape⟩ |
    ⟨name, p, ht, hshape⟩
  · rw [hshape] at h
    obtain rfl := h
    refine ⟨fun hnil => ?_, hflush _ ht⟩
    exact Usage.wellFormed_of_read hread _ ht (String.toList_eq_nil_iff.mp hnil)
  · rw [hshape] at h
    exact ⟨h.1, h.trimmed⟩
  · rw [hshape] at h
    exact ⟨fun hnil => h.1 (String.toList_eq_nil_iff.mp hnil), h.2⟩

end Field.Admits

/-- The captures of fields that have been given values. -/
lemma exists_captures {d : List Field} {values : List String}
    (h : List.Forall₂ Field.Admits d values) :
    ∃ xs, List.Forall₂ Field.Captures d xs ∧ xs.map Capture.text = values := by
  induction h with
  | nil => exact ⟨[], .nil, rfl⟩
  | cons hv _ ih =>
    obtain ⟨xs, hxs, rfl⟩ := ih
    exact ⟨_ :: xs, .cons hv.captures hxs, rfl⟩

lemma Field.Captures.admits {f : Field} {x : Capture} (h : f.Captures x)
    (hword : Text.IsWord x.text.toList) : f.Admits x.text := by
  obtain ⟨-, hfits⟩ := h
  rw [Field.Admits]
  split <;> rename_i hshape <;> rw [hshape] at hfits
  · exact hword
  · exact String.toList_inj.mp hfits
  · exact ⟨fun hnil => hword.1 (String.toList_eq_nil_iff.mpr hnil), hword.trimmed⟩

/-- Fields that captured words admit the words as values. -/
lemma admits_of_captures {d : List Field} {xs : List Capture} {values : List String}
    (h : List.Forall₂ Field.Captures d xs)
    (htexts : xs.map (·.text.toList) = values.map String.toList)
    (hwords : ∀ v ∈ values.map String.toList, Text.IsWord v) :
    List.Forall₂ Field.Admits d values := by
  induction h generalizing values with
  | nil =>
    obtain rfl := List.map_eq_nil_iff.mp htexts.symm
    exact .nil
  | @cons f x d xs hx _ ih =>
    obtain ⟨v, vs, rfl, hv, hvs⟩ := List.map_eq_cons_iff.mp htexts.symm
    have heq : v = x.text := String.toList_inj.mp hv
    subst heq
    refine .cons (hx.admits (hwords _ List.mem_cons_self)) (ih hvs.symm fun w hw => ?_)
    exact hwords w (List.mem_cons_of_mem _ hw)

/-! ### When an instance is accepted -/

/-- Whether the pattern of a usage matches a text. -/
def Accepts (u : Usage) (text : String) : Prop := ((ofUsage u).captures? text).isSome = true

section
variable {source : String} {u : Usage} {d : List Field} {values : List String}

lemma toList_instance (values : List String) :
    (" ".intercalate values).toList = Text.joined (values.map String.toList) :=
  String.toList_intercalate

/-- An instance has no blanks around it. -/
lemma trim_instance (hread : Usage.read source = .ok u)
    (hflush : ∀ t ∈ u.expression.walk, t.Flush) (hd : d ∈ (Form.ofUsage u).derivations)
    (hvalues : List.Forall₂ Field.Admits d values) :
    Text.trim (" ".intercalate values).toList = Text.joined (values.map String.toList) := by
  rw [toList_instance]
  refine (Text.trimmed_joined fun v hv => ?_).trim_eq
  obtain ⟨value, hvalue, rfl⟩ := List.mem_map.mp hv
  obtain ⟨f, hf, hadmits⟩ := exists_of_forall₂ hvalues hvalue
  exact hadmits.trimmed hread hflush ((Form.sublist_of_mem_derivations _ hd).subset hf)

/-- An instance is accepted just if its text can be read along a route. An even route of fields that
admit the values is enough, and if the usage goes word by word there has to be one; in a plain usage
there always is. -/
theorem accepts_instance_iff (hread : Usage.read source = .ok u)
    (hflush : ∀ t ∈ u.expression.walk, t.Flush) (hd : d ∈ (Form.ofUsage u).derivations)
    (hvalues : List.Forall₂ Field.Admits d values) :
    (Accepts u (" ".intercalate values) ↔ ∃ r ∈ (Form.ofUsage u).routes, ∃ xs,
      r.Reads (Text.joined (values.map String.toList)) xs []) ∧
    ((∃ r ∈ (Form.ofUsage u).routes, r.Even ∧ List.Forall₂ Field.Admits r.fields values) →
      Accepts u (" ".intercalate values)) ∧
    ((∀ t ∈ u.expression.walk, t.Wordwise) → Accepts u (" ".intercalate values) →
      ∃ r ∈ (Form.ofUsage u).routes, r.Even ∧ List.Forall₂ Field.Admits r.fields values) ∧
    ((∀ t ∈ u.expression.walk, t.Plain) → Accepts u (" ".intercalate values)) := by
  have hiff : Accepts u (" ".intercalate values) ↔ ∃ r ∈ (Form.ofUsage u).routes, ∃ xs,
      r.Reads (Text.joined (values.map String.toList)) xs [] := by
    rw [Accepts, isSome_captures?_iff hread, trim_instance hread hflush hd hvalues]
  have heven : (∃ r ∈ (Form.ofUsage u).routes, r.Even ∧
      List.Forall₂ Field.Admits r.fields values) → Accepts u (" ".intercalate values) := by
    rintro ⟨r, hr, heven, hadmits⟩
    obtain ⟨xs, hxs, rfl⟩ := exists_captures hadmits
    have hreads := heven.reads hxs
    refine hiff.mpr ⟨r, hr, xs, ?_⟩
    rwa [List.map_map]
  refine ⟨hiff, heven, fun hwords haccepts => ?_, fun hplain => heven ?_⟩
  · obtain ⟨r, hr, xs, hreads⟩ := hiff.mp haccepts
    have hvalues' : ∀ v ∈ values.map String.toList, Text.IsWord v := by
      intro v hv
      obtain ⟨value, hvalue, rfl⟩ := List.mem_map.mp hv
      obtain ⟨f, hf, hadmits⟩ := exists_of_forall₂ hvalues hvalue
      exact Form.isWord_of_fits hread hwords
        ((Form.sublist_of_mem_derivations _ hd).subset hf) hadmits.fits
    obtain ⟨heven, htexts⟩ := Form.even_of_reads hread hwords hvalues' hr hreads
    exact ⟨r, hr, heven, admits_of_captures hreads.captures htexts hvalues'⟩
  · obtain ⟨r, hr, rfl⟩ := (Form.covers_routes _ _).mp hd
    exact ⟨r, hr, Form.even_of_mem_routes (Form.plain_of_read hread hplain) hr, hvalues⟩

theorem accepts_instance_of_optional_group :
    ∃ u, Usage.read "<a> ['to' <b>]" = .ok u ∧ Accepts u (" ".intercalate ["x", "to", "y"]) := by
  have hread : Usage.read "<a> ['to' <b>]" = .ok ⟨"<a> ['to' <b>]", .sequence [.placeholder "a" 0,
      .optional (.sequence [.literal "to" 5, .placeholder "b" 10] 5) 4] 0⟩ := by cbv
  have hvalues : List.Forall₂ Field.Admits [⟨.numbered "a" false 0, .word⟩,
      ⟨.numbered "to" true 0, .exact "to"⟩, ⟨.numbered "b" false 0, .word⟩] ["x", "to", "y"] :=
    .cons (by decide : Text.IsWord ['x'])
      (.cons rfl (.cons (by decide : Text.IsWord ['y']) .nil))
  have haccepts := accepts_instance_iff hread (by decide +kernel) (by decide +kernel) hvalues
  exact ⟨_, hread, haccepts.2.2.2 (by decide +kernel)⟩

/-- The separators on both sides of the skipped `[<b>]` stay. -/
example : ¬ Accepts ⟨"<a> ([<b>] | <c>) <d>", .sequence [.placeholder "a" 0,
    .alternatives [.optional (.placeholder "b" 6) 5, .placeholder "c" 13] 4,
    .placeholder "d" 18] 0⟩ "x y" := by
  rw [Accepts]
  decide +kernel

end

end ChatCommands.Pattern
