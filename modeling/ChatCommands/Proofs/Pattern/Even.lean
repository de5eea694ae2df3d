import ChatCommands.Proofs.Pattern.Derivation
import ChatCommands.Proofs.Pattern.Plain
import ChatCommands.Proofs.Text.Words

/-!
# Even routes

A route is even if it passes one separator between each two fields and none before the first one;
separators behind the last field do not matter, since they can be read at the end of a text. Values
with single spaces between them are read along even routes.

Main statements: `Even.reads`, `even_of_reads`, and that all routes of plain usages are even
(`even_of_mem_routes`).
-/

namespace ChatCommands.Pattern

namespace Route

/-- One separator between each two fields, and none before the first one. -/
inductive Even : Route → Prop
  | done (n : Nat) : Even (List.replicate n .separator)
  | last (f : Field) (n : Nat) : Even (.field f :: List.replicate n .separator)
  | next (f g : Field) {r : Route} (h : Even (.field g :: r)) :
      Even (.field f :: .separator :: .field g :: r)

/-! ### Even routes read single spaces -/

lemma reads_separators (n : Nat) : Reads (List.replicate n .separator) [] [] [] := by
  induction n with
  | zero => exact .done []
  | succ n ih => exact .finish ih

@[simp] lemma fields_separators (n : Nat) : fields (List.replicate n .separator) = [] := by
  induction n with
  | zero => rfl
  | succ n ih => rwa [List.replicate_succ, fields_separator]

lemma eq_separators {r : Route} (h : r.fields = []) : ∃ n, r = List.replicate n .separator := by
  induction r with
  | nil => exact ⟨0, rfl⟩
  | cons step r ih =>
    cases step with
    | separator =>
      obtain ⟨n, rfl⟩ := ih h
      exact ⟨n + 1, rfl⟩
    | field f => cases h

lemma Reads.capture {f : Field} {r : Route} {cs rest : List Char} {x : Capture} {xs : List Capture}
    (hx : f.Captures x) (h : Reads r cs xs rest) :
    Reads (.field f :: r) (x.text.toList ++ cs) (x :: xs) rest := by
  obtain ⟨hslot, hfits⟩ := hx
  have hread := Reads.field hfits h
  rw [String.ofList_toList, ← hslot] at hread
  exact hread

/-- Captures that the fields of an even route may have are read from their texts with single spaces
between them. -/
lemma Even.reads {r : Route} (h : r.Even) {xs : List Capture}
    (hxs : List.Forall₂ Field.Captures r.fields xs) :
    r.Reads (Text.joined (xs.map (·.text.toList))) xs [] := by
  induction h generalizing xs with
  | done n =>
    rw [fields_separators] at hxs
    cases hxs
    exact reads_separators n
  | last f n =>
    rw [fields_field, fields_separators] at hxs
    obtain ⟨x, xs, hx, hnil, rfl⟩ := List.forall₂_cons_left_iff.mp hxs
    cases hnil
    have hread := (reads_separators n).capture hx
    rw [List.append_nil] at hread
    simpa using hread
  | next f g h ih =>
    obtain ⟨x, ys, hx, hys, rfl⟩ := List.forall₂_cons_left_iff.mp hxs
    have hread := ih hys
    obtain ⟨y, zs, -, -, rfl⟩ := List.forall₂_cons_left_iff.mp hys
    have hgap : Reads (.separator :: _) ([' '] ++ _) _ _ :=
      .gap (List.cons_ne_nil _ _) Text.isBlank_of_mem_space hread
    exact hgap.capture hx

/-! ### Reading words along a route -/

lemma Led.head_blank {r : Route} {cs : List Char} {xs : List Capture} (hled : r.Led)
    (h : r.Reads cs xs []) : ∀ c, cs.head? = some c → Text.isBlank c := by
  cases h with
  | done | finish => simp
  | gap hne hblank h => exact Text.head_gap hne hblank
  | field hfits h => exact absurd rfl (hled _)

/-- If each field captures one word, words with single spaces between them are read along even
routes only, and are what is captured. -/
lemma even_of_reads {r : Route} {ws : List (List Char)} {xs : List Capture}
    (hws : ∀ w ∈ ws, Text.IsWord w) (hsep : r.Separated)
    (hfields : ∀ f ∈ r.fields, ∀ v, f.shape.Fits v → Text.IsWord v)
    (h : r.Reads (Text.joined ws) xs []) :
    r.Even ∧ xs.map (·.text.toList) = ws ∧ (ws ≠ [] → ∃ f s, r = .field f :: s) := by
  induction ws generalizing r xs with
  | nil =>
    have hxs := h.eq_nil fun f hf v hv => (hfields f hf v hv).1
    subst hxs
    obtain ⟨n, rfl⟩ := eq_separators (List.forall₂_nil_right_iff.mp h.captures)
    exact ⟨.done n, rfl, fun h => absurd rfl h⟩
  | cons w ws ih =>
    have hw := hws w List.mem_cons_self
    have hws' : ∀ v ∈ ws, Text.IsWord v := fun v hv => hws v (List.mem_cons_of_mem _ hv)
    obtain ⟨rest, hjoined, hrest⟩ := Text.joined_cons w ws
    rw [hjoined] at h
    generalize hcs : w ++ rest = cs at h
    cases h with
    | done => exact absurd (List.append_eq_nil_iff.mp hcs).1 hw.1
    | gap hne hblank h => exact absurd hcs.symm (hw.ne_gap hne hblank)
    | finish h => exact absurd (List.append_eq_nil_iff.mp hcs).1 hw.1
    | @field r f v cs xs rest' hfits h =>
      have hv := hfields f List.mem_cons_self v hfits
      have hled := Separated.led hsep
      have hsep' := List.IsChain.tail hsep
      have hfields' : ∀ g ∈ r.fields, ∀ v, g.shape.Fits v → Text.IsWord v :=
        fun g hg => hfields g (List.mem_cons_of_mem _ hg)
      rw [List.map_cons, String.toList_ofList]
      rcases hrest with ⟨rfl, rfl⟩ | ⟨hne, rfl⟩
      · -- nothing follows the last word, so the route has no further field
        obtain ⟨rfl, rfl⟩ := hv.append_inj hw (hled.head_blank h) (by simp) hcs.symm
        have hxs := h.eq_nil fun f hf v hv => (hfields' f hf v hv).1
        subst hxs
        obtain ⟨n, rfl⟩ := eq_separators (List.forall₂_nil_right_iff.mp h.captures)
        exact ⟨.last f n, rfl, fun _ => ⟨f, _, rfl⟩⟩
      · -- the next step takes the single space, and the one after it the next word
        obtain ⟨rfl, rfl⟩ := hv.append_inj hw (hled.head_blank h) Text.head_space hcs.symm
        generalize hcs : ' ' :: Text.joined ws = cs at h
        cases h with
        | done => cases hcs
        | @gap r gap cs xs rest' hgap hblank h =>
          obtain ⟨w', ws, rfl⟩ := List.exists_cons_of_ne_nil hne
          obtain ⟨rest, hjoined, -⟩ := Text.joined_cons w' ws
          cases gap with
          | nil => exact absurd rfl hgap
          | cons c gap =>
            obtain ⟨rfl, htail⟩ := List.cons.inj hcs
            have hnil : gap = [] := by
              by_contra hgap
              rw [hjoined] at htail
              exact (hws' w' List.mem_cons_self).ne_gap hgap
                (fun d hd => hblank d (List.mem_cons_of_mem _ hd)) htail.symm
            subst hnil
            have htail : Text.joined (w' :: ws) = cs := htail
            rw [← htail] at h
            obtain ⟨heven, htexts, hfield⟩ := ih hws' (List.IsChain.tail hsep') hfields' h
            obtain ⟨g, s, rfl⟩ := hfield hne
            exact ⟨.next f g heven, by rw [htexts], fun _ => ⟨f, _, rfl⟩⟩
        | finish h => cases hcs
        | field hfits h => exact absurd rfl (hled _)

end Route

namespace Form

section
variable {source : String} {u : Usage} {r : Route}

lemma isWord_of_mem_routes (hread : Usage.read source = .ok u)
    (hwords : ∀ t ∈ u.expression.walk, t.Wordwise) (hr : r ∈ (ofUsage u).routes) :
    ∀ f ∈ r.fields, ∀ v, f.shape.Fits v → Text.IsWord v := fun _ hf _ hv =>
  isWord_of_fits hread hwords ((fields_sublist _ hr).subset hf) hv

lemma even_of_reads (hread : Usage.read source = .ok u)
    (hwords : ∀ t ∈ u.expression.walk, t.Wordwise) {ws : List (List Char)}
    (hws : ∀ w ∈ ws, Text.IsWord w) (hr : r ∈ (ofUsage u).routes) {xs : List Capture}
    (h : r.Reads (Text.joined ws) xs []) : r.Even ∧ xs.map (·.text.toList) = ws := by
  obtain ⟨heven, htexts, -⟩ := Route.even_of_reads hws (separated_of_mem_routes _ hr)
    (isWord_of_mem_routes hread hwords hr) h
  exact ⟨heven, htexts⟩

end

end Form

namespace Route

/-! ### Routes of plain usages are even -/

/-- Fields with one separator between each two of them. -/
inductive Tight : Route → Prop
  | single (f : Field) : Tight [.field f]
  | cons (f : Field) {r : Route} (h : Tight r) : Tight (.field f :: .separator :: r)

namespace Tight

variable {r s : Route}

lemma exists_field (h : r.Tight) : ∃ f t, r = .field f :: t := by
  cases h with
  | single f => exact ⟨f, [], rfl⟩
  | cons f _ => exact ⟨f, _, rfl⟩

lemma join (hr : r.Tight) (hs : s.Tight) : Tight (r ++ .separator :: s) := by
  induction hr with
  | single f => exact .cons f hs
  | cons f _ ih => exact .cons f ih

lemma join_even (hr : r.Tight) (hs : s.Even) : Even (r ++ .separator :: s) := by
  induction hr with
  | single f =>
    cases hs with
    | done n => exact .last f (n + 1)
    | last g n => exact .next f g (.last g n)
    | next g g' h => exact .next f g (.next g g' h)
  | cons f hr ih =>
    obtain ⟨g, t, rfl⟩ := hr.exists_field
    exact .next f g ih

lemma even (h : r.Tight) : r.Even := by
  induction h with
  | single f => exact .last f 0
  | cons f hr ih =>
    obtain ⟨g, t, rfl⟩ := hr.exists_field
    exact .next f g ih

end Tight

end Route

namespace Form

open Route

lemma openingRoutes_required {f : Form} (hf : f.nullable = false) (g : Form) (gs : List Form) :
    openingRoutes (f :: g :: gs) = concats f.routes (laterRoutes (g :: gs)) := by
  cases f with
  | field | sequence | alternatives => rfl
  | optional b => cases hf

lemma laterRoutes_required {f : Form} (hf : f.nullable = false) (fs : List Form) :
    laterRoutes (f :: fs) = concats [[.separator]] (concats f.routes (laterRoutes fs)) := by
  cases f with
  | field | sequence | alternatives => rfl
  | optional b => cases hf

mutual
lemma tight_of_mem_routes {r : Route} (f : Form) (hplain : ∀ g ∈ f.walk, g.Plain)
    (hf : f.nullable = false) (h : r ∈ f.routes) : r.Tight := by
  match f with
  | .field f =>
    obtain rfl := List.mem_singleton.mp h
    exact .single f
  | .sequence ps =>
    exact tight_of_mem_opening ps (fun g hg => hplain g (List.mem_cons_of_mem _ hg))
      (hplain _ (self_mem_walk _)) hf h
  | .alternatives bs =>
    exact tight_of_mem_branches bs (fun g hg => hplain g (List.mem_cons_of_mem _ hg)) hf h
  | .optional b => cases hf

lemma tight_of_mem_opening {r : Route} (fs : List Form) (hplain : ∀ g ∈ walkAll fs, g.Plain)
    (hflat : ∀ f ∈ fs, f.isSequence = false) (hfs : allNullable fs = false)
    (h : r ∈ openingRoutes fs) : r.Tight := by
  match fs with
  | [] => cases hfs
  | [f] =>
    rw [allNullable, allNullable, Bool.and_true] at hfs
    exact tight_of_mem_routes f (fun g hg => hplain g (List.mem_append_left _ hg)) hfs h
  | f :: g :: gs =>
    have hf := hplain f (List.mem_append_left _ (self_mem_walk f))
    have hplain' : ∀ h ∈ walkAll (g :: gs), h.Plain := fun h hh =>
      hplain h (List.mem_append_right _ hh)
    have hflat' : ∀ h ∈ g :: gs, h.isSequence = false := fun h hh =>
      hflat h (List.mem_cons_of_mem _ hh)
    rcases required_or_optional hf (hflat f List.mem_cons_self) with hreq | ⟨b, rfl, hb⟩
    · rw [openingRoutes_required hreq] at h
      obtain ⟨s, hs, t, ht, rfl⟩ := mem_concats.mp h
      have hs := tight_of_mem_routes f (fun g hg => hplain g (List.mem_append_left _ hg)) hreq hs
      rcases tight_of_mem_later (g :: gs) hplain' hflat' ht with rfl | ⟨t, rfl, htight⟩
      · rwa [List.append_nil]
      · exact hs.join htight
    · obtain ⟨s, hs, t, ht, rfl⟩ := mem_concats.mp h
      have ht := tight_of_mem_opening (g :: gs) hplain' hflat' hfs ht
      rcases List.mem_append.mp hs with hs | hs
      · obtain ⟨u, hu, v, hv, rfl⟩ := mem_concats.mp hs
        obtain rfl := List.mem_singleton.mp hv
        have hplainb : ∀ h ∈ b.walk, h.Plain := fun h hh =>
          hplain h (List.mem_append_left _ (List.mem_cons_of_mem _ hh))
        rw [List.append_assoc]
        exact (tight_of_mem_routes b hplainb hb hu).join ht
      · obtain rfl := List.mem_singleton.mp hs
        exact ht

lemma tight_of_mem_later {r : Route} (fs : List Form) (hplain : ∀ g ∈ walkAll fs, g.Plain)
    (hflat : ∀ f ∈ fs, f.isSequence = false) (h : r ∈ laterRoutes fs) :
    r = [] ∨ ∃ s, r = .separator :: s ∧ Tight s := by
  match fs with
  | [] => exact Or.inl (List.mem_singleton.mp h)
  | f :: fs =>
    have hf := hplain f (List.mem_append_left _ (self_mem_walk f))
    have hlater : ∀ t ∈ laterRoutes fs, t = [] ∨ ∃ s, t = .separator :: s ∧ Tight s :=
      fun t ht => tight_of_mem_later fs (fun h hh => hplain h (List.mem_append_right _ hh))
        (fun h hh => hflat h (List.mem_cons_of_mem _ hh)) ht
    have hjoin : ∀ s t : Route, s.Tight → t ∈ laterRoutes fs → Tight (s ++ t) := by
      intro s t hs ht
      rcases hlater t ht with rfl | ⟨t, rfl, htight⟩
      · rwa [List.append_nil]
      · exact hs.join htight
    rcases required_or_optional hf (hflat f List.mem_cons_self) with hreq | ⟨b, rfl, hb⟩
    · rw [laterRoutes_required hreq] at h
      obtain ⟨u, hu, s, hs, rfl⟩ := mem_concats.mp h
      obtain rfl := List.mem_singleton.mp hu
      obtain ⟨v, hv, t, ht, rfl⟩ := mem_concats.mp hs
      have hv := tight_of_mem_routes f (fun g hg => hplain g (List.mem_append_left _ hg)) hreq hv
      exact Or.inr ⟨v ++ t, rfl, hjoin v t hv ht⟩
    · obtain ⟨s, hs, t, ht, rfl⟩ := mem_concats.mp h
      rcases List.mem_append.mp hs with hs | hs
      · obtain ⟨u, hu, v, hv, rfl⟩ := mem_concats.mp hs
        obtain rfl := List.mem_singleton.mp hu
        have hplainb : ∀ h ∈ b.walk, h.Plain := fun h hh =>
          hplain h (List.mem_append_left _ (List.mem_cons_of_mem _ hh))
        exact Or.inr ⟨v ++ t, rfl, hjoin v t (tight_of_mem_routes b hplainb hb hv) ht⟩
      · obtain rfl := List.mem_singleton.mp hs
        exact hlater t ht

lemma tight_of_mem_branches {r : Route} (fs : List Form) (hplain : ∀ g ∈ walkAll fs, g.Plain)
    (hfs : anyNullable fs = false) (h : r ∈ branchRoutes fs) : r.Tight := by
  match fs with
  | [] => exact absurd h List.not_mem_nil
  | f :: fs =>
    rw [anyNullable, Bool.or_eq_false_iff] at hfs
    rcases List.mem_append.mp h with h | h
    · exact tight_of_mem_routes f (fun g hg => hplain g (List.mem_append_left _ hg)) hfs.1 h
    · exact tight_of_mem_branches fs (fun g hg => hplain g (List.mem_append_right _ hg)) hfs.2 h
end

/-- An optional part is passed tightly or not at all. -/
lemma even_of_mem_optional {r : Route} {b : Form} (hplain : ∀ g ∈ b.walk, g.Plain)
    (hb : b.nullable = false) (h : r ∈ (optional b).routes) : r.Even := by
  rcases List.mem_append.mp h with h | h
  · exact (tight_of_mem_routes b hplain hb h).even
  · obtain rfl := List.mem_singleton.mp h
    exact .done 0

lemma even_of_mem_opening {r : Route} (fs : List Form) (hplain : ∀ g ∈ walkAll fs, g.Plain)
    (hflat : ∀ f ∈ fs, f.isSequence = false) (h : r ∈ openingRoutes fs) : r.Even := by
  match fs with
  | [] =>
    obtain rfl := List.mem_singleton.mp h
    exact .done 0
  | [f] =>
    have hf := hplain f (List.mem_append_left _ (self_mem_walk f))
    have hplainf : ∀ g ∈ f.walk, g.Plain := fun g hg => hplain g (List.mem_append_left _ hg)
    rcases required_or_optional hf (hflat f List.mem_cons_self) with hreq | ⟨b, rfl, hb⟩
    · exact (tight_of_mem_routes f hplainf hreq h).even
    · exact even_of_mem_optional (fun g hg => hplainf g (List.mem_cons_of_mem _ hg)) hb h
  | f :: g :: gs =>
    have hf := hplain f (List.mem_append_left _ (self_mem_walk f))
    rcases required_or_optional hf (hflat f List.mem_cons_self) with hreq | ⟨b, rfl, hb⟩
    · have hfs : allNullable (f :: g :: gs) = false := by rw [allNullable, hreq, Bool.false_and]
      exact (tight_of_mem_opening _ hplain hflat hfs h).even
    · obtain ⟨s, hs, t, ht, rfl⟩ := mem_concats.mp h
      have ht := even_of_mem_opening (g :: gs) (fun h hh => hplain h (List.mem_append_right _ hh))
        (fun h hh => hflat h (List.mem_cons_of_mem _ hh)) ht
      rcases List.mem_append.mp hs with hs | hs
      · obtain ⟨u, hu, v, hv, rfl⟩ := mem_concats.mp hs
        obtain rfl := List.mem_singleton.mp hv
        have hplainb : ∀ h ∈ b.walk, h.Plain := fun h hh =>
          hplain h (List.mem_append_left _ (List.mem_cons_of_mem _ hh))
        rw [List.append_assoc]
        exact (tight_of_mem_routes b hplainb hb hu).join_even ht
      · obtain rfl := List.mem_singleton.mp hs
        exact ht

/-- All routes through a plain form are even. -/
lemma even_of_mem_routes {r : Route} {f : Form} (hplain : ∀ g ∈ f.walk, g.Plain)
    (h : r ∈ f.routes) : r.Even := by
  match f with
  | .field f =>
    obtain rfl := List.mem_singleton.mp h
    exact .last f 0
  | .sequence ps =>
    exact even_of_mem_opening ps (fun g hg => hplain g (List.mem_cons_of_mem _ hg))
      (hplain _ (self_mem_walk _)) h
  | .alternatives bs =>
    have hbs := hplain _ (self_mem_walk (.alternatives bs))
    exact (tight_of_mem_routes (.alternatives bs) hplain hbs.2 h).even
  | .optional b =>
    exact even_of_mem_optional (fun g hg => hplain g (List.mem_cons_of_mem _ hg))
      (hplain _ (self_mem_walk (.optional b))) h

end Form

end ChatCommands.Pattern
