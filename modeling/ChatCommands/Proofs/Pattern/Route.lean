import ChatCommands.Proofs.Pattern.Form
import ChatCommands.Proofs.Pattern.Outcome
import Mathlib.Data.List.Chain

/-!
# Routes

A route is one way through a usage: for each optional part it goes in or past, of alternatives it
takes one branch. It passes fields, and the separators that stand between the parts of sequences. A
separator beside an optional part belongs to the part, so that a route past the part does not pass
it.

Main statement: the outcomes of matching a form are what its routes can read (`traces_expr`).
-/

namespace ChatCommands.Pattern

/-- What a route passes. -/
inductive Step where
  | separator
  | field (f : Field)
  deriving DecidableEq, Repr

/-- One way through a usage. -/
abbrev Route := List Step

/-- Each list of the first ones followed by each of the second ones. -/
def concats {α : Type} (xs ys : List (List α)) : List (List α) :=
  xs.flatMap fun x => ys.map (x ++ ·)

@[simp] lemma mem_concats {α : Type} {xs ys : List (List α)} {l : List α} :
    l ∈ concats xs ys ↔ ∃ x ∈ xs, ∃ y ∈ ys, x ++ y = l := by
  simp [concats]

namespace Form

mutual
/-- The routes through a form. -/
def routes : Form → List Route
  | field f => [[.field f]]
  | sequence parts => openingRoutes parts
  | alternatives branches => branchRoutes branches
  | optional body => routes body ++ [[]]

/-- The routes through the parts of a sequence. A separator follows each optional part that stands
before the first required one. -/
def openingRoutes : List Form → List Route
  | [] => [[]]
  | [f] => routes f
  | .optional b :: f :: fs =>
    concats (concats (routes b) [[.separator]] ++ [[]]) (openingRoutes (f :: fs))
  | f :: g :: gs => concats (routes f) (laterRoutes (g :: gs))

/-- The routes through parts that stand behind a required one, each with a separator in front. -/
def laterRoutes : List Form → List Route
  | [] => [[]]
  | .optional b :: fs => concats (concats [[.separator]] (routes b) ++ [[]]) (laterRoutes fs)
  | f :: fs => concats [[.separator]] (concats (routes f) (laterRoutes fs))

/-- The routes through one of several forms. -/
def branchRoutes : List Form → List Route
  | [] => []
  | f :: fs => routes f ++ branchRoutes fs
end

end Form

/-! ### Reading along a route -/

/-- The field that a step passes. -/
def Step.field? : Step → Option Field
  | .separator => none
  | .field f => some f

/-- Whether a field may capture what was captured. -/
def Field.Captures (f : Field) (x : Capture) : Prop :=
  x.slot = f.slot ∧ f.shape.Fits x.text.toList

lemma exists_of_forall₂ {α β : Type} {R : α → β → Prop} {as : List α} {bs : List β} {b : β}
    (h : List.Forall₂ R as bs) (hb : b ∈ bs) : ∃ a ∈ as, R a b := by
  induction h with
  | nil => exact absurd hb List.not_mem_nil
  | cons hr _ ih =>
    rcases List.mem_cons.mp hb with rfl | hb
    · exact ⟨_, List.mem_cons_self, hr⟩
    · obtain ⟨a, ha, hr⟩ := ih hb
      exact ⟨a, List.mem_cons_of_mem _ ha, hr⟩

namespace Route

/-- The fields that a route passes. -/
def fields (r : Route) : List Field := r.filterMap Step.field?

@[simp] lemma fields_nil : fields [] = [] := rfl

@[simp] lemma fields_separator (r : Route) : fields (.separator :: r) = fields r := rfl

@[simp] lemma fields_field (f : Field) (r : Route) : fields (.field f :: r) = f :: fields r := rfl

@[simp] lemma fields_append (r s : Route) : fields (r ++ s) = fields r ++ fields s :=
  List.filterMap_append

/-- Along a route, the front of a text is read: each field takes what fits it, and each separator a
run of blanks, or nothing at the end of the text. -/
inductive Reads : Route → List Char → List Capture → List Char → Prop
  | done (cs : List Char) : Reads [] cs [] cs
  | gap {r : Route} {gap cs : List Char} {captures : List Capture} {rest : List Char}
      (hne : gap ≠ []) (hblank : ∀ c ∈ gap, Text.isBlank c) (h : Reads r cs captures rest) :
      Reads (.separator :: r) (gap ++ cs) captures rest
  | finish {r : Route} {captures : List Capture} {rest : List Char}
      (h : Reads r [] captures rest) : Reads (.separator :: r) [] captures rest
  | field {r : Route} {f : Field} {v cs : List Char} {captures : List Capture}
      {rest : List Char} (hfits : f.shape.Fits v) (h : Reads r cs captures rest) :
      Reads (.field f :: r) (v ++ cs) (⟨f.slot, String.ofList v⟩ :: captures) rest

namespace Reads

variable {r s : Route} {cs mid rest : List Char} {xs ys : List Capture}

lemma append (hr : Reads r cs xs mid) (hs : Reads s mid ys rest) :
    Reads (r ++ s) cs (xs ++ ys) rest := by
  induction hr with
  | done cs => exact hs
  | gap hne hblank _ ih => exact .gap hne hblank (ih hs)
  | finish _ ih => exact .finish (ih hs)
  | field hfits _ ih => exact .field hfits (ih hs)

lemma exists_of_append (h : Reads (r ++ s) cs xs rest) :
    ∃ xs₁ mid xs₂, Reads r cs xs₁ mid ∧ Reads s mid xs₂ rest ∧ xs = xs₁ ++ xs₂ := by
  induction r generalizing cs xs with
  | nil => exact ⟨[], cs, xs, .done cs, h, rfl⟩
  | cons step r ih =>
    cases h with
    | gap hne hblank h =>
      obtain ⟨xs₁, mid, xs₂, h₁, h₂, rfl⟩ := ih h
      exact ⟨xs₁, mid, xs₂, .gap hne hblank h₁, h₂, rfl⟩
    | finish h =>
      obtain ⟨xs₁, mid, xs₂, h₁, h₂, rfl⟩ := ih h
      exact ⟨xs₁, mid, xs₂, .finish h₁, h₂, rfl⟩
    | field hfits h =>
      obtain ⟨xs₁, mid, xs₂, h₁, h₂, rfl⟩ := ih h
      exact ⟨_, mid, xs₂, .field hfits h₁, h₂, rfl⟩

lemma nil_iff : Reads [] cs xs rest ↔ xs = [] ∧ rest = cs := by
  constructor
  · rintro ⟨⟩
    exact ⟨rfl, rfl⟩
  · rintro ⟨rfl, rfl⟩
    exact .done _

lemma separator_iff : Reads [.separator] cs xs rest ↔ xs = [] ∧ rest ∈ afterBoundary cs := by
  rw [mem_afterBoundary]
  constructor
  · rintro (_ | ⟨hne, hblank, h⟩ | h | _)
    · obtain ⟨rfl, rfl⟩ := nil_iff.mp h
      exact ⟨rfl, Or.inl ⟨_, rfl, hne, hblank⟩⟩
    · obtain ⟨rfl, rfl⟩ := nil_iff.mp h
      exact ⟨rfl, Or.inr ⟨rfl, rfl⟩⟩
  · rintro ⟨rfl, ⟨gap, rfl, hne, hblank⟩ | ⟨rfl, rfl⟩⟩
    · exact .gap hne hblank (.done _)
    · exact .finish (.done _)

lemma field_iff {f : Field} : Reads [.field f] cs xs rest ↔
    ∃ v, xs = [⟨f.slot, String.ofList v⟩] ∧ (v, rest) ∈ f.shape.takes cs := by
  simp only [Shape.mem_takes]
  constructor
  · rintro (_ | _ | _ | ⟨hfits, h⟩)
    obtain ⟨rfl, rfl⟩ := nil_iff.mp h
    exact ⟨_, rfl, rfl, hfits⟩
  · rintro ⟨v, rfl, rfl, hfits⟩
    exact .field hfits (.done _)

/-- What is read along a route is captured by its fields, one after another. -/
lemma captures (h : Reads r cs xs rest) : List.Forall₂ Field.Captures r.fields xs := by
  induction h with
  | done cs => exact .nil
  | gap _ _ _ ih => exact ih
  | finish _ ih => exact ih
  | field hfits _ ih => exact .cons ⟨rfl, by simpa using hfits⟩ ih

lemma map_slot (h : Reads r cs xs rest) : xs.map Capture.slot = r.fields.map Field.slot := by
  induction h with
  | done cs => rfl
  | gap _ _ _ ih => exact ih
  | finish _ ih => exact ih
  | field hfits _ ih => simp [ih]

/-- Nothing is captured in an empty text. -/
lemma eq_nil (h : Reads r [] xs rest) (hfields : ∀ f ∈ r.fields, ∀ v, f.shape.Fits v → v ≠ []) :
    xs = [] := by
  generalize hcs : ([] : List Char) = cs at h
  induction h with
  | done cs => rfl
  | gap hne _ _ _ => exact absurd (List.append_eq_nil_iff.mp hcs.symm).1 hne
  | finish _ ih => exact ih hfields rfl
  | field hfits _ _ =>
    have hne := hfields _ List.mem_cons_self _ hfits
    exact absurd (List.append_eq_nil_iff.mp hcs.symm).1 hne

/-- Nothing is left of an empty text. -/
lemma rest_eq_nil (h : Reads r cs xs rest) (hcs : cs = []) : rest = [] := by
  induction h with
  | done cs => exact hcs
  | gap hne _ _ _ => exact absurd (List.append_eq_nil_iff.mp hcs).1 hne
  | finish _ ih => exact ih rfl
  | field _ _ ih => exact ih (List.append_eq_nil_iff.mp hcs).2

/-- Where nothing is captured, only blanks are read. -/
lemma exists_blanks (h : Reads r cs [] rest) :
    ∃ gap, gap ++ rest = cs ∧ ∀ c ∈ gap, Text.isBlank c := by
  generalize hxs : ([] : List Capture) = xs at h
  induction h with
  | done cs => exact ⟨[], rfl, by simp⟩
  | @gap r gap cs captures rest hne hblank _ ih =>
    obtain ⟨gap', rfl, hblank'⟩ := ih hxs
    refine ⟨gap ++ gap', List.append_assoc _ _ _, fun c hc => ?_⟩
    exact (List.mem_append.mp hc).elim (hblank c) (hblank' c)
  | finish _ ih => exact ih hxs
  | field _ _ _ => cases hxs

end Reads

/-- Of two steps that follow each other at least one is a separator. -/
def Apart : Step → Step → Prop
  | .field _, .field _ => False
  | _, _ => True

/-- No two fields of a route follow each other without a separator. -/
def Separated (r : Route) : Prop := r.IsChain Apart

/-- A route that has a separator in front, if it has steps at all. -/
def Led (r : Route) : Prop := ∀ f, r.head? ≠ some (.field f)

namespace Separated

lemma append {r s : Route} (hr : Separated r) (hs : Separated s) (hled : Led s) :
    Separated (r ++ s) := by
  refine List.isChain_append.mpr ⟨hr, hs, fun x _ y hy => ?_⟩
  cases y with
  | separator => cases x <;> trivial
  | field f => exact absurd hy (hled f)

lemma led {f : Field} {r : Route} (h : Separated (.field f :: r)) : r.Led := by
  intro g hg
  exact (List.isChain_cons.mp h).1 _ hg

lemma separator (r : Route) (hr : Separated r) : Separated (.separator :: r) := by
  refine List.isChain_cons.mpr ⟨fun y _ => ?_, hr⟩
  cases y <;> trivial

end Separated

end Route

/-! ### Outcomes are what routes read -/

/-- Some outcomes are what some routes read. -/
def Traces (outcomes : List Char → List Outcome) (routes : List Route) : Prop :=
  ∀ cs o, o ∈ outcomes cs ↔ ∃ r ∈ routes, r.Reads cs o.captures o.rest

namespace Traces

lemma boundary : Traces Expr.boundary.outcomes [[.separator]] := fun cs ⟨captures, rest⟩ => by
  simp [Expr.outcomes, Route.Reads.separator_iff, and_comm, eq_comm]

lemma capture (f : Field) : Traces (Expr.capture f.slot f.shape).outcomes [[.field f]] :=
  fun cs ⟨captures, rest⟩ => by
    simp [Expr.outcomes, Route.Reads.field_iff, and_comm, eq_comm]

lemma nil : Traces (Expr.outcomesAll []) [[]] := fun cs ⟨captures, rest⟩ => by
  simp [Expr.outcomesAll, Route.Reads.nil_iff]

lemma cons {e : Expr} {es : List Expr} {rs ss : List Route} (he : Traces e.outcomes rs)
    (hes : Traces (Expr.outcomesAll es) ss) :
    Traces (Expr.outcomesAll (e :: es)) (concats rs ss) := by
  intro cs o
  simp only [Expr.outcomesAll, List.mem_flatMap, List.mem_map, mem_concats]
  constructor
  · rintro ⟨o₁, h₁, o₂, h₂, rfl⟩
    obtain ⟨r, hr, h₁⟩ := (he _ _).mp h₁
    obtain ⟨s, hs, h₂⟩ := (hes _ _).mp h₂
    exact ⟨r ++ s, ⟨r, hr, s, hs, rfl⟩, h₁.append h₂⟩
  · rintro ⟨_, ⟨r, hr, s, hs, rfl⟩, h⟩
    obtain ⟨xs, mid, ys, h₁, h₂, heq⟩ := h.exists_of_append
    refine ⟨⟨xs, mid⟩, (he _ _).mpr ⟨r, hr, h₁⟩, ⟨ys, o.rest⟩, (hes _ _).mpr ⟨s, hs, h₂⟩, ?_⟩
    rw [← heq]

lemma single {e : Expr} {rs : List Route} (he : Traces e.outcomes rs) :
    Traces (Expr.outcomesAll [e]) rs := by
  have h := he.cons nil
  simpa [concats] using h

lemma append {os ps : List Char → List Outcome} {rs ss : List Route} (ho : Traces os rs)
    (hp : Traces ps ss) : Traces (fun cs => os cs ++ ps cs) (rs ++ ss) := by
  intro cs o
  simp only [List.mem_append, ho cs o, hp cs o, or_and_right, exists_or]

lemma optional {es : List Expr} {rs : List Route} (h : Traces (Expr.outcomesAll es) rs) :
    Traces (Expr.optional (.sequence es)).outcomes (rs ++ [[]]) :=
  h.append nil

end Traces

namespace Form

mutual
lemma traces_expr (f : Form) (h : ∀ g ∈ f.walk, g.WellFormed) :
    Traces f.expr.outcomes f.routes := by
  match f with
  | .field f =>
    rw [routes]
    exact Traces.capture f
  | .sequence ps =>
    rw [expr_sequence, routes]
    exact traces_opening ps fun g hg => h g (List.mem_cons_of_mem _ hg)
  | .alternatives bs =>
    rw [expr_alternatives (h _ (self_mem_walk _)), routes]
    exact traces_branches bs fun g hg => h g (List.mem_cons_of_mem _ hg)
  | .optional b =>
    rw [expr_optional, routes]
    exact (traces_expr b fun g hg => h g (List.mem_cons_of_mem _ hg)).single.optional

lemma traces_opening (fs : List Form) (h : ∀ g ∈ walkAll fs, g.WellFormed) :
    Traces (Expr.outcomesAll (openingParts fs)) (openingRoutes fs) := by
  match fs with
  | [] => exact Traces.nil
  | [f] => exact (traces_expr f fun g hg => h g (List.mem_append_left _ hg)).single
  | .optional b :: f :: fs =>
    have hb := traces_expr b fun g hg => h g (List.mem_append_left _ (List.mem_cons_of_mem _ hg))
    have hfs := traces_opening (f :: fs) fun g hg => h g (List.mem_append_right _ hg)
    exact (hb.cons Traces.boundary.single).optional.cons hfs
  | .field _ :: g :: gs | .sequence _ :: g :: gs | .alternatives _ :: g :: gs =>
    have hgs := traces_later (g :: gs) fun g hg => h g (List.mem_append_right _ hg)
    exact (traces_expr _ fun g hg => h g (List.mem_append_left _ hg)).cons hgs

lemma traces_later (fs : List Form) (h : ∀ g ∈ walkAll fs, g.WellFormed) :
    Traces (Expr.outcomesAll (laterParts fs)) (laterRoutes fs) := by
  match fs with
  | [] => exact Traces.nil
  | .optional b :: fs =>
    have hb := traces_expr b fun g hg => h g (List.mem_append_left _ (List.mem_cons_of_mem _ hg))
    have hfs := traces_later fs fun g hg => h g (List.mem_append_right _ hg)
    exact (Traces.boundary.cons hb.single).optional.cons hfs
  | .field _ :: fs | .sequence _ :: fs | .alternatives _ :: fs =>
    have hfs := traces_later fs fun g hg => h g (List.mem_append_right _ hg)
    exact Traces.boundary.cons
      ((traces_expr _ fun g hg => h g (List.mem_append_left _ hg)).cons hfs)

lemma traces_branches (fs : List Form) (h : ∀ g ∈ walkAll fs, g.WellFormed) :
    Traces (Expr.alternatives (fs.map expr)).outcomes (branchRoutes fs) := by
  match fs with
  | [] =>
    intro cs o
    simp [Expr.outcomes, Expr.outcomesAny, branchRoutes]
  | f :: fs =>
    exact (traces_expr f fun g hg => h g (List.mem_append_left _ hg)).append
      (traces_branches fs fun g hg => h g (List.mem_append_right _ hg))
end

/-! ### Fields are apart -/

lemma led_separator (r : Route) : Route.Led (.separator :: r) := fun f h => by simp at h

lemma led_nil : Route.Led [] := fun f h => by simp at h

mutual
lemma separated_of_mem_routes {r : Route} (f : Form) (h : r ∈ f.routes) : r.Separated := by
  match f with
  | .field f =>
    obtain rfl := List.mem_singleton.mp h
    exact List.isChain_singleton _
  | .sequence ps => exact separated_of_mem_opening ps h
  | .alternatives bs => exact separated_of_mem_branches bs h
  | .optional b =>
    rw [routes, List.mem_append, List.mem_singleton] at h
    rcases h with h | rfl
    · exact separated_of_mem_routes b h
    · exact List.isChain_nil

lemma separated_of_mem_opening {r : Route} (fs : List Form) (h : r ∈ openingRoutes fs) :
    r.Separated := by
  match fs with
  | [] =>
    obtain rfl := List.mem_singleton.mp h
    exact List.isChain_nil
  | [f] => exact separated_of_mem_routes f h
  | .optional b :: f :: fs =>
    obtain ⟨s, hs, t, ht, rfl⟩ := mem_concats.mp h
    have ht := separated_of_mem_opening (f :: fs) ht
    rcases List.mem_append.mp hs with hs | hs
    · obtain ⟨u, hu, v, hv, rfl⟩ := mem_concats.mp hs
      obtain rfl := List.mem_singleton.mp hv
      rw [List.append_assoc]
      exact (separated_of_mem_routes b hu).append (ht.separator t) (led_separator t)
    · obtain rfl := List.mem_singleton.mp hs
      exact ht
  | .field _ :: g :: gs | .sequence _ :: g :: gs | .alternatives _ :: g :: gs =>
    obtain ⟨s, hs, t, ht, rfl⟩ := mem_concats.mp h
    obtain ⟨ht, hled⟩ := separated_of_mem_later (g :: gs) ht
    exact (separated_of_mem_routes _ hs).append ht hled

lemma separated_of_mem_later {r : Route} (fs : List Form) (h : r ∈ laterRoutes fs) :
    r.Separated ∧ r.Led := by
  match fs with
  | [] =>
    obtain rfl := List.mem_singleton.mp h
    exact ⟨List.isChain_nil, led_nil⟩
  | .optional b :: fs =>
    obtain ⟨s, hs, t, ht, rfl⟩ := mem_concats.mp h
    obtain ⟨ht, hled⟩ := separated_of_mem_later fs ht
    rcases List.mem_append.mp hs with hs | hs
    · obtain ⟨u, hu, v, hv, rfl⟩ := mem_concats.mp hs
      obtain rfl := List.mem_singleton.mp hu
      exact ⟨((separated_of_mem_routes b hv).append ht hled).separator, led_separator _⟩
    · obtain rfl := List.mem_singleton.mp hs
      exact ⟨ht, hled⟩
  | .field _ :: fs | .sequence _ :: fs | .alternatives _ :: fs =>
    obtain ⟨u, hu, s, hs, rfl⟩ := mem_concats.mp h
    obtain rfl := List.mem_singleton.mp hu
    obtain ⟨v, hv, t, ht, rfl⟩ := mem_concats.mp hs
    obtain ⟨ht, hled⟩ := separated_of_mem_later fs ht
    exact ⟨((separated_of_mem_routes _ hv).append ht hled).separator, led_separator _⟩

lemma separated_of_mem_branches {r : Route} (fs : List Form) (h : r ∈ branchRoutes fs) :
    r.Separated := by
  match fs with
  | [] => exact absurd h List.not_mem_nil
  | f :: fs =>
    rcases List.mem_append.mp h with h | h
    · exact separated_of_mem_routes f h
    · exact separated_of_mem_branches fs h
end

end Form

end ChatCommands.Pattern
