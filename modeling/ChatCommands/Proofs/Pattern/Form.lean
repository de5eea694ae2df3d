import ChatCommands.Pattern
import ChatCommands.Proofs.Usage.WellFormed
import Mathlib.Tactic.Common

/-!
# Forms

The form of a usage is its tree, with the slot of each literal and placeholder in place of names and
positions. A usage compiles to the expression of its form.

Main statements: compiling a term goes through its form (`fragment_eq`), the parts of a compiled
sequence fall into those up to the first required one and those after it (`join_toFragments`), and
the slots of a form are those of its expression (`slots_expr`).
-/

namespace ChatCommands.Pattern

/-- A field of a usage: the slot that captures it and what it may capture. -/
structure Field where
  slot : Slot
  shape : Shape
  deriving DecidableEq, Repr

/-- A field is named for what it may capture: the slot of a literal bears its text. -/
def Field.WellFormed (f : Field) : Prop :=
  if f.slot.isLiteral then f.shape = .exact f.slot.name ∧ f.slot.name ≠ ""
  else f.shape = .word ∨ f.shape = .rest

/-- The tree of a usage as matching sees it. -/
inductive Form where
  | field (f : Field)
  | sequence (parts : List Form)
  | alternatives (branches : List Form)
  | optional (body : Form)
  deriving Repr

namespace Form

/-! ### The form of a term -/

mutual
/-- The form of a term whose slots follow those of the keys `seen`. -/
def ofTerm : Term → Keys → Form × Keys
  | .literal text _, seen =>
    let (slot, seen) := newSlot text true seen
    (.field ⟨slot, .exact text⟩, seen)
  | .placeholder name _, seen =>
    let (slot, seen) := newSlot name false seen
    (.field ⟨slot, .word⟩, seen)
  | .trailing name _, seen =>
    let (slot, seen) := newSlot name false seen
    (.field ⟨slot, .rest⟩, seen)
  | .sequence terms _, seen =>
    let (fs, seen) := ofTerms terms seen
    (.sequence fs, seen)
  | .alternatives branches _, seen =>
    let (fs, seen) := ofTerms branches seen
    (.alternatives fs, seen)
  | .optional child _, seen =>
    let (f, seen) := ofTerm child seen
    (.optional f, seen)

/-- The forms of several terms. -/
def ofTerms : List Term → Keys → List Form × Keys
  | [], seen => ([], seen)
  | t :: ts, seen =>
    let (f, seen) := ofTerm t seen
    let (fs, seen) := ofTerms ts seen
    (f :: fs, seen)
end

@[simp] lemma ofTerms_nil (seen : Keys) : (ofTerms [] seen).1 = [] := rfl

@[simp] lemma ofTerms_cons (t : Term) (ts : List Term) (seen : Keys) :
    (ofTerms (t :: ts) seen).1 = (ofTerm t seen).1 :: (ofTerms ts (ofTerm t seen).2).1 := rfl

@[simp] lemma ofTerm_optional (t : Term) (position : Nat) (seen : Keys) :
    (ofTerm (.optional t position) seen).1 = .optional (ofTerm t seen).1 := rfl

/-- The form of a usage. -/
def ofUsage (u : Usage) : Form := (ofTerm u.expression []).1

/-! ### The expression of a form -/

mutual
/-- The fragment that a form compiles to. -/
def toFragment : Form → Fragment
  | field f => .required (.capture f.slot f.shape)
  | sequence parts => .required (.sequence (join (toFragments parts)))
  | alternatives branches => .required (choice ((toFragments branches).map Fragment.expr))
  | optional body => .skippable body.toFragment.expr

/-- The fragments of several forms. -/
def toFragments : List Form → List Fragment
  | [] => []
  | f :: fs => f.toFragment :: toFragments fs
end

/-- The expression that a form compiles to. -/
def expr (f : Form) : Expr := f.toFragment.expr

mutual
lemma fragment_eq (t : Term) (seen : Keys) :
    fragment t seen = ((ofTerm t seen).1.toFragment, (ofTerm t seen).2) := by
  match t with
  | .literal text _ => simp only [fragment, ofTerm, toFragment]
  | .placeholder name _ => simp only [fragment, ofTerm, toFragment]
  | .trailing name _ => simp only [fragment, ofTerm, toFragment]
  | .sequence terms _ => simp only [fragment, ofTerm, toFragment, fragments_eq terms seen]
  | .alternatives branches _ =>
    simp only [fragment, ofTerm, toFragment, fragments_eq branches seen]
  | .optional child _ => simp only [fragment, ofTerm, toFragment, fragment_eq child seen]

lemma fragments_eq (ts : List Term) (seen : Keys) :
    fragments ts seen = (toFragments (ofTerms ts seen).1, (ofTerms ts seen).2) := by
  match ts with
  | [] => simp only [fragments, ofTerms, toFragments]
  | t :: ts => simp only [fragments, ofTerms, toFragments, fragment_eq t seen, fragments_eq ts]
end

/-- A usage compiles to the expression of its form. -/
lemma body_ofUsage (u : Usage) : (Pattern.ofUsage u).body = (ofUsage u).expr := by
  simp only [Pattern.ofUsage, fragment_eq, ofUsage, expr]

@[simp] lemma expr_field (f : Field) : (field f).expr = .capture f.slot f.shape := rfl

@[simp] lemma expr_optional (b : Form) : (optional b).expr = .optional (.sequence [b.expr]) := rfl

/-! ### The parts of a sequence -/

/-- The expressions of parts that stand behind a required one. An optional part takes the boundary
in front of it in. -/
def laterParts : List Form → List Expr
  | [] => []
  | .optional b :: fs => .optional (.sequence [.boundary, b.expr]) :: laterParts fs
  | f :: fs => .boundary :: f.expr :: laterParts fs

/-- The expressions of the parts of a sequence. An optional part before the first required one
takes the boundary behind it in. -/
def openingParts : List Form → List Expr
  | [] => []
  | [f] => [f.expr]
  | .optional b :: f :: fs => .optional (.sequence [b.expr, .boundary]) :: openingParts (f :: fs)
  | f :: g :: gs => f.expr :: laterParts (g :: gs)

section

variable {f : Form} (hf : ∀ b, f ≠ .optional b)
include hf

lemma openingParts_cons (g : Form) (gs : List Form) :
    openingParts (f :: g :: gs) = f.expr :: laterParts (g :: gs) := by
  cases f with
  | optional b => exact absurd rfl (hf b)
  | field | sequence | alternatives => rfl

lemma laterParts_cons (fs : List Form) :
    laterParts (f :: fs) = .boundary :: f.expr :: laterParts fs := by
  cases f with
  | optional b => exact absurd rfl (hf b)
  | field | sequence | alternatives => rfl

end

/-- Behind a required part, and behind an optional one that has a boundary at its start, every
boundary goes to what follows. -/
lemma joinAfter_toFragments (e : Expr) (fs : List Form) :
    joinAfter (.required e) (toFragments fs) = e :: laterParts fs ∧
      joinAfter { Fragment.skippable e with lead := true } (toFragments fs)
        = .optional (.sequence [.boundary, e]) :: laterParts fs := by
  induction fs generalizing e with
  | nil => simp [toFragments, joinAfter, laterParts, Fragment.expr, Fragment.required,
      Fragment.skippable]
  | cons f fs ih =>
    have hr := fun e => (ih e).1
    have ho := fun e => (ih e).2
    simp only [Fragment.required, Fragment.skippable] at hr ho
    cases f <;> simp [toFragments, toFragment, joinAfter, laterParts, expr, Fragment.expr,
      Fragment.required, Fragment.skippable, hr, ho]

lemma join_toFragments (fs : List Form) : join (toFragments fs) = openingParts fs := by
  match fs with
  | [] => rfl
  | [f] => rfl
  | .optional b :: f :: fs =>
    have ih := join_toFragments (f :: fs)
    simp only [toFragments, join] at ih
    simp [toFragments, toFragment, join, joinAfter, openingParts, expr, Fragment.expr,
      Fragment.skippable, ih]
  | .field f :: g :: gs => exact (joinAfter_toFragments _ (g :: gs)).1
  | .sequence ps :: g :: gs => exact (joinAfter_toFragments _ (g :: gs)).1
  | .alternatives bs :: g :: gs => exact (joinAfter_toFragments _ (g :: gs)).1

@[simp] lemma expr_sequence (ps : List Form) :
    (sequence ps).expr = .sequence (openingParts ps) := by
  simp [expr, toFragment, Fragment.expr, Fragment.required, join_toFragments]

lemma map_expr_toFragments (fs : List Form) : (toFragments fs).map Fragment.expr = fs.map expr := by
  induction fs with
  | nil => rfl
  | cons f fs ih => simp [toFragments, expr, ih]

lemma expr_alternatives {bs : List Form} (h : bs ≠ []) :
    (alternatives bs).expr = .alternatives (bs.map expr) := by
  cases bs with
  | nil => exact absurd rfl h
  | cons b bs =>
    simp [expr, toFragment, toFragments, choice, map_expr_toFragments, Fragment.expr,
      Fragment.required]

/-! ### Fields -/

mutual
/-- The fields of a form, left to right. -/
def fields : Form → List Field
  | field f => [f]
  | sequence parts => fieldsAll parts
  | alternatives branches => fieldsAll branches
  | optional body => body.fields

/-- The fields of several forms. -/
def fieldsAll : List Form → List Field
  | [] => []
  | f :: fs => f.fields ++ fieldsAll fs
end

/-- The slots of a form, left to right. -/
def slots (f : Form) : List Slot := f.fields.map Field.slot

/-- The slots of several forms. -/
def slotsAll (fs : List Form) : List Slot := (fieldsAll fs).map Field.slot

lemma slotsAll_cons (f : Form) (fs : List Form) : slotsAll (f :: fs) = f.slots ++ slotsAll fs :=
  List.map_append

mutual
/-- A form has the slots of the expression it compiles to. -/
lemma slots_expr (f : Form) : f.expr.slots = f.slots := by
  match f with
  | .field f => rfl
  | .sequence ps =>
    rw [expr_sequence]
    exact slots_openingParts ps
  | .alternatives [] => rfl
  | .alternatives (b :: bs) =>
    rw [expr_alternatives (List.cons_ne_nil b bs)]
    exact slots_branches (b :: bs)
  | .optional b =>
    rw [expr_optional, Expr.slots, Expr.slots, Expr.slotsAll, Expr.slotsAll, slots_expr b,
      List.append_nil]
    rfl

lemma slots_openingParts (fs : List Form) : Expr.slotsAll (openingParts fs) = slotsAll fs := by
  match fs with
  | [] => rfl
  | [f] =>
    rw [openingParts, Expr.slotsAll, Expr.slotsAll, slots_expr f, slotsAll, fieldsAll, fieldsAll,
      List.append_nil, List.append_nil, slots]
  | .optional b :: f :: fs =>
    simp only [openingParts, Expr.slotsAll, Expr.slots, slots_expr b, slots_openingParts (f :: fs),
      List.append_nil, slotsAll, fieldsAll, fields, slots, List.map_append]
  | .field _ :: g :: gs | .sequence _ :: g :: gs | .alternatives _ :: g :: gs =>
    simp only [openingParts, Expr.slotsAll, slots_expr, slots_laterParts (g :: gs), slotsAll,
      fieldsAll, slots, List.map_append]

lemma slots_laterParts (fs : List Form) : Expr.slotsAll (laterParts fs) = slotsAll fs := by
  match fs with
  | [] => rfl
  | .optional b :: fs =>
    simp only [laterParts, Expr.slotsAll, Expr.slots, slots_expr b, slots_laterParts fs,
      List.append_nil, List.nil_append, slotsAll, fieldsAll, fields, slots, List.map_append]
  | .field _ :: fs | .sequence _ :: fs | .alternatives _ :: fs =>
    simp only [laterParts, Expr.slotsAll, Expr.slots, slots_expr, slots_laterParts fs,
      List.nil_append, slotsAll, fieldsAll, fields, slots, List.map_append]

lemma slots_branches (fs : List Form) : Expr.slotsAll (fs.map expr) = slotsAll fs := by
  match fs with
  | [] => rfl
  | f :: fs =>
    rw [List.map_cons, Expr.slotsAll, slots_expr f, slots_branches fs, slotsAll, slotsAll,
      fieldsAll, List.map_append, slots]
end

/-! ### Forms within a form -/

mutual
/-- A form and all forms in it, outer before inner, left to right. -/
def walk : Form → List Form
  | field f => [field f]
  | sequence parts => sequence parts :: walkAll parts
  | alternatives branches => alternatives branches :: walkAll branches
  | optional body => optional body :: body.walk

/-- The forms of a list with all forms in them. -/
def walkAll : List Form → List Form
  | [] => []
  | f :: fs => f.walk ++ walkAll fs
end

@[simp] lemma self_mem_walk (f : Form) : f ∈ f.walk := by
  cases f <;> simp [walk]

mutual
lemma field_mem_walk {f : Field} (g : Form) (h : f ∈ g.fields) : field f ∈ g.walk := by
  match g with
  | .field g =>
    obtain rfl := List.mem_singleton.mp h
    exact self_mem_walk _
  | .sequence ps => exact List.mem_cons_of_mem _ (field_mem_walkAll ps h)
  | .alternatives bs => exact List.mem_cons_of_mem _ (field_mem_walkAll bs h)
  | .optional b => exact List.mem_cons_of_mem _ (field_mem_walk b h)

lemma field_mem_walkAll {f : Field} (gs : List Form) (h : f ∈ fieldsAll gs) :
    field f ∈ walkAll gs := by
  match gs with
  | [] => exact absurd h List.not_mem_nil
  | g :: gs =>
    rcases List.mem_append.mp h with h | h
    · exact List.mem_append_left _ (field_mem_walk g h)
    · exact List.mem_append_right _ (field_mem_walkAll gs h)
end

mutual
/-- The forms within the form of a term are the forms of the terms in it. -/
lemma exists_term_of_mem_walk {g : Form} (t : Term) (seen : Keys)
    (h : g ∈ (ofTerm t seen).1.walk) : ∃ s ∈ t.walk, ∃ seen', g = (ofTerm s seen').1 := by
  match t with
  | .literal text p =>
    exact ⟨_, List.mem_singleton_self _, seen, List.mem_singleton.mp h⟩
  | .placeholder name p =>
    exact ⟨_, List.mem_singleton_self _, seen, List.mem_singleton.mp h⟩
  | .trailing name p =>
    exact ⟨_, List.mem_singleton_self _, seen, List.mem_singleton.mp h⟩
  | .sequence terms p =>
    rw [ofTerm, walk, List.mem_cons] at h
    rcases h with rfl | h
    · exact ⟨_, List.mem_cons_self, seen, rfl⟩
    · obtain ⟨s, hs, seen', rfl⟩ := exists_term_of_mem_walkAll terms seen h
      exact ⟨s, List.mem_cons_of_mem _ hs, seen', rfl⟩
  | .alternatives branches p =>
    rw [ofTerm, walk, List.mem_cons] at h
    rcases h with rfl | h
    · exact ⟨_, List.mem_cons_self, seen, rfl⟩
    · obtain ⟨s, hs, seen', rfl⟩ := exists_term_of_mem_walkAll branches seen h
      exact ⟨s, List.mem_cons_of_mem _ hs, seen', rfl⟩
  | .optional child p =>
    rw [ofTerm, walk, List.mem_cons] at h
    rcases h with rfl | h
    · exact ⟨_, List.mem_cons_self, seen, rfl⟩
    · obtain ⟨s, hs, seen', rfl⟩ := exists_term_of_mem_walk child seen h
      exact ⟨s, List.mem_cons_of_mem _ hs, seen', rfl⟩

lemma exists_term_of_mem_walkAll {g : Form} (ts : List Term) (seen : Keys)
    (h : g ∈ walkAll (ofTerms ts seen).1) :
    ∃ s ∈ Term.walkAll ts, ∃ seen', g = (ofTerm s seen').1 := by
  match ts with
  | [] => simp [ofTerms, walkAll] at h
  | t :: ts =>
    rw [ofTerms, walkAll, List.mem_append] at h
    rcases h with h | h
    · obtain ⟨s, hs, seen', rfl⟩ := exists_term_of_mem_walk t seen h
      exact ⟨s, List.mem_append_left _ hs, seen', rfl⟩
    · obtain ⟨s, hs, seen', rfl⟩ := exists_term_of_mem_walkAll ts _ h
      exact ⟨s, List.mem_append_right _ hs, seen', rfl⟩
end

/-- Each field of a usage is that of a literal or a placeholder in it. -/
lemma exists_term_of_mem_fields {f : Field} {u : Usage} (h : f ∈ (ofUsage u).fields) :
    (∃ text p, .literal text p ∈ u.expression.walk ∧ f.shape = .exact text) ∨
    (∃ name p, .placeholder name p ∈ u.expression.walk ∧ f.shape = .word) ∨
    (∃ name p, .trailing name p ∈ u.expression.walk ∧ f.shape = .rest) := by
  obtain ⟨t, ht, seen, heq⟩ := exists_term_of_mem_walk _ _ (field_mem_walk _ h)
  match t with
  | .literal text p =>
    obtain rfl := Form.field.inj heq
    exact Or.inl ⟨text, p, ht, rfl⟩
  | .placeholder name p =>
    obtain rfl := Form.field.inj heq
    exact Or.inr (Or.inl ⟨name, p, ht, rfl⟩)
  | .trailing name p =>
    obtain rfl := Form.field.inj heq
    exact Or.inr (Or.inr ⟨name, p, ht, rfl⟩)
  | .sequence .. | .alternatives .. | .optional .. => cases heq

/-! ### Well formed forms -/

/-- Whether a form is a sequence. -/
def isSequence : Form → Bool
  | sequence _ => true
  | _ => false

/-- What holds of every form of a usage that is read, apart from the forms in it. -/
def WellFormed : Form → Prop
  | field f => f.WellFormed
  | sequence parts => ∀ f ∈ parts, f.isSequence = false
  | alternatives branches => branches ≠ []
  | optional _ => True

lemma isSequence_ofTerm (t : Term) (seen : Keys) :
    (ofTerm t seen).1.isSequence = t.isSequence := by
  cases t <;> rfl

lemma exists_of_mem_ofTerms {f : Form} {ts : List Term} {seen : Keys}
    (h : f ∈ (ofTerms ts seen).1) : ∃ t ∈ ts, ∃ seen', f = (ofTerm t seen').1 := by
  induction ts generalizing seen with
  | nil => simp [ofTerms] at h
  | cons t ts ih =>
    rcases List.mem_cons.mp h with rfl | h
    · exact ⟨t, List.mem_cons_self, seen, rfl⟩
    · obtain ⟨s, hs, seen', rfl⟩ := ih h
      exact ⟨s, List.mem_cons_of_mem _ hs, seen', rfl⟩

lemma wellFormed_ofTerm {t : Term} (h : t.WellFormed) (seen : Keys) :
    (ofTerm t seen).1.WellFormed := by
  cases t with
  | literal text p => exact ⟨rfl, h⟩
  | placeholder name p => exact Or.inl rfl
  | trailing name p => exact Or.inr rfl
  | sequence ts p =>
    intro f hf
    obtain ⟨t, ht, seen', rfl⟩ := exists_of_mem_ofTerms hf
    rw [isSequence_ofTerm]
    exact h.2 t ht
  | alternatives ts p =>
    match ts, h with
    | [], h => exact absurd rfl h
    | t :: ts, _ => exact List.cons_ne_nil _ _
  | optional t p => trivial

/-- The forms of a usage that is read are well formed. -/
lemma wellFormed_of_read {source : String} {u : Usage} (h : Usage.read source = .ok u) :
    ∀ f ∈ (ofUsage u).walk, f.WellFormed := by
  intro f hf
  obtain ⟨t, ht, seen, rfl⟩ := exists_term_of_mem_walk _ _ hf
  exact wellFormed_ofTerm (Usage.wellFormed_of_read h t ht) seen

/-! ### Fields that take the rest -/

mutual
/-- Whether fields that take all the rest stand only where nothing follows; `final` tells that
nothing can follow the form. -/
def RestsAtEnd (final : Bool) : Form → Prop
  | field f => f.shape = .rest → final = true
  | sequence parts => RestsAtEndOfSequence final parts
  | alternatives branches => RestsAtEndOfBranches final branches
  | optional body => body.RestsAtEnd final

/-- In a sequence only the last part can be final. -/
def RestsAtEndOfSequence (final : Bool) : List Form → Prop
  | [] => True
  | f :: fs => f.RestsAtEnd (final && fs.isEmpty) ∧ RestsAtEndOfSequence final fs

/-- Each branch is as final as the alternatives. -/
def RestsAtEndOfBranches (final : Bool) : List Form → Prop
  | [] => True
  | f :: fs => f.RestsAtEnd final ∧ RestsAtEndOfBranches final fs
end

lemma isEmpty_ofTerms (ts : List Term) (seen : Keys) :
    (ofTerms ts seen).1.isEmpty = ts.isEmpty := by
  cases ts <;> rfl

mutual
lemma restsAtEnd_ofTerm {final : Bool} (t : Term) (seen : Keys)
    (h : Usage.misplaced? final t = none) : (ofTerm t seen).1.RestsAtEnd final := by
  match t with
  | .literal text _ =>
    rw [ofTerm, RestsAtEnd]
    simp
  | .placeholder name _ =>
    rw [ofTerm, RestsAtEnd]
    simp
  | .trailing name _ =>
    rw [Usage.misplaced?] at h
    rw [ofTerm, RestsAtEnd]
    simpa using h
  | .sequence terms _ =>
    rw [ofTerm, RestsAtEnd]
    exact restsAtEnd_ofTerms_sequence terms seen h
  | .alternatives branches _ =>
    rw [ofTerm, RestsAtEnd]
    exact restsAtEnd_ofTerms_branches branches seen h
  | .optional child _ =>
    rw [ofTerm, RestsAtEnd]
    exact restsAtEnd_ofTerm child seen h

lemma restsAtEnd_ofTerms_sequence {final : Bool} (ts : List Term) (seen : Keys)
    (h : Usage.misplacedInSequence? final ts = none) :
    RestsAtEndOfSequence final (ofTerms ts seen).1 := by
  match ts with
  | [] => trivial
  | t :: ts =>
    rw [Usage.misplacedInSequence?, Option.orElse_eq_orElse, Option.orElse_eq_or,
      Option.or_eq_none_iff] at h
    rw [ofTerms, RestsAtEndOfSequence, isEmpty_ofTerms]
    exact ⟨restsAtEnd_ofTerm t seen h.1, restsAtEnd_ofTerms_sequence ts _ h.2⟩

lemma restsAtEnd_ofTerms_branches {final : Bool} (ts : List Term) (seen : Keys)
    (h : Usage.misplacedInBranch? final ts = none) :
    RestsAtEndOfBranches final (ofTerms ts seen).1 := by
  match ts with
  | [] => trivial
  | t :: ts =>
    rw [Usage.misplacedInBranch?, Option.orElse_eq_orElse, Option.orElse_eq_or,
      Option.or_eq_none_iff] at h
    rw [ofTerms, RestsAtEndOfBranches]
    exact ⟨restsAtEnd_ofTerm t seen h.1, restsAtEnd_ofTerms_branches ts _ h.2⟩
end

/-- In a usage that is read, nothing can follow a field that takes all the rest. -/
lemma restsAtEnd_of_read {source : String} {u : Usage} (h : Usage.read source = .ok u) :
    (ofUsage u).RestsAtEnd true :=
  restsAtEnd_ofTerm _ _ (Usage.misplaced?_of_read h)

end Form

end ChatCommands.Pattern
