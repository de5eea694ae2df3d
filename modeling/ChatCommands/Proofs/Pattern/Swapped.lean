import ChatCommands.Proofs.Parameters.Fixup
import ChatCommands.Proofs.Pattern.Derivation
import ChatCommands.Proofs.Pattern.Reading

/-!
# Swapped branches

Of the choice between a placeholder and a literal, the branch that is written first takes the text
of the literal. If such a choice is written the other way round, a text is matched just as before,
and nothing changes in what is captured but the name under which that text is.

Main statements: `Form.moves_expr`, `moves_captures?`, `countP_entries_le`.
-/

namespace ChatCommands

namespace Term

mutual
/-- Two terms differ, apart from positions, in choices between a placeholder and a literal only: the
second one has the literal first. Neither name is that of another literal or placeholder. -/
inductive Swapped (placeholder literal : String) : Term → Term → Prop
  | choice (i j k i' j' k' : Nat) : Swapped placeholder literal
      (.alternatives [.placeholder placeholder i, .literal literal j] k)
      (.alternatives [.literal literal i', .placeholder placeholder j'] k')
  | literal {text : String} (hplaceholder : text ≠ placeholder) (hliteral : text ≠ literal)
      (i j : Nat) : Swapped placeholder literal (.literal text i) (.literal text j)
  | placeholder {name : String} (hplaceholder : name ≠ placeholder) (hliteral : name ≠ literal)
      (i j : Nat) : Swapped placeholder literal (.placeholder name i) (.placeholder name j)
  | trailing {name : String} (hplaceholder : name ≠ placeholder) (hliteral : name ≠ literal)
      (i j : Nat) : Swapped placeholder literal (.trailing name i) (.trailing name j)
  | sequence {ts us : List Term} (h : SwappedAll placeholder literal ts us) (i j : Nat) :
      Swapped placeholder literal (.sequence ts i) (.sequence us j)
  | alternatives {ts us : List Term} (h : SwappedAll placeholder literal ts us) (i j : Nat) :
      Swapped placeholder literal (.alternatives ts i) (.alternatives us j)
  | optional {t u : Term} (h : Swapped placeholder literal t u) (i j : Nat) :
      Swapped placeholder literal (.optional t i) (.optional u j)

/-- The terms of two lists differ in this way one by one. -/
inductive SwappedAll (placeholder literal : String) : List Term → List Term → Prop
  | nil : SwappedAll placeholder literal [] []
  | cons {t u : Term} {ts us : List Term} (h : Swapped placeholder literal t u)
      (hs : SwappedAll placeholder literal ts us) :
      SwappedAll placeholder literal (t :: ts) (u :: us)
end

/-- Whether a term is the choice between a placeholder and a literal. -/
def isChoice (placeholder literal : String) : Term → Bool
  | .alternatives [.placeholder name _, .literal text _] _ => name = placeholder && text = literal
  | _ => false

end Term

namespace Pattern

variable {placeholder literal : String}

/-! ### What is captured under the other name -/

/-- The name and the text of what was captured. -/
def Capture.entry (x : Capture) : String × String := (x.slot.name, x.text)

/-- Two results are there together, and have the same captures but for the text of the literal,
which the second one has under the literal where the first one has it under the placeholder. -/
def Moves (placeholder literal : String) (r r' : Option (List Capture)) : Prop :=
  r'.map (List.map Capture.entry) =
    r.map (List.map fun x => Parameters.moved placeholder literal x.entry)

namespace Moves

variable {r r' s s' : Option (List Capture)} {x y : Capture}

lemma absent : Moves placeholder literal none none := rfl

lemma isSome_iff (h : Moves placeholder literal r r') : r'.isSome = r.isSome := by
  simpa using congrArg Option.isSome h

lemma or (h : Moves placeholder literal r r') (hs : Moves placeholder literal s s') :
    Moves placeholder literal (r.or s) (r'.or s') := by
  have hsome := h.isSome_iff
  cases r <;> cases r' <;> simp_all

lemma cons (hx : y.entry = Parameters.moved placeholder literal x.entry)
    (h : Moves placeholder literal r r') :
    Moves placeholder literal (r.map (x :: ·)) (r'.map (y :: ·)) := by
  have hmap := congrArg (Option.map (y.entry :: ·)) h
  simpa [Moves, Function.comp_def, hx] using hmap

lemma findSome? {α : Type} {f g : α → Option (List Capture)} {l : List α}
    (h : ∀ a ∈ l, Moves placeholder literal (f a) (g a)) :
    Moves placeholder literal (l.findSome? f) (l.findSome? g) := by
  induction l with
  | nil => exact absent
  | cons a l ih =>
    have hcons : ∀ k : α → Option (List Capture),
        (a :: l).findSome? k = (k a).or (l.findSome? k) := by
      intro k
      rw [List.findSome?_cons]
      cases k a <;> rfl
    rw [hcons, hcons]
    exact (h a List.mem_cons_self).or (ih fun b hb => h b (List.mem_cons_of_mem _ hb))

end Moves

/-- What goes on under two usages: in front of a word neither can, and elsewhere the second one
moves what the first one captures. -/
structure Alongside (placeholder literal : String)
    (next next' : List Char → Option (List Capture)) : Prop where
  stops : Form.Stops next
  stops' : Form.Stops next'
  moves : ∀ cs, Moves placeholder literal (next cs) (next' cs)

/-! ### Fields -/

section

variable {next next' : List Char → Option (List Capture)} {cs : List Char}

/-- A field that takes a word takes the whole word in front. -/
lemma first_word (slot : Slot) (hstops : Form.Stops next) :
    (Expr.capture slot .word).first next cs =
      if cs.takeWhile Text.isSolid = [] then none
      else (next (cs.dropWhile Text.isSolid)).map
        (⟨slot, String.ofList (cs.takeWhile Text.isSolid)⟩ :: ·) := by
  have hfirst : (Form.field ⟨slot, .word⟩).expr.first next cs = _ :=
    Form.first_field _ hstops nofun
  rw [Form.expr_field] at hfirst
  rw [hfirst, Field.readings, Shape.longest?]
  cases cs.takeWhile Text.isSolid <;> simp [first]

/-- A field that takes a fixed word takes the whole word in front, if that is it. -/
lemma first_literal (slot : Slot) (hstops : Form.Stops next)
    (hliteral : ∀ c ∈ literal.toList, Text.isSolid c) :
    (Expr.capture slot (.exact literal)).first next cs =
      if cs.takeWhile Text.isSolid = literal.toList then
        (next (cs.dropWhile Text.isSolid)).map (⟨slot, literal⟩ :: ·)
      else none := by
  rw [Expr.first_capture, Shape.takes]
  by_cases hfront : literal.toList <+: cs
  case neg =>
    have hne : cs.takeWhile Text.isSolid ≠ literal.toList := fun heq =>
      hfront (heq ▸ List.takeWhile_prefix _)
    rw [if_neg (mt List.isPrefixOf_iff_prefix.mp hfront), if_neg hne, List.findSome?_nil]
  case pos =>
    obtain ⟨rest, rfl⟩ := hfront
    rw [if_pos (List.isPrefixOf_iff_prefix.mpr (List.prefix_append _ _)), List.drop_left,
      List.takeWhile_append_of_pos hliteral, List.dropWhile_append_of_pos hliteral]
    cases rest with
    | nil => simp
    | cons c rest =>
      by_cases hc : Text.isSolid c
      · simp [hc, hstops c rest hc]
      · simp [hc]

lemma moves_field {f g : Field} (hshape : g.shape = f.shape) (hname : g.slot.name = f.slot.name)
    (hplaceholder : f.slot.name ≠ placeholder)
    (h : ∀ cs, Moves placeholder literal (next cs) (next' cs)) (cs : List Char) :
    Moves placeholder literal ((Form.field f).expr.first next cs)
      ((Form.field g).expr.first next' cs) := by
  rw [Form.expr_field, Form.expr_field, Expr.first_capture, Expr.first_capture, hshape]
  refine Moves.findSome? fun p _ => (h p.2).cons ?_
  rw [Parameters.moved_of_ne fun heq => hplaceholder (congrArg Prod.fst heq)]
  exact congrArg (·, String.ofList p.1) hname

/-- Only the text of the literal is captured by either branch, and by the one that comes first. -/
lemma moves_choice (hliteral : ∀ c ∈ literal.toList, Text.isSolid c) {p p' l l' : Slot}
    (hp : p.name = placeholder) (hp' : p'.name = placeholder) (hl : l.name = literal)
    (hl' : l'.name = literal) (h : Alongside placeholder literal next next') (cs : List Char) :
    Moves placeholder literal
      ((Expr.alternatives [.capture p .word, .capture l (.exact literal)]).first next cs)
      ((Expr.alternatives [.capture l' (.exact literal), .capture p' .word]).first next' cs) := by
  have hnone : ∀ go, (Expr.alternatives []).first go cs = none := fun _ => rfl
  have hor : ∀ (r : Option (List Capture)) (x y : Capture),
      (r.map (x :: ·)).or (r.map (y :: ·)) = r.map (x :: ·) := by
    intro r x y
    cases r <;> rfl
  simp only [Expr.first_alternatives_cons, hnone, Option.or_none, first_word _ h.stops,
    first_word _ h.stops', first_literal _ h.stops hliteral, first_literal _ h.stops' hliteral]
  have hgo := h.moves (cs.dropWhile Text.isSolid)
  generalize cs.dropWhile Text.isSolid = rest at hgo ⊢
  by_cases hword : cs.takeWhile Text.isSolid = literal.toList <;>
    by_cases hnil : cs.takeWhile Text.isSolid = []
  · -- Only an empty literal is found where there is no word.
    rw [if_pos hnil, if_pos hword, if_pos hword, if_pos hnil, Option.none_or, Option.or_none]
    refine hgo.cons ?_
    rw [Capture.entry, Capture.entry, hl, hl', Parameters.moved_literal]
  · rw [if_neg hnil, if_pos hword, if_pos hword, if_neg hnil, hword, String.ofList_toList, hor, hor]
    refine hgo.cons ?_
    rw [Capture.entry, Capture.entry, hp, hl', Parameters.moved, if_pos rfl]
  · rw [if_pos hnil, if_neg hword, if_neg hword, if_pos hnil]
    exact Moves.absent
  · rw [if_neg hnil, if_neg hword, if_neg hword, if_neg hnil, Option.or_none, Option.none_or]
    refine hgo.cons ?_
    have hother : (⟨p, String.ofList (cs.takeWhile Text.isSolid)⟩ : Capture).entry ≠
        (placeholder, literal) := fun heq =>
      hword (by simpa [Capture.entry] using congrArg (String.toList ∘ Prod.snd) heq)
    rw [Parameters.moved_of_ne hother, Capture.entry, Capture.entry, hp, hp']

end

/-! ### Forms -/

namespace Form

lemma first_alternatives_nil (next : List Char → Option (List Capture)) (cs : List Char) :
    (alternatives []).expr.first next cs = next cs := by
  have hexpr : (alternatives []).expr = .alternatives [.sequence []] := rfl
  have hnone : (Expr.alternatives []).first next cs = none := rfl
  rw [hexpr, Expr.first_alternatives_cons, Expr.first_sequence, Expr.firstAll_nil, hnone,
    Option.or_none]

/-- Swapped terms are optional both, or neither. -/
lemma optional_of_swapped {a b : Term} (h : Term.Swapped placeholder literal a b) :
    (∃ t u i j, a = .optional t i ∧ b = .optional u j ∧ Term.Swapped placeholder literal t u) ∨
    ∀ seen seen' c, (ofTerm a seen).1 ≠ .optional c ∧ (ofTerm b seen').1 ≠ .optional c := by
  cases h with
  | optional h i j => exact Or.inl ⟨_, _, i, j, rfl, rfl, h⟩
  | choice | literal | placeholder | trailing | sequence | alternatives =>
    exact Or.inr fun _ _ _ => ⟨nofun, nofun⟩

section

variable {next next' : List Char → Option (List Capture)}

lemma alongside_boundary (h : ∀ cs, Moves placeholder literal (next cs) (next' cs)) :
    Alongside placeholder literal (Expr.boundary.first next) (Expr.boundary.first next') where
  stops := stops_boundary next
  stops' := stops_boundary next'
  moves cs := by
    rw [Expr.first_boundary, Expr.first_boundary]
    exact Moves.findSome? fun rest _ => h rest

end

-- By recursion on the terms of the first usage. What goes on is generalised: it is a boundary with
-- the parts behind, wherever a part does not come last.
mutual
/-- Swapped choices move what they capture. -/
lemma moves_expr {a b : Term} {next next' : List Char → Option (List Capture)}
    (hliteral : ∀ c ∈ literal.toList, Text.isSolid c)
    (h : Term.Swapped placeholder literal a b)
    (hnext : Alongside placeholder literal next next') (seen seen' : Keys) (cs : List Char) :
    Moves placeholder literal ((ofTerm a seen).1.expr.first next cs)
      ((ofTerm b seen').1.expr.first next' cs) := by
  cases h with
  | choice => refine moves_choice hliteral ?_ ?_ ?_ ?_ hnext cs <;> rfl
  | literal hp | placeholder hp | trailing hp =>
    refine moves_field ?_ ?_ ?_ hnext.moves cs
    exacts [rfl, rfl, hp]
  | sequence hs _ _ =>
    rw [ofTerm, ofTerm, expr_sequence, expr_sequence]
    exact moves_opening hliteral hs hnext seen seen' cs
  | alternatives hs _ _ =>
    rw [ofTerm, ofTerm]
    cases hs with
    | nil =>
      rw [ofTerms, ofTerms, first_alternatives_nil, first_alternatives_nil]
      exact hnext.moves cs
    | cons ha has =>
      rw [expr_alternatives (by simp), expr_alternatives (by simp)]
      exact moves_branches hliteral (.cons ha has) hnext seen seen' cs
  | optional hb _ _ =>
    rw [ofTerm_optional, ofTerm_optional, expr_optional, expr_optional, Expr.first_single,
      Expr.first_single]
    exact (moves_expr hliteral hb hnext seen seen' cs).or (hnext.moves cs)
termination_by sizeOf a

lemma moves_opening {as bs : List Term} {next next' : List Char → Option (List Capture)}
    (hliteral : ∀ c ∈ literal.toList, Text.isSolid c)
    (h : Term.SwappedAll placeholder literal as bs)
    (hnext : Alongside placeholder literal next next') (seen seen' : Keys) (cs : List Char) :
    Moves placeholder literal (Expr.firstAll (openingParts (ofTerms as seen).1) next cs)
      (Expr.firstAll (openingParts (ofTerms bs seen').1) next' cs) := by
  cases h with
  | nil =>
    rw [ofTerms_nil, ofTerms_nil, openingParts, Expr.firstAll_nil, Expr.firstAll_nil]
    exact hnext.moves cs
  | @cons a b as bs ha has =>
    cases has with
    | nil =>
      rw [ofTerms_cons, ofTerms_cons, ofTerms_nil, ofTerms_nil, openingParts, openingParts,
        Expr.firstAll_cons, Expr.firstAll_cons, Expr.firstAll_nil, Expr.firstAll_nil]
      exact moves_expr hliteral ha hnext seen seen' cs
    | cons hb hbs =>
      have hrest := moves_opening hliteral (.cons hb hbs) hnext (ofTerm a seen).2 (ofTerm b seen').2
      rcases optional_of_swapped ha with ⟨t, u, i, j, rfl, rfl, htu⟩ | hforms
      · rw [ofTerms_cons, ofTerms_cons, ofTerms_cons, ofTerms_cons, ofTerm_optional,
          ofTerm_optional, openingParts, openingParts, Expr.firstAll_cons, Expr.firstAll_cons,
          Expr.first_trail, Expr.first_trail]
        exact (moves_expr hliteral htu (alongside_boundary hrest) seen seen' cs).or (hrest cs)
      · rw [ofTerms_cons, ofTerms_cons, ofTerms_cons, ofTerms_cons,
          openingParts_cons fun c => (hforms _ seen' c).1,
          openingParts_cons fun c => (hforms seen _ c).2, Expr.firstAll_cons, Expr.firstAll_cons]
        exact moves_expr hliteral ha (alongside_later hliteral (.cons hb hbs) hnext _ _) seen seen'
          cs
termination_by sizeOf as

lemma alongside_later {as bs : List Term} {next next' : List Char → Option (List Capture)}
    (hliteral : ∀ c ∈ literal.toList, Text.isSolid c)
    (h : Term.SwappedAll placeholder literal as bs)
    (hnext : Alongside placeholder literal next next') (seen seen' : Keys) :
    Alongside placeholder literal (Expr.firstAll (laterParts (ofTerms as seen).1) next)
      (Expr.firstAll (laterParts (ofTerms bs seen').1) next') := by
  refine ⟨stops_laterParts _ hnext.stops, stops_laterParts _ hnext.stops', fun cs => ?_⟩
  cases h with
  | nil =>
    rw [ofTerms_nil, ofTerms_nil, laterParts, Expr.firstAll_nil, Expr.firstAll_nil]
    exact hnext.moves cs
  | @cons a b as bs ha has =>
    have hrest := alongside_later hliteral has hnext (ofTerm a seen).2 (ofTerm b seen').2
    rcases optional_of_swapped ha with ⟨t, u, i, j, rfl, rfl, htu⟩ | hforms
    · have hpart := moves_expr hliteral htu hrest seen seen'
      rw [ofTerms_cons, ofTerms_cons, ofTerm_optional, ofTerm_optional, laterParts, laterParts,
        Expr.firstAll_cons, Expr.firstAll_cons, Expr.first_lead, Expr.first_lead]
      exact ((alongside_boundary hpart).moves cs).or (hrest.moves cs)
    · have hpart := moves_expr hliteral ha hrest seen seen'
      rw [ofTerms_cons, ofTerms_cons, laterParts_cons fun c => (hforms _ seen' c).1,
        laterParts_cons fun c => (hforms seen _ c).2, Expr.firstAll_cons, Expr.firstAll_cons,
        Expr.firstAll_cons, Expr.firstAll_cons]
      exact (alongside_boundary hpart).moves cs
termination_by sizeOf as

lemma moves_branches {as bs : List Term} {next next' : List Char → Option (List Capture)}
    (hliteral : ∀ c ∈ literal.toList, Text.isSolid c)
    (h : Term.SwappedAll placeholder literal as bs)
    (hnext : Alongside placeholder literal next next') (seen seen' : Keys) (cs : List Char) :
    Moves placeholder literal
      ((Expr.alternatives ((ofTerms as seen).1.map expr)).first next cs)
      ((Expr.alternatives ((ofTerms bs seen').1.map expr)).first next' cs) := by
  cases h with
  | nil => exact Moves.absent
  | cons ha has =>
    rw [ofTerms_cons, ofTerms_cons, List.map_cons, List.map_cons, Expr.first_alternatives_cons,
      Expr.first_alternatives_cons]
    exact (moves_expr hliteral ha hnext _ _ cs).or
      (moves_branches hliteral has hnext _ _ cs)
termination_by sizeOf as

end

/-! ### One choice captures once -/

/-- The number of fields with the name of the placeholder or of the literal. -/
def named (placeholder literal : String) (d : List Field) : Nat :=
  (d.map Field.slot).countP fun s => s.name = placeholder ∨ s.name = literal

lemma named_append (d₁ d₂ : List Field) : named placeholder literal (d₁ ++ d₂) =
    named placeholder literal d₁ + named placeholder literal d₂ := by
  rw [named, List.map_append, List.countP_append]
  rfl

lemma named_le_length (d : List Field) : named placeholder literal d ≤ d.length := by
  rw [named, ← List.length_map Field.slot]
  exact List.countP_le_length

mutual
/-- A derivation passes one field at most for each choice. -/
lemma named_derivation_le {a b : Term} {d : List Field}
    (h : Term.Swapped placeholder literal a b) (seen : Keys)
    (hd : d ∈ (ofTerm a seen).1.derivations) :
    named placeholder literal d ≤
      a.walk.countP (Term.isChoice placeholder literal) := by
  cases h with
  | choice =>
    have hlength : d.length ≤ 1 := by
      rcases List.mem_append.mp hd with hd | hd
      · exact (congrArg List.length (List.mem_singleton.mp hd)).le
      · exact (congrArg List.length (List.mem_singleton.mp hd)).le
    refine ((named_le_length d).trans hlength).trans ?_
    rw [Term.walk, List.countP_cons_of_pos (by simp [Term.isChoice])]
    exact Nat.le_add_left 1 _
  | literal hp hl | placeholder hp hl | trailing hp hl =>
    obtain rfl := List.mem_singleton.mp hd
    simp [named, Slot.numbered, hp, hl]
  | sequence hs =>
    rw [Term.walk, List.countP_cons_of_neg Bool.false_ne_true]
    exact named_derivation_le_of_sequence hs seen hd
  | alternatives hs =>
    refine Nat.le_trans (named_derivation_le_of_branches hs seen hd) ?_
    exact (List.sublist_cons_self _ _).countP_le
  | optional hb =>
    rw [Term.walk, List.countP_cons_of_neg Bool.false_ne_true]
    rcases List.mem_append.mp hd with hd | hd
    · exact named_derivation_le hb seen hd
    · obtain rfl := List.mem_singleton.mp hd
      exact Nat.zero_le _
termination_by sizeOf a

lemma named_derivation_le_of_sequence {as bs : List Term} {d : List Field}
    (h : Term.SwappedAll placeholder literal as bs) (seen : Keys)
    (hd : d ∈ derivationsOfSequence (ofTerms as seen).1) :
    named placeholder literal d ≤
      (Term.walkAll as).countP (Term.isChoice placeholder literal) := by
  cases h with
  | nil => 
    obtain rfl := List.mem_singleton.mp hd
    exact Nat.zero_le _
  | cons ha has =>
    obtain ⟨d₁, h₁, d₂, h₂, rfl⟩ := mem_concats.mp hd
    rw [named_append, Term.walkAll, List.countP_append]
    exact Nat.add_le_add (named_derivation_le ha seen h₁)
      (named_derivation_le_of_sequence has _ h₂)
termination_by sizeOf as

lemma named_derivation_le_of_branches {as bs : List Term} {d : List Field}
    (h : Term.SwappedAll placeholder literal as bs) (seen : Keys)
    (hd : d ∈ derivationsOfBranches (ofTerms as seen).1) :
    named placeholder literal d ≤
      (Term.walkAll as).countP (Term.isChoice placeholder literal) := by
  cases h with
  | nil => exact absurd hd List.not_mem_nil
  | cons ha has =>
    rw [Term.walkAll, List.countP_append]
    rcases List.mem_append.mp hd with hd | hd
    · exact Nat.le_add_right_of_le (named_derivation_le ha seen hd)
    · exact Nat.le_add_left_of_le (named_derivation_le_of_branches has _ hd)
termination_by sizeOf as
end

end Form

/-! ### Usages -/

section

variable {source : String} {u v : Usage} {xs : List Capture}

/-- Usages with swapped choices accept the same texts, and the second one captures what the first
one does, but for the texts of literals, which it captures under the literals. -/
lemma moves_captures? (hliteral : ∀ c ∈ literal.toList, Text.isSolid c)
    (h : Term.Swapped placeholder literal u.expression v.expression) (text : String) :
    Moves placeholder literal ((ofUsage u).captures? text) ((ofUsage v).captures? text) := by
  have hstops : Form.Stops whole := fun _ _ _ => rfl
  rw [captures?, captures?, Form.body_ofUsage, Form.body_ofUsage, Expr.captures?_eq_first,
    Expr.captures?_eq_first]
  refine Form.moves_expr hliteral h ⟨hstops, hstops, fun cs => ?_⟩ [] [] _
  cases cs <;> rfl

/-- What a usage captures under the names of its choices is captured once for each of them at
most. -/
lemma countP_entries_le (hread : Usage.read source = .ok u)
    (h : Term.Swapped placeholder literal u.expression v.expression) {text : String}
    (hcaptures : (ofUsage u).captures? text = some xs) :
    (xs.map Capture.entry).countP (fun e => e.1 = placeholder ∨ e.1 = literal) ≤
      u.expression.walk.countP (Term.isChoice placeholder literal) := by
  obtain ⟨r, hr, hreads⟩ := exists_route_of_captures? hread hcaptures
  have hd : r.fields ∈ (Form.ofUsage u).derivations := (Form.covers_routes _ _).mpr ⟨r, hr, rfl⟩
  refine Nat.le_trans (Nat.le_of_eq ?_) (Form.named_derivation_le h [] hd)
  rw [Form.named, ← hreads.map_slot, List.countP_map, List.countP_map]
  rfl

end

end Pattern

end ChatCommands
