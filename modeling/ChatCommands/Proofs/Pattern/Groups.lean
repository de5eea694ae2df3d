import ChatCommands.Proofs.Pattern.Slots
import ChatCommands.Proofs.Table

/-!
# Capture groups

As a regular expression a pattern has one capture group for each slot, in slot order, and no other.
Nothing in the text of a literal opens a group, since parentheses are escaped there.

Main statement: `slots_correspond`.
-/

namespace ChatCommands.Pattern

/-! ### Group names -/

/-- The form of a group name: an underscore, ASCII letters and digits, another underscore, and at
least one digit. -/
inductive IsGroupName : List Char → Prop
  | mk {key number : List Char} (hkey : ∀ c ∈ key, c.isAlphanum) (hne : number ≠ [])
      (hnumber : ∀ c ∈ number, c.isDigit) : IsGroupName ('_' :: (key ++ '_' :: number))

lemma isDigit_iff {c : Char} : isDigit c = true ↔ c.isDigit = true := by
  simp only [isDigit, Char.isDigit, Bool.and_eq_true, decide_eq_true_eq, ge_iff_le,
    UInt32.le_iff_toNat_le]
  exact Iff.rfl

lemma isAlphanum_of_isGroupChar {c : Char} (h : Slot.isGroupChar c = true) : c.isAlphanum := by
  have hlower : ('a' ≤ c && c ≤ 'z') = c.isLower := rfl
  have hupper : ('A' ≤ c && c ≤ 'Z') = c.isUpper := (Bool.decide_and _ _).symm
  rw [Slot.isGroupChar, hlower, hupper, Bool.or_eq_true, Bool.or_eq_true, isDigit_iff] at h
  show ((c.isUpper || c.isLower) || c.isDigit) = true
  rw [Bool.or_eq_true, Bool.or_eq_true]
  exact h.imp_left Or.symm

lemma isGroupName_numbered (name : String) (isLiteral : Bool) (i : Nat) :
    IsGroupName (Slot.numbered name isLiteral i).group.toList := by
  rw [Slot.numbered, String.toList_ofList]
  exact .mk (fun c hc => isAlphanum_of_isGroupChar (isGroupChar_of_mem_key hc))
    (Decimal.digits_ne_nil i) fun c hc => isDigit_iff.mp (Decimal.isRun_digits i c hc)

/-- No other character stands in a group name. -/
lemma IsGroupName.ne {cs : List Char} {c d : Char} (h : IsGroupName cs)
    (hd : (d == '_' || d.isAlphanum) = false) (hc : c ∈ cs) : c ≠ d := by
  rintro rfl
  obtain ⟨hname, halphanum⟩ := Bool.or_eq_false_iff.mp hd
  obtain ⟨hkey, -, hnumber⟩ := h
  simp only [List.mem_cons, List.mem_append] at hc
  rcases hc with rfl | hc | rfl | hc
  · cases hname
  · exact absurd (hkey c hc) (by simp [halphanum])
  · cases hname
  · exact absurd (hnumber c hc) (by simp [(Bool.or_eq_false_iff.mp halphanum).2])

/-! ### Groups in the text of an expression -/

/-- The group that opens with a parenthesis in front of a text, if it captures. A group without a
name has none. -/
def openedGroup : List Char → List (Option String)
  | '?' :: 'P' :: '<' :: cs => [some (String.ofList (cs.takeWhile (· ≠ '>')))]
  | '?' :: _ => []
  | _ => [none]

/-- The capture groups of a regular expression without character classes, in the order in which they
open. A character behind a backslash has no meaning of its own. -/
def captureGroups : List Char → List (Option String)
  | [] => []
  | '\\' :: _ :: cs => captureGroups cs
  | '(' :: cs => openedGroup cs ++ captureGroups cs
  | _ :: cs => captureGroups cs

lemma captureGroups_plain {c : Char} (hescape : c ≠ '\\') (hopen : c ≠ '(') (cs : List Char) :
    captureGroups (c :: cs) = captureGroups cs := by
  rw [captureGroups]
  · exact fun _ _ h => absurd h hescape
  · exact hopen

/-- Wherever a text stands, it has these groups, and what follows it has those that it has by
itself. -/
def Opens (cs : List Char) (groups : List (Option String)) : Prop :=
  ∀ rest, captureGroups (cs ++ rest) = groups ++ captureGroups rest

namespace Opens

variable {cs ds : List Char} {groups more : List (Option String)}

lemma nil : Opens [] [] := fun _ => rfl

lemma append (h : Opens cs groups) (h' : Opens ds more) : Opens (cs ++ ds) (groups ++ more) := by
  intro rest
  rw [List.append_assoc, h, h', List.append_assoc]

lemma eq (h : Opens cs groups) : captureGroups cs = groups := by
  simpa [captureGroups] using h []

lemma plain (h : ∀ c ∈ cs, c ≠ '\\' ∧ c ≠ '(') : Opens cs [] := by
  intro rest
  induction cs with
  | nil => rfl
  | cons c cs ih =>
    obtain ⟨⟨hescape, hopen⟩, h⟩ := List.forall_mem_cons.mp h
    rw [List.cons_append, captureGroups_plain hescape hopen, ih h]

lemma single {c : Char} (hescape : c ≠ '\\') (hopen : c ≠ '(') : Opens [c] [] :=
  fun rest => captureGroups_plain hescape hopen rest

lemma escaped (c : Char) : Opens ['\\', c] [] := fun _ => rfl

/-- A parenthesis in a literal opens nothing. -/
lemma escape (cs : List Char) : Opens (Expr.escape cs) [] := by
  induction cs with
  | nil => exact nil
  | cons c cs ih =>
    have hfirst : Opens (if Expr.isSpecial c then ['\\', c] else [c]) [] := by
      split
      case isTrue => exact escaped c
      case isFalse hspecial =>
        refine single ?_ ?_
        · rintro rfl
          exact hspecial (by decide)
        · rintro rfl
          exact hspecial (by decide)
    exact hfirst.append ih

/-- A group that only holds together does not capture. -/
lemma grouped (h : Opens cs groups) {close : List Char} (hclose : Opens close []) :
    Opens ("(?:".toList ++ cs ++ close) groups := by
  have hopen : Opens "(?:".toList [] := fun _ => rfl
  simpa using (hopen.append h).append hclose

/-- The name of a group has no character that ends it or opens a group. -/
lemma named {name : String} (hname : IsGroupName name.toList) (h : Opens cs []) :
    Opens ("(?P<".toList ++ name.toList ++ ">".toList ++ cs ++ ")".toList) [some name] := by
  have hopen : Opens ("(?P<".toList ++ name.toList ++ ">".toList) [some name] := by
    intro rest
    have hmark : Opens "?P<".toList [] := fun _ => rfl
    have hinside : Opens ("?P<".toList ++ name.toList ++ ">".toList) [] :=
      (hmark.append (plain fun c hc => ⟨hname.ne rfl hc, hname.ne rfl hc⟩)).append fun _ => rfl
    have htake : (name.toList ++ '>' :: rest).takeWhile (· ≠ '>') = name.toList := by
      rw [List.takeWhile_append_of_pos fun c hc => decide_eq_true (hname.ne rfl hc)]
      simp
    have hgroup : openedGroup ("?P<".toList ++ name.toList ++ ">".toList ++ rest) =
        [some name] := by
      rw [List.append_assoc, List.append_assoc]
      show [some (String.ofList ((name.toList ++ '>' :: rest).takeWhile (· ≠ '>')))] = _
      rw [htake, String.ofList_toList]
    exact congrArg₂ (· ++ ·) hgroup (hinside rest)
  have hclose : Opens ")".toList [] := fun _ => rfl
  simpa using (hopen.append h).append hclose

end Opens

lemma opens_shapeText (shape : Shape) : Opens (Expr.shapeText shape).toList [] := by
  cases shape with
  | word => exact fun _ => rfl
  | rest => exact fun _ => rfl
  | exact text =>
    rw [Expr.shapeText, String.toList_ofList]
    exact Opens.escape text.toList

/-- The groups of slots. -/
abbrev groupsOf (slots : List Slot) : List (Option String) := slots.map (some ·.group)

mutual
/-- The text of an expression has the groups of its slots. -/
lemma opens_text (e : Expr) (h : ∀ s ∈ e.slots, IsGroupName s.group.toList) :
    Opens e.text.toList (groupsOf e.slots) := by
  match e with
  | .boundary => exact fun _ => rfl
  | .capture slot shape =>
    simp only [Expr.text, String.toList_append]
    exact Opens.named (h slot (List.mem_singleton_self slot)) (opens_shapeText shape)
  | .sequence parts => exact opens_joined parts h
  | .alternatives branches =>
    have hclose : Opens ")".toList [] := fun _ => rfl
    simpa only [Expr.text, Expr.slots, String.toList_append] using
      (opens_separated branches h).grouped hclose
  | .optional body =>
    have hclose : Opens ")?".toList [] := fun _ => rfl
    simpa only [Expr.text, Expr.slots, String.toList_append] using
      (opens_text body h).grouped hclose

lemma opens_joined (es : List Expr) (h : ∀ s ∈ Expr.slotsAll es, IsGroupName s.group.toList) :
    Opens (String.join (Expr.texts es)).toList (groupsOf (Expr.slotsAll es)) := by
  match es with
  | [] => exact Opens.nil
  | e :: es =>
    obtain ⟨hfirst, hlater⟩ := List.forall_mem_append.mp h
    rw [Expr.texts, String.join_cons, String.toList_append, Expr.slotsAll, groupsOf,
      List.map_append]
    exact (opens_text e hfirst).append (opens_joined es hlater)

lemma opens_separated (es : List Expr) (h : ∀ s ∈ Expr.slotsAll es, IsGroupName s.group.toList) :
    Opens ("|".intercalate (Expr.texts es)).toList (groupsOf (Expr.slotsAll es)) := by
  match es with
  | [] => exact Opens.nil
  | [e] =>
    rw [Expr.texts, Expr.texts, String.intercalate_singleton, Expr.slotsAll, Expr.slotsAll,
      List.append_nil]
    exact opens_text e fun s hs => h s (List.mem_append_left _ hs)
  | e :: e' :: es =>
    obtain ⟨hfirst, hlater⟩ := List.forall_mem_append.mp h
    have hbar : Opens "|".toList [] := fun _ => rfl
    rw [Expr.texts, Expr.texts, String.intercalate_cons_cons, String.toList_append,
      String.toList_append, ← Expr.texts, Expr.slotsAll, groupsOf, List.map_append]
    simpa using ((opens_text e hfirst).append hbar).append (opens_separated (e' :: es) hlater)
end

/-! ### The groups of a usage -/

variable {u : Usage}

lemma slots_eq (u : Usage) : (ofUsage u).slots = (numberAll u.expression.labels []).1 := by
  rw [slots, Form.body_ofUsage, Form.slots_expr, Form.slots_ofUsage]

lemma isGroupName_of_mem_slots {s : Slot} (h : s ∈ (ofUsage u).slots) :
    IsGroupName s.group.toList := by
  rw [slots_eq] at h
  obtain ⟨name, isLiteral, i, rfl, -⟩ := exists_numbered h
  exact isGroupName_numbered name isLiteral i

lemma groups_eq_gather (p : Pattern) :
    p.groups = Table.gather (p.slots.map fun s => (s.name, s.group)) := by
  rw [groups, Table.gather, List.foldl_map]

lemma entries_groups (p : Pattern) :
    p.groups.entries = (p.slots.map Slot.name).eraseDups.map fun name =>
      (name, (p.slots.filter (·.name = name)).map Slot.group) := by
  rw [groups_eq_gather, Table.entries_gather, List.map_map]
  refine List.map_congr_left fun name _ => ?_
  rw [Table.valuesAt, List.filter_map, List.map_map]
  rfl

/-- Slots and capture groups correspond one to one. A usage has one slot for each literal and each
placeholder, in the order of its terms, with the name and the kind of that term. The text of its
pattern captures the groups of the slots, in the same order, and no others; no two slots have the
same group, and every group name has its form. The groups of a name are those of its slots, in slot
order, and names stand in the order in which they appear first. -/
theorem slots_correspond (u : Usage) :
    let p := ofUsage u
    p.slots.map Slot.label = u.expression.walk.filterMap Term.label? ∧
    captureGroups p.regex.toList = p.slots.map (some ·.group) ∧
    (p.slots.map Slot.group).Nodup ∧
    (∀ s ∈ p.slots, IsGroupName s.group.toList) ∧
    p.groups.entries = (p.slots.map Slot.name).eraseDups.map fun name =>
      (name, (p.slots.filter (·.name = name)).map Slot.group) := by
  intro p
  refine ⟨?_, (opens_text p.body fun s => isGroupName_of_mem_slots).eq, ?_,
    fun s => isGroupName_of_mem_slots, entries_groups p⟩
  · rw [slots_eq]
    exact map_label_numberAll _ _
  · rw [slots_eq]
    exact nodup_groups _ _

/-- A literal is numbered together with placeholders whose names end as its key does, and a name may
have nothing to offer for a key. -/
example : (ofUsage ⟨"", .sequence [.literal "a" 0, .placeholder "aLiteral" 0, .literal "(?P<a>" 0,
    .placeholder "!" 0, .trailing "a!Literal" 0] 0⟩).slots.map Slot.group =
    ["_aLiteral_0", "_aLiteral_1", "_PaLiteral_0", "__0", "_aLiteral_2"] := by cbv

end ChatCommands.Pattern
