import ChatCommands.Proofs.Converters.Check
import ChatCommands.Proofs.Converters.Memory
import ChatCommands.Usage.Parser

/-!
# Checks and answers

A check of a usage for a class says what resolving the type of each placeholder for a message of
just this class would say: it is passed if all of them have an answer, and else it ends with the
fault of the first that has none. Where standing below is transitive, what is missing for a class
below is missing for the class, so a check that comes to a placeholder without ending there for want
of a converter has shown that no class below lacks one.

Main statements: `check_eq_error_iff`, `IsMissing.of_follows`, `check_agrees`.
-/

namespace ChatCommands.Converters

variable {cs : Converters} {u : Usage} {cls above : MessageClass} {entries : List Registration}
  {type name : String} {names : List String} {usage usage' : Value} {e : Error}

/-! ### The first of several that fails -/

/-- A name has all names before it answered. -/
def Reaches {α : Type} (answer : String → Except Error α) (names : List String) (name : String) :
    Prop :=
  ∃ earlier later, names = earlier ++ name :: later ∧ ∀ n ∈ earlier, ∃ a, answer n = .ok a

lemma Reaches.mem {α : Type} {answer : String → Except Error α} (h : Reaches answer names name) :
    name ∈ names := by
  obtain ⟨earlier, later, rfl, -⟩ := h
  simp

lemma reaches_of_mem {α : Type} {answer : String → Except Error α}
    (hall : ∀ n ∈ names, ∃ a, answer n = .ok a) (hname : name ∈ names) :
    Reaches answer names name := by
  obtain ⟨earlier, later, rfl⟩ := List.append_of_mem hname
  exact ⟨earlier, later, rfl, fun n hn => hall n (List.mem_append_left _ hn)⟩

lemma reaches_cons {α : Type} {answer : String → Except Error α} {first : String} :
    Reaches answer (first :: names) name ↔
      name = first ∨ (∃ a, answer first = .ok a) ∧ Reaches answer names name := by
  constructor
  · rintro ⟨earlier, later, heq, hall⟩
    cases earlier with
    | nil => exact Or.inl (List.cons.inj heq).1.symm
    | cons n earlier =>
      obtain ⟨rfl, hnames⟩ := List.cons.inj heq
      obtain ⟨hfirst, hall⟩ := List.forall_mem_cons.mp hall
      exact Or.inr ⟨hfirst, earlier, later, hnames, hall⟩
  · rintro (rfl | ⟨hfirst, earlier, later, rfl, hall⟩)
    · exact ⟨[], names, rfl, by simp⟩
    · exact ⟨first :: earlier, later, rfl, List.forall_mem_cons.mpr ⟨hfirst, hall⟩⟩

/-- Going through names ends with the fault of the first that has one. -/
lemma forM_eq_error_iff {α : Type} {answer : String → Except Error α} :
    (forM names fun n => (answer n).map fun _ => ()) = .error e ↔
      ∃ name, Reaches answer names name ∧ answer name = .error e := by
  induction names with
  | nil => simp [Reaches, pure, Except.pure]
  | cons first names ih =>
    simp only [List.forM_cons, reaches_cons, or_and_right, exists_or, exists_eq_left]
    cases hfirst : answer first with
    | error e' => simp [bind, Except.bind, Except.map]
    | ok a => simpa [bind, Except.bind, Except.map] using ih

/-! ### Outcomes of a check -/

/-- What is chosen for the type of a placeholder. -/
def chooseFor (cs : Converters) (cls : MessageClass) (usage : Value) (name : String) :
    Except Error Converter :=
  choose cs.entries (Converter.splitType name).2 cls usage

lemma check_eq_forM : cs.check u cls =
    forM u.placeholderNames fun name =>
      (cs.chooseFor cls (.text u.source) name).map fun _ => () := by
  rw [check, typesOf]
  simp [chooseFor, List.forM_map]

lemma check_eq_ok_iff_names : cs.check u cls = .ok () ↔
    ∀ name ∈ u.placeholderNames, ∃ c, cs.chooseFor cls (.text u.source) name = .ok c := by
  rw [check_eq_ok_iff, typesOf, List.forall_mem_map]
  rfl

/-- A check fails with the fault of the first placeholder that has not one converter. -/
lemma check_eq_error_iff : cs.check u cls = .error e ↔
    ∃ name, Reaches (cs.chooseFor cls (.text u.source)) u.placeholderNames name ∧
      cs.chooseFor cls (.text u.source) name = .error e := by
  rw [check_eq_forM, forM_eq_error_iff]

/-! ### Missing converters -/

/-- A computation fails for want of a converter. -/
def IsMissing {α : Type} (r : Except Error α) : Prop :=
  ∃ f, r = .error (.fault f) ∧ f.kind = .missingConverter

/-- A converter is missing just if no registration serves the class. -/
lemma isMissing_choose_iff :
    IsMissing (choose entries type cls usage) ↔ candidates entries type cls = [] := by
  rcases candidates_cases entries type cls with hnone | ⟨d, hsingle⟩ | hseveral
  · rw [choose_of_none hnone]
    exact iff_of_true ⟨_, rfl, rfl⟩ hnone
  · rw [choose_of_single hsingle, hsingle]
    refine iff_of_false ?_ (List.cons_ne_nil _ _)
    rintro ⟨f, hf, -⟩
    cases hf
  · rw [choose_of_several hseveral]
    refine iff_of_false ?_ (List.ne_nil_of_length_pos (by omega))
    rintro ⟨f, hf, hkind⟩
    cases hf
    cases hkind

/-- What is missing for a class is missing for the classes above. -/
lemma IsMissing.of_follows (hfollows : Follows entries cls above)
    (h : IsMissing (choose entries type cls usage)) :
    IsMissing (choose entries type above usage') := by
  rw [isMissing_choose_iff] at h ⊢
  by_contra hsome
  exact hfollows.candidates_ne_nil hsome h

/-- A check that ends otherwise than for want of a converter has found one for each placeholder that
it has come to. -/
lemma not_isMissing_of_reaches (h : ¬ IsMissing (cs.check u cls))
    (hreaches : Reaches (cs.chooseFor cls (.text u.source)) u.placeholderNames name) :
    ¬ IsMissing (cs.chooseFor cls (.text u.source) name) := by
  rintro ⟨f, hf, hkind⟩
  exact h ⟨f, check_eq_error_iff.mpr ⟨name, hreaches, hf⟩, hkind⟩

/-! ### Answers after any calls -/

/-- Whatever was registered and asked before, a check of a usage for a class is passed just if the
type of each placeholder has an answer for a message of just this class, and else it fails like the
answer for the first placeholder that has none. Where standing below is transitive, what is missing
for a message of a class below is missing for the class. So no such class lacks a converter for a
placeholder that a check has come to without ending for want of one, and for none at all if the
check is passed. -/
theorem check_agrees (entries : List Registration) (calls : List Call) (u : Usage)
    (cls : MessageClass) :
    let cs := (⟨entries, .empty⟩ : Converters).after calls
    let answer (message usage : Value) (name : String) :=
      (cs.resolve (Converter.splitType name).2 message usage).1
    (∀ message usage, message.messageClass = cls →
      (cs.check u cls = .ok () ↔
        ∀ name ∈ u.placeholderNames, ∃ c, answer message usage name = .ok c)) ∧
    (∀ message e, message.messageClass = cls →
      (cs.check u cls = .error e ↔
        ∃ name, Reaches (answer message (.text u.source)) u.placeholderNames name ∧
          answer message (.text u.source) name = .error e)) ∧
    ∀ message usage below usage', message.messageClass = cls →
      Follows cs.entries below.messageClass cls →
      (∀ name, IsMissing (answer below usage' name) → IsMissing (answer message usage name)) ∧
      (¬ IsMissing (cs.check u cls) → ∀ name,
        Reaches (answer message (.text u.source)) u.placeholderNames name →
          ¬ IsMissing (answer below usage' name)) ∧
      (cs.check u cls = .ok () → ∀ name ∈ u.placeholderNames,
        ¬ IsMissing (answer below usage' name)) := by
  intro cs answer
  have hanswer : ∀ message usage,
      answer message usage = cs.chooseFor message.messageClass usage := by
    intro message usage
    funext name
    exact ((sound_of_remembered_empty rfl).after calls).resolve_eq _ _ _
  simp only [hanswer]
  refine ⟨?_, ?_, ?_⟩
  · rintro message usage rfl
    rw [check_eq_ok_iff_names]
    refine forall₂_congr fun name _ => exists_congr fun c => ?_
    exact ⟨choose_usage, choose_usage⟩
  · rintro message e rfl
    exact check_eq_error_iff
  · rintro message usage below usage' rfl hfollows
    have hreached : ¬ IsMissing (cs.check u message.messageClass) → ∀ name,
        Reaches (cs.chooseFor message.messageClass (.text u.source)) u.placeholderNames name →
          ¬ IsMissing (cs.chooseFor below.messageClass usage' name) := by
      intro hcheck name hreaches hmissing
      exact not_isMissing_of_reaches hcheck hreaches (hmissing.of_follows hfollows)
    refine ⟨fun name hmissing => hmissing.of_follows hfollows, hreached, fun hok name hname => ?_⟩
    apply hreached
    · rw [hok]
      rintro ⟨f, hf, -⟩
      cases hf
    · exact reaches_of_mem (check_eq_ok_iff_names.mp hok) hname

/-- Converters with one type that two built-in ones serve, and a third of the host for texts. -/
def overlapping : Converters :=
  ⟨[⟨"x", .object, .number, true⟩, ⟨"x", .object, .string, true⟩,
    ⟨"x", .plainText, .decimal, false⟩], .empty⟩

/-- A class of messages that can be keys of a table: all classes that inherit from the class of all
messages, but for that of lists. -/
def hashable : MessageClass := ⟨12, "Hashable", [0], [(0, true), (9, false)]⟩

/-- A converter for messages that can be keys. -/
def forKeys : Converters := ⟨[⟨"x", hashable, .string, false⟩], .empty⟩

/-- A check that ends at an ambiguous placeholder says nothing about those after it: a later one may
lack a converter, for the class and for the classes below. And where standing below is not
transitive, a converter for a class may be missing for a class below. -/
theorem check_overlapping :
    (∃ u, Usage.read "<a:x> <b:y>" = .ok u ∧ u.placeholderNames = ["a:x", "b:y"] ∧
      ¬ IsMissing (overlapping.check u .object) ∧
      (Value.text "m").messageClass.isBelow .object = true ∧
      (∃ c, (overlapping.resolve (Converter.splitType "a:x").2 (.text "m") (.text u.source)).1 =
        .ok c) ∧
      IsMissing
        (overlapping.resolve (Converter.splitType "b:y").2 (.text "m") (.text u.source)).1) ∧
    ∃ u, Usage.read "<a:x>" = .ok u ∧ u.placeholderNames = ["a:x"] ∧
      forKeys.check u .object = .ok () ∧ (Value.list []).messageClass.isBelow .object = true ∧
      IsMissing (forKeys.resolve (Converter.splitType "a:x").2 (.list []) (.text u.source)).1 := by
  constructor
  · refine ⟨⟨"<a:x> <b:y>", .sequence [.placeholder "a:x" 0, .placeholder "b:y" 6] 0⟩, by cbv, rfl,
      ?_, rfl, ⟨.decimal, rfl⟩, _, rfl, rfl⟩
    rintro ⟨f, hf, hkind⟩
    cases hf
    cases hkind
  · have hsplit : Converter.splitType "a:x" = ("a", "x") := by decide +kernel
    refine ⟨⟨"<a:x>", .placeholder "a:x" 0⟩, by cbv, rfl, ?_, rfl, ?_⟩
    · rw [check_eq_ok_iff_names]
      intro name hname
      obtain rfl := List.mem_singleton.mp hname
      exact ⟨.string, by rw [chooseFor, hsplit]; rfl⟩
    · rw [hsplit]
      exact ⟨_, rfl, rfl⟩

end ChatCommands.Converters
