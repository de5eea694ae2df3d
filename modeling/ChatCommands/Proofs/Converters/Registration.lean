import ChatCommands.Converters
import Mathlib.Data.List.Nodup
import Mathlib.Tactic.Common

/-!
# Registration of converters

A request adds all of its registrations or none. It is refused if it lacks a part, and also if the
host already has a converter for a type and a class that it names.

Main statements: `register_eq_ok_iff`, `entries_after`, `ownPairs_nodup_iff`.
-/

namespace ChatCommands.Converters

variable {cs ds : Converters} {entries : List Registration} {r : Request} {type : String}
  {cls : MessageClass}

/-! ### Requests -/

/-- A request has all of its parts and names a type. -/
structure Request.Complete (r : Request) (converter : Converter) (types : List String)
    (cls : MessageClass) : Prop where
  converter_eq : r.converter = some converter
  types_eq : r.types = types.map .text
  types_ne_nil : types ≠ []
  messageClass_eq : r.messageClass = some cls

/-- The registrations that a request asks for. -/
def Request.registrations (r : Request) : List Registration :=
  match r.converter, typeNames? r.types, r.messageClass with
  | some converter, some types, some cls =>
    types.map fun type => ⟨type, cls, converter, r.isBuiltIn⟩
  | _, _, _ => []

/-- The types and classes for which the host has a converter. -/
def ownPairs (entries : List Registration) : List (String × MessageClass) :=
  (entries.filter (!·.isBuiltIn)).map fun e => (e.type, e.messageClass)

@[simp] lemma ownPairs_nil : ownPairs [] = [] := rfl

@[simp] lemma ownPairs_append (es fs : List Registration) :
    ownPairs (es ++ fs) = ownPairs es ++ ownPairs fs := by
  simp [ownPairs]

lemma isTaken_iff : isTaken entries type cls = true ↔ (type, cls) ∈ ownPairs entries := by
  simp [isTaken, ownPairs, and_assoc]

lemma typeNames?_map_text (types : List String) : typeNames? (types.map .text) = some types := by
  induction types with
  | nil => rfl
  | cons type types ih => simp [typeNames?, ih]

lemma eq_map_text_of_typeNames? {vs : List Value} {types : List String}
    (h : typeNames? vs = some types) : vs = types.map .text := by
  fun_induction typeNames? vs generalizing types with
  | case1 => cases h; rfl
  | case2 s vs ih =>
    obtain ⟨rest, hrest, rfl⟩ := Option.map_eq_some_iff.mp h
    rw [ih hrest, List.map_cons]
  | case3 => cases h

namespace Request.Complete

variable {converter : Converter} {types : List String} (h : r.Complete converter types cls)
include h

lemma registrations_eq :
    r.registrations = types.map fun type => ⟨type, cls, converter, r.isBuiltIn⟩ := by
  rw [registrations, h.converter_eq, h.types_eq, typeNames?_map_text, h.messageClass_eq]

lemma ownPairs_eq :
    ownPairs r.registrations = if r.isBuiltIn then [] else types.map fun type => (type, cls) := by
  rw [ownPairs, h.registrations_eq]
  cases r.isBuiltIn <;> simp [List.filter_map, Function.comp_def]

/-- The host's pairs of a request differ if its types do. -/
lemma nodup_ownPairs_iff :
    (ownPairs r.registrations).Nodup ↔ (r.isBuiltIn = false → r.types.Nodup) := by
  have hpair : Function.Injective fun type : String => (type, cls) := fun _ _ => congrArg Prod.fst
  have htext : Function.Injective Value.text := fun _ _ => Value.text.inj
  rw [h.ownPairs_eq, h.types_eq, List.nodup_map_iff htext]
  cases r.isBuiltIn <;> simp [List.nodup_map_iff hpair]

end Request.Complete

/-! ### Outcomes of a request -/

/-- The fault of a type for which the host already has a converter. -/
def duplicateConverter (type : String) (cls : MessageClass) : Fault :=
  .make .duplicateConverter
    ("Multiple converters registered for parameter type '" ++ type ++ "' and message type '" ++
      cls.name ++ "'") []

/-- A request is incomplete, or clashes with what the host has registered, or is met in full. -/
lemma register_cases (cs : Converters) (r : Request) :
    ((∀ converter types cls, ¬ r.Complete converter types cls) ∧
      ∃ m, cs.register r = .error (.misuse m)) ∨
    ∃ converter types cls, r.Complete converter types cls ∧
      ((∃ type cls, (type, cls) ∈ ownPairs r.registrations ∧ (type, cls) ∈ ownPairs cs.entries ∧
        cs.register r = .error (.fault (duplicateConverter type cls))) ∨
      ((ownPairs r.registrations).Disjoint (ownPairs cs.entries) ∧
        cs.register r = .ok ⟨cs.entries ++ r.registrations, .empty⟩)) := by
  rw [register]
  cases hconverter : r.converter with
  | none =>
    refine Or.inl ⟨fun _ _ _ h => ?_, _, rfl⟩
    cases hconverter.symm.trans h.converter_eq
  | some converter =>
  cases htypes : typeNames? r.types with
  | none =>
    refine Or.inl ⟨fun _ types _ h => ?_, _, rfl⟩
    rw [h.types_eq, typeNames?_map_text] at htypes
    cases htypes
  | some types =>
  have heq : r.types = types.map .text := eq_map_text_of_typeNames? htypes
  by_cases hnil : types = []
  · subst hnil
    refine Or.inl ⟨fun _ types _ h => ?_, _, rfl⟩
    exact h.types_ne_nil (List.map_eq_nil_iff.mp (h.types_eq.symm.trans heq))
  cases hcls : r.messageClass with
  | none =>
    refine Or.inl ⟨fun _ _ _ h => ?_, .messageTypeNotClass, ?_⟩
    · cases hcls.symm.trans h.messageClass_eq
    · simp [hnil]
  | some cls =>
  have hcomplete : r.Complete converter types cls := ⟨hconverter, heq, hnil, hcls⟩
  refine Or.inr ⟨converter, types, cls, hcomplete, ?_⟩
  simp only [List.isEmpty_iff, hnil, if_false, bind, Except.bind, pure, Except.pure]
  split
  case h_1 type hfound =>
    obtain ⟨htaken, hmem⟩ :=
      And.intro (List.find?_some hfound) (List.mem_of_find?_eq_some hfound)
    simp only [Bool.and_eq_true, Bool.not_eq_true', isTaken_iff] at htaken
    refine Or.inl ⟨type, cls, ?_, htaken.2, rfl⟩
    simp [hcomplete.ownPairs_eq, htaken.1, hmem]
  case h_2 hfree =>
    refine Or.inr ⟨fun pair hpair htaken => ?_, by rw [hcomplete.registrations_eq]⟩
    rw [hcomplete.ownPairs_eq] at hpair
    split at hpair
    · cases hpair
    · obtain ⟨type, htype, rfl⟩ := List.mem_map.mp hpair
      refine List.find?_eq_none.mp hfree type htype ?_
      simp_all [isTaken_iff]

/-- A request is met just if it is complete and names nothing that the host has a converter for. -/
lemma register_eq_ok_iff : cs.register r = .ok ds ↔
    (∃ converter types cls, r.Complete converter types cls) ∧
      (ownPairs r.registrations).Disjoint (ownPairs cs.entries) ∧
      ds = ⟨cs.entries ++ r.registrations, .empty⟩ := by
  rcases register_cases cs r with ⟨hincomplete, m, hm⟩ |
    ⟨converter, types, cls, hcomplete, ⟨type, cls', hnew, hold, hclash⟩ | ⟨hdisjoint, hok⟩⟩
  · rw [hm]
    exact ⟨nofun, fun ⟨⟨_, _, _, h⟩, _⟩ => absurd h (hincomplete _ _ _)⟩
  · rw [hclash]
    exact ⟨nofun, fun ⟨_, h, _⟩ => absurd hold (h hnew)⟩
  · rw [hok]
    exact ⟨fun h => ⟨⟨_, _, _, hcomplete⟩, hdisjoint, (Except.ok.inj h).symm⟩,
      fun ⟨_, _, h⟩ => h ▸ rfl⟩

/-- A complete request is refused just if the host has a converter for one of its pairs. -/
lemma register_eq_duplicate_iff {converter : Converter} {types : List String}
    (h : r.Complete converter types cls) :
    (∃ type ∈ types, cs.register r = .error (.fault (duplicateConverter type cls))) ↔
      r.isBuiltIn = false ∧ ∃ type ∈ types, (type, cls) ∈ ownPairs cs.entries := by
  have hpairs : ∀ {pair : String × MessageClass}, pair ∈ ownPairs r.registrations ↔
      r.isBuiltIn = false ∧ pair.1 ∈ types ∧ pair.2 = cls := by
    rintro ⟨type, cls'⟩
    rw [h.ownPairs_eq]
    cases r.isBuiltIn <;> simp [eq_comm]
  rcases register_cases cs r with ⟨hincomplete, -⟩ |
    ⟨-, -, -, -, ⟨type, cls', hnew, hold, hclash⟩ | ⟨hdisjoint, hok⟩⟩
  · exact absurd h (hincomplete _ _ _)
  · obtain ⟨hown, hmem, rfl⟩ := hpairs.mp hnew
    exact iff_of_true ⟨type, hmem, hclash⟩ ⟨hown, type, hmem, hold⟩
  · rw [hok]
    refine ⟨nofun, fun ⟨hown, type, hmem, hold⟩ => ?_⟩
    exact absurd hold (hdisjoint (hpairs.mpr ⟨hown, hmem, rfl⟩))

/-! ### Calls one after another -/

/-- A call to registered converters. -/
inductive Call where
  | register (r : Request)
  | resolve (type : String) (message usage : Value)

/-- The converters after a call; a request that is refused leaves them as they are. -/
def perform (cs : Converters) : Call → Converters
  | .register r =>
    match cs.register r with
    | .ok ds => ds
    | .error _ => cs
  | .resolve type message usage => (cs.resolve type message usage).2

/-- The converters after several calls. -/
def after (cs : Converters) : List Call → Converters
  | [] => cs
  | call :: calls => (cs.perform call).after calls

/-- The requests among several calls that are met. -/
def accepted (cs : Converters) : List Call → List Request
  | [] => []
  | .register r :: calls =>
    match cs.register r with
    | .ok ds => r :: ds.accepted calls
    | .error _ => cs.accepted calls
  | .resolve type message usage :: calls => (cs.resolve type message usage).2.accepted calls

lemma after_append (cs : Converters) (earlier later : List Call) :
    cs.after (earlier ++ later) = (cs.after earlier).after later := by
  induction earlier generalizing cs with
  | nil => rfl
  | cons call earlier ih => exact ih _

@[simp] lemma entries_resolve (cs : Converters) (type : String) (message usage : Value) :
    (cs.resolve type message usage).2.entries = cs.entries := by
  simp only [resolve]
  split
  · rfl
  · split <;> rfl

/-- What is registered after several calls comes from the requests that were met, in order. -/
lemma entries_after (cs : Converters) (calls : List Call) :
    (cs.after calls).entries = cs.entries ++ (cs.accepted calls).flatMap Request.registrations := by
  induction calls generalizing cs with
  | nil => simp [after, accepted]
  | cons call calls ih =>
    rw [after, ih]
    cases call with
    | resolve type message usage => simp [perform, accepted]
    | register r =>
      rw [perform, accepted]
      cases hregister : cs.register r with
      | error e => rfl
      | ok ds =>
        obtain ⟨-, -, rfl⟩ := register_eq_ok_iff.mp hregister
        simp

/-- The host has one converter for each type and class, up to the requests that were met and that
name a type twice. -/
lemma nodup_ownPairs_after_iff (cs : Converters) (calls : List Call) :
    (ownPairs (cs.after calls).entries).Nodup ↔ (ownPairs cs.entries).Nodup ∧
      ∀ r ∈ cs.accepted calls, r.isBuiltIn = false → r.types.Nodup := by
  induction calls generalizing cs with
  | nil => simp [after, accepted]
  | cons call calls ih =>
    rw [after, ih]
    cases call with
    | resolve type message usage => simp [perform, accepted]
    | register r =>
      rw [perform, accepted]
      cases hregister : cs.register r with
      | error e => rfl
      | ok ds =>
        obtain ⟨⟨_, _, _, hcomplete⟩, hdisjoint, rfl⟩ := register_eq_ok_iff.mp hregister
        rw [ownPairs_append, List.nodup_append', List.disjoint_comm, hcomplete.nodup_ownPairs_iff,
          List.forall_mem_cons, and_iff_left hdisjoint, and_assoc]

/-- The host has at most one converter for each type and class, except where a request that was met
names a type twice. A later request for such a pair is refused, and nothing changes then. -/
theorem ownPairs_nodup_iff (start : Converters) (calls : List Call) :
    ((ownPairs (start.after calls).entries).Nodup ↔ (ownPairs start.entries).Nodup ∧
      ∀ r ∈ start.accepted calls, r.isBuiltIn = false → r.types.Nodup) ∧
    (∀ r converter types cls, r.Complete converter types cls →
      ((∃ type ∈ types, (start.after calls).register r =
          .error (.fault (duplicateConverter type cls))) ↔
        r.isBuiltIn = false ∧
          ∃ type ∈ types, (type, cls) ∈ ownPairs (start.after calls).entries)) ∧
    ∀ r e, (start.after calls).register r = .error e →
      start.after (calls ++ [.register r]) = start.after calls := by
  refine ⟨nodup_ownPairs_after_iff start calls,
    fun r converter types cls h => register_eq_duplicate_iff h, fun r e hrefused => ?_⟩
  rw [after_append, after, after, perform, hrefused]

/-- A request of the host that names a type twice. -/
def twice : Request where
  converter := some .string
  types := [.text "color", .text "color"]

/-- A request that names a type twice is met, and the host has two converters for the type then. -/
theorem ownPairs_twice : empty.accepted [.register twice] = [twice] ∧
    ownPairs (empty.after [.register twice]).entries = [("color", .object), ("color", .object)] :=
  ⟨rfl, rfl⟩

end ChatCommands.Converters
