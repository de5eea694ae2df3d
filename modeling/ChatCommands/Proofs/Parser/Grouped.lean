import ChatCommands.Proofs.Parameters.Grouping
import ChatCommands.Proofs.Parser.Calls

/-!
# Parsed parameters by name

An untyped parser groups the captured texts by the names of their slots, a typed one the values that
they come to by the names without types. Without a usage only blank parameters are accepted.

Main statement: `parse_groups`.
-/

namespace ChatCommands.Parser

variable {κ σ : Type} {host : Converter.HostConversion κ σ} {known : List Registration}
  {context : Context κ} {usage : Value} {captures : List Pattern.Capture} {c : Pattern.Capture}
  {pairs : List (String × Value)} {pair : String × Value} {s t : σ}

/-- The name of a parameter: the text of a literal, or the name of a placeholder without its
type. -/
def parameterName (c : Pattern.Capture) : String :=
  if c.slot.isLiteral then c.slot.name else (Converter.splitType c.slot.name).1

lemma Yields.name_eq (h : Yields host known context usage c s (.ok pair) t) :
    pair.1 = parameterName c := by
  cases h with
  | literal hliteral => rw [parameterName, if_pos hliteral]
  | resolved hliteral hsplits _ _ hturns =>
    cases hturns with
    | converted =>
      rw [parameterName, hliteral, Converter.splitType_eq_iff.mpr hsplits]
      rfl

lemma YieldsAll.names_eq (h : YieldsAll host known context usage captures s pairs t) :
    pairs.map Prod.fst = captures.map parameterName := by
  induction h with
  | nil => rfl
  | cons head _ ih => rw [List.map_cons, List.map_cons, ih, head.name_eq]

variable [Journal σ]

/-- With no usage, a parser accepts blank parameters, and there are none of them then. -/
lemma parse_null_iff (host : Converter.HostConversion κ σ) (context : Context κ)
    (start : Parser × σ) (p : Parameters) :
    ((parse host context .null).on start).1 = .ok p ↔
      p = .empty ∧ ∀ text, context.parameterString = some text → ∀ c ∈ text.toList,
        Text.isBlank c := by
  have hblank : Text.allBlank (context.parameterString.getD "").toList = true ↔
      ∀ text, context.parameterString = some text → ∀ c ∈ text.toList, Text.isBlank c := by
    cases context.parameterString <;> simp [Text.allBlank]
  rw [← hblank]
  by_cases h : Text.allBlank (context.parameterString.getD "").toList = true
  · simp [parse, h, eq_comm]
  · simp [parse, h]

/-- An untyped parser accepts what is captured, and its parameters are the captured texts, grouped
by the names of their slots. Those of a typed parser are the values that the captures come to,
grouped by the names without types; in both, collecting value by value comes to the same. With no
usage exactly blank parameters are accepted, and there are no parameters then. -/
theorem parse_groups (entries : List Registration) (earlier others : List (Call κ σ)) (s₀ t₀ : σ)
    (host : Converter.HostConversion κ σ) (context : Context κ) (usage : Value) :
    let start := after (typed ⟨entries, .empty⟩, s₀) earlier
    let answer := (parse host context usage).on start
    let captured := ((parse host context usage).on (after (untyped, t₀) others)).1
    (∀ p, captured = .ok p ↔ ∃ captures, capturesOf context usage = .ok captures ∧
      p.Groups (captures.map fun c => (c.slot.name, .text c.text))) ∧
    (∃ known u, start.1.registered = some known ∧ Noted start.2 u ∧
      ∀ p v, answer.1 = .ok p ∧ answer.2.2 = v ↔
        ∃ captures pairs, capturesOf context usage = .ok captures ∧
          YieldsAll host known context usage captures u pairs v ∧
          pairs.map Prod.fst = captures.map parameterName ∧ p.Groups pairs) ∧
    (∀ (pairs : List (String × Value)) (p : Parameters), p.Groups pairs →
      p.values.entries = (Parameters.held pairs).entries.map fun e => (e.1, e.2.value)) ∧
    ∀ (q : Parser × σ) (p : Parameters), ((parse host context .null).on q).1 = .ok p ↔
      p = .empty ∧ ∀ text, context.parameterString = some text → ∀ c ∈ text.toList,
        Text.isBlank c := by
  intro start answer captured
  have hsound : (⟨entries, .empty⟩ : Converters).Sound := Converters.sound_of_remembered_empty rfl
  obtain ⟨hstart, htyped⟩ := (coherent_typed hsound).after s₀ earlier
  obtain ⟨known, hk⟩ := Option.isSome_iff_exists.mp (htyped.trans rfl)
  obtain ⟨hother, huntyped⟩ := coherent_untyped.after t₀ others
  have hcaptured : captured =
      (capturesOf context usage).map fun captures => .collect (captures.map untypedPair) :=
    hother.parse_of_untyped (by simpa [registered, untyped] using huntyped) host context usage _
  obtain ⟨u, hnoted, herror, hok⟩ := hstart.parse_of_typed hk host context usage start.2
  refine ⟨fun p => ?_, ⟨known, u, hk, hnoted, fun p v => ?_⟩, fun pairs p h => ?_,
    parse_null_iff host context⟩
  · simp only [Parameters.groups_iff]
    rw [hcaptured]
    cases capturesOf context usage with
    | error e => simp [Except.map]
    | ok captures =>
      constructor
      · intro h
        exact ⟨captures, rfl, (Except.ok.inj h).symm⟩
      · rintro ⟨_, ⟨⟩, rfl⟩
        rfl
  · simp only [Parameters.groups_iff]
    cases hcaptures : capturesOf context usage with
    | error e =>
      have hanswer : answer.1 = .error e := (herror e hcaptures).1
      simp [hanswer]
    | ok captures =>
      rw [(hok captures hcaptures).1 p v]
      constructor
      · rintro ⟨pairs, hall, rfl⟩
        exact ⟨captures, pairs, rfl, hall, hall.names_eq, rfl⟩
      · rintro ⟨_, pairs, ⟨⟩, hall, -, rfl⟩
        exact ⟨pairs, hall, rfl⟩
  · rw [Parameters.groups_iff.mp h, Parameters.collect_eq_held]

end ChatCommands.Parser
