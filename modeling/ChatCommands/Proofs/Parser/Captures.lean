import ChatCommands.Parser
import ChatCommands.Proofs.Act
import ChatCommands.Proofs.Converters.Memory
import ChatCommands.Proofs.Usage.Language

/-!
# Captures of a parser

What a parser keeps of the usages it has seen is what reading and compiling them anew would give.
So the captures that a parse starts from depend on the usage and the context alone.

Main statements: `Coherent.on_tree`, `Coherent.on_pattern`, `Coherent.on_parse`.
-/

namespace ChatCommands.Parser

variable {κ σ : Type} {p : Parser} {s : σ} {t : Tree}

/-! ### What a parser keeps -/

/-- The usages that a parser keeps were read from their texts and have numbers of their own. The
patterns that it keeps are theirs, and the converters it remembers are those it would choose. -/
structure Coherent (p : Parser) : Prop where
  parse_eq : ∀ {source t}, p.trees.get? source = some t → Usage.parse source = .ok t.usage
  id_lt : ∀ {source t}, p.trees.get? source = some t → t.id < p.patterns.nextTree
  id_injective : ∀ {source source' t t'}, p.trees.get? source = some t →
    p.trees.get? source' = some t' → t.id = t'.id → source = source'
  compiled : ∀ {id c}, p.patterns.entries.get? id = some c →
    ∃ source t, p.trees.get? source = some t ∧ t.id = id ∧ c.pattern = .ofUsage t.usage
  sound : ∀ {cs}, p.converters = some cs → cs.Sound

/-- The registrations of a typed parser. -/
def registered (p : Parser) : Option (List Registration) := p.converters.map Converters.entries

lemma coherent_untyped : untyped.Coherent where
  parse_eq h := by cases h
  id_lt h := by cases h
  id_injective h := by cases h
  compiled h := by cases h
  sound h := by cases h

lemma coherent_typed {cs : Converters} (h : cs.Sound) : (typed cs).Coherent where
  parse_eq h := by cases h
  id_lt h := by cases h
  id_injective h := by cases h
  compiled h := by cases h
  sound hcs := Option.some.inj hcs ▸ h

/-- Only what is registered and remembered depends on the converters. -/
lemma Coherent.withConverters (h : p.Coherent) {cs : Converters} (hcs : cs.Sound) :
    ({ p with converters := some cs } : Parser).Coherent where
  parse_eq := h.parse_eq
  id_lt := h.id_lt
  id_injective := h.id_injective
  compiled := h.compiled
  sound hds := Option.some.inj hds ▸ hcs

/-! ### Usages -/

/-- The usage that a value stands for. -/
def usageOf (usage : Value) : Except Error Usage :=
  if usage.isKey then Usage.ofValue usage else .error (.bare .unusable)

/-- A usage that is read is kept under its text, with a new number. -/
lemma Coherent.insert (h : p.Coherent) {u : Usage} (hnew : p.trees.get? u.source = none)
    (hu : Usage.parse u.source = .ok u) :
    ({ p with
      trees := p.trees.set u.source (p.patterns.newTree u).1
      patterns := (p.patterns.newTree u).2 } : Parser).Coherent := by
  constructor
  case parse_eq =>
    intro source t ht
    rcases Table.get?_set_eq_some_iff.mp ht with ⟨rfl, rfl⟩ | ⟨-, ht⟩
    · exact hu
    · exact h.parse_eq ht
  case id_lt =>
    intro source t ht
    rcases Table.get?_set_eq_some_iff.mp ht with ⟨-, rfl⟩ | ⟨-, ht⟩
    · exact Nat.lt_succ_self _
    · exact Nat.lt_succ_of_lt (h.id_lt ht)
  case id_injective =>
    intro source source' t t' ht ht' hid
    rw [Table.get?_set_eq_some_iff] at ht ht'
    rcases ht with ⟨rfl, rfl⟩ | ⟨-, ht⟩ <;> rcases ht' with ⟨rfl, rfl⟩ | ⟨-, ht'⟩
    · rfl
    · exact absurd (h.id_lt ht') (by simp [← hid, Pattern.Cache.newTree])
    · exact absurd (h.id_lt ht) (by simp [hid, Pattern.Cache.newTree])
    · exact h.id_injective ht ht' hid
  case compiled =>
    intro id c hc
    obtain ⟨source, t, ht, rest⟩ := h.compiled hc
    have hne : source ≠ u.source := by
      rintro rfl
      cases hnew.symm.trans ht
    exact ⟨source, t, Table.get?_set_eq_some_iff.mpr (Or.inr ⟨hne, ht⟩), rest⟩
  case sound => exact h.sound

lemma source_of_parse {source : String} {u : Usage} (h : Usage.parse source = .ok u) :
    u.source = source :=
  (Usage.read_eq_ok_iff.mp (Usage.parse_eq_ok_iff.mp h)).1

lemma exists_source_of_ofValue {v : Value} {u : Usage} (h : Usage.ofValue v = .ok u) :
    v = .text u.source ∧ Usage.parse u.source = .ok u := by
  match v with
  | .text source =>
    have hparse : Usage.parse source = .ok u := h
    obtain rfl := source_of_parse hparse
    exact ⟨rfl, hparse⟩
  | .null | .unset | .bool _ | .int _ | .decimal _ | .real _ | .list _ | .map _ | .code _
  | .named _ | .ofClass _ => cases h

/-! ### Captures -/

/-- What the slots of a usage capture in the parameter text of a context; without a usage there is
nothing to capture. -/
def capturesOf (context : Context κ) : Value → Except Error (List Pattern.Capture)
  | .null =>
    if Text.allBlank (context.parameterString.getD "").toList then .ok []
    else .error (unexpectedArguments (commandText context))
  | usage =>
    match usageOf usage with
    | .error e => .error e
    | .ok u =>
      match (Pattern.ofUsage u).captures? (context.parameterString.getD "") with
      | none => .error (wrongArguments (commandText context) u.source)
      | some captures => .ok captures

lemma capturesOf_text {source : String} {u : Usage} (h : Usage.parse source = .ok u)
    (context : Context κ) : capturesOf context (.text source) =
      match (Pattern.ofUsage u).captures? (context.parameterString.getD "") with
      | none => .error (wrongArguments (commandText context) u.source)
      | some captures => .ok captures := by
  simp [capturesOf, usageOf, Value.isKey, Usage.ofValue, h]

/-- What a parser makes of captures. -/
def collected (host : Converter.HostConversion κ σ) (context : Context κ) (usage : Value)
    (captures : List Pattern.Capture) : Act (Parser × σ) Parameters := do
  let (parser, _) ← get
  if parser.converters.isSome then
    return .collect (← typedPairs host context usage captures)
  else return .collect (captures.map untypedPair)

lemma on_collected_nil (host : Converter.HostConversion κ σ) (context : Context κ) (usage : Value)
    (p : Parser) (s : σ) : (collected host context usage []).on (p, s) = (.ok .empty, p, s) := by
  simp [collected, typedPairs]
  rfl

/-! ### Reading and keeping -/

variable [Journal σ]

/-- A usage that is not kept is read. -/
lemma Coherent.on_read (h : p.Coherent) {usage : Value}
    (hnew : ∀ source, usage = .text source → p.trees.get? source = none) (s : σ) :
    ∃ r q u, (tree.read usage).on (p, s) = (r, q, u) ∧ r.map Tree.usage = Usage.ofValue usage ∧
      (∀ t, r = .ok t → q.trees.get? t.usage.source = some t) ∧
      q.Coherent ∧ q.converters = p.converters ∧ Noted s u := by
  cases hvalue : Usage.ofValue usage with
  | error e =>
    refine ⟨.error e, p, s, ?_, rfl, nofun, h, rfl, .refl s⟩
    simp [tree.read, Usage.load, hvalue]
  | ok u =>
    obtain ⟨rfl, hparse⟩ := exists_source_of_ofValue hvalue
    refine ⟨.ok (p.patterns.newTree u).1, _, _, ?_, rfl, ?_, h.insert (hnew _ rfl) hparse, rfl,
      .note ⟨.grammar, .debug, "Parsed usage " ++ quoted u.source ++ " into " ++ u.shown⟩ s⟩
    · simp [tree.read, Usage.load, hvalue, Journal.note]
    · rintro t ht
      obtain rfl := Except.ok.inj ht
      simp [Pattern.Cache.newTree]

/-- The tree that a parser gives stands for the usage, whether the parser has kept or reads it. -/
lemma Coherent.on_tree (h : p.Coherent) (usage : Value) (s : σ) :
    ∃ r q u, (tree usage).on (p, s) = (r, q, u) ∧ r.map Tree.usage = usageOf usage ∧
      (∀ t, r = .ok t → q.trees.get? t.usage.source = some t) ∧
      q.Coherent ∧ q.converters = p.converters ∧ Noted s u := by
  by_cases hkey : usage.isKey = true
  case neg =>
    refine ⟨.error (.bare .unusable), p, s, ?_, ?_, nofun, h, rfl, .refl s⟩
    · simp [tree, hkey]
    · simp [usageOf, hkey, Except.map]
  rw [usageOf, if_pos hkey]
  by_cases hkept : ∃ source t, usage = .text source ∧ p.trees.get? source = some t
  · obtain ⟨source, t, rfl, ht⟩ := hkept
    have hparse := h.parse_eq ht
    refine ⟨.ok t, p, s, ?_, hparse.symm, ?_, h, rfl, .refl s⟩
    · simp [tree, hkey, ht]
    · rintro t' ht'
      obtain rfl := Except.ok.inj ht'
      rw [source_of_parse hparse, ht]
  · have hnew : ∀ source, usage = .text source → p.trees.get? source = none := by
      intro source hsource
      by_contra hne
      obtain ⟨t, ht⟩ := Option.ne_none_iff_exists'.mp hne
      exact hkept ⟨source, t, hsource, ht⟩
    have hread : (tree usage).on (p, s) = (tree.read usage).on (p, s) := by
      cases usage <;> simp_all [tree]
    rw [hread]
    exact h.on_read hnew s

/-! ### Patterns -/

/-- A pattern that is compiled is kept under the number of its usage. -/
lemma Coherent.compile (h : p.Coherent) (ht : p.trees.get? t.usage.source = some t) :
    ({ p with patterns := (p.patterns.compile t).2 } : Parser).Coherent := by
  cases hc : p.patterns.entries.get? t.id with
  | some c => simpa [Pattern.Cache.compile, hc] using h
  | none =>
    constructor
    case parse_eq => exact h.parse_eq
    case id_lt =>
      intro source t' ht'
      simpa [Pattern.Cache.compile, hc] using h.id_lt ht'
    case id_injective => exact h.id_injective
    case compiled =>
      intro id c hentry
      simp only [Pattern.Cache.compile, hc] at hentry
      rcases Table.get?_set_eq_some_iff.mp hentry with ⟨rfl, rfl⟩ | ⟨-, hentry⟩
      · exact ⟨_, t, ht, rfl, rfl⟩
      · exact h.compiled hentry
    case sound => exact h.sound

/-- The pattern that a parser has or makes for a usage is the one that the usage compiles to. -/
lemma Coherent.pattern_compile (h : p.Coherent) (ht : p.trees.get? t.usage.source = some t) :
    (p.patterns.compile t).1.pattern = .ofUsage t.usage := by
  cases hc : p.patterns.entries.get? t.id with
  | none => simp [Pattern.Cache.compile, hc]
  | some c =>
    obtain ⟨source, t', ht', hid, hpattern⟩ := h.compiled hc
    obtain rfl := h.id_injective ht ht' hid.symm
    obtain rfl := Option.some.inj (ht.symm.trans ht')
    simpa [Pattern.Cache.compile, hc] using hpattern

lemma Coherent.on_pattern (h : p.Coherent) (ht : p.trees.get? t.usage.source = some t) (s : σ) :
    ∃ q u, (pattern t).on (p, s) = (.ok (.ofUsage t.usage), q, u) ∧
      q.Coherent ∧ q.converters = p.converters ∧ Noted s u := by
  have hpattern := h.pattern_compile ht
  by_cases hnew : (p.patterns.compile t).2.nextPattern = p.patterns.nextPattern
  · refine ⟨_, s, ?_, h.compile ht, rfl, .refl s⟩
    simp [pattern, hnew, hpattern, Except.map]
  · refine ⟨_, _, ?_, h.compile ht, rfl,
      .note ⟨.patterns, .debug, "Compiled usage " ++ quoted (Pattern.ofUsage t.usage).usage ++
        " to pattern " ++ quoted (Pattern.ofUsage t.usage).regex⟩ s⟩
    simp [pattern, hnew, hpattern, Journal.note, Except.map]

/-- A parse ends with the fault of the captures if there is one, and else makes of the captures what
the parser makes of them. -/
lemma Coherent.on_parse (h : p.Coherent) (host : Converter.HostConversion κ σ)
    (context : Context κ) (usage : Value) (s : σ) :
    ∃ q u, q.Coherent ∧ q.converters = p.converters ∧ Noted s u ∧
      (∀ e, capturesOf context usage = .error e →
        (parse host context usage).on (p, s) = (.error e, q, u)) ∧
      ∀ captures, capturesOf context usage = .ok captures →
        (parse host context usage).on (p, s) =
          (collected host context usage captures).on (q, u) := by
  by_cases hnull : usage = .null
  · subst hnull
    refine ⟨p, s, h, rfl, .refl s, ?_⟩
    by_cases hblank : Text.allBlank (context.parameterString.getD "").toList = true
    · refine ⟨fun e he => ?_, fun captures hcaptures => ?_⟩
      · simp [capturesOf, hblank] at he
      · obtain rfl : captures = [] := by simpa [capturesOf, hblank, eq_comm] using hcaptures
        simp [parse, hblank, on_collected_nil]
    · refine ⟨fun e he => ?_, fun captures hcaptures => ?_⟩
      · obtain rfl : unexpectedArguments (commandText context) = e := by
          simpa [capturesOf, hblank] using he
        simp [parse, hblank]
      · simp [capturesOf, hblank] at hcaptures
  have hparse : parse host context usage = tree usage >>= fun t => pattern t >>= fun pattern =>
      match pattern.captures? (context.parameterString.getD "") with
      | none => Act.fail (wrongArguments (commandText context) t.usage.source)
      | some captures => collected host context usage captures := by
    cases usage <;> first | exact absurd rfl hnull | rfl
  have hcaptures : capturesOf context usage =
      match usageOf usage with
      | .error e => .error e
      | .ok u =>
        match (Pattern.ofUsage u).captures? (context.parameterString.getD "") with
        | none => .error (wrongArguments (commandText context) u.source)
        | some captures => .ok captures := by
    cases usage <;> first | exact absurd rfl hnull | rfl
  rw [hparse, hcaptures]
  obtain ⟨r, q, u, htree, husage, hkept, hq, hconverters, hnoted⟩ := h.on_tree usage s
  rw [← husage, Act.on_bind, htree]
  cases r with
  | error e => exact ⟨q, u, hq, hconverters, hnoted, by simp [Except.map], by simp [Except.map]⟩
  | ok t =>
    obtain ⟨q', u', hpattern, hq', hconverters', hnoted'⟩ := hq.on_pattern (hkept t rfl) u
    refine ⟨q', u', hq', hconverters'.trans hconverters, hnoted.trans hnoted', ?_⟩
    simp only [Except.map, Act.on_bind, hpattern]
    cases (Pattern.ofUsage t.usage).captures? (context.parameterString.getD "") <;> simp

end ChatCommands.Parser
