import ChatCommands.Proofs.Parser.Conversion

/-!
# Calls of a parser

A parser can be called again and again, and converters can be registered between the calls. What
has been kept by then makes no difference to what a parse captures and converts.

Main statements: `Coherent.after`, `parse_typed`.
-/

namespace ChatCommands.Parser

variable {κ σ : Type} [Journal σ] {p : Parser}

/-! ### Parsing -/

/-- A parse leaves a parser that has the same converters. -/
lemma Coherent.parse (h : p.Coherent) (host : Converter.HostConversion κ σ) (context : Context κ)
    (usage : Value) (s : σ) :
    ((parse host context usage).on (p, s)).2.1.Coherent ∧
      ((parse host context usage).on (p, s)).2.1.registered = p.registered := by
  obtain ⟨q, u, hq, hconverters, -, herror, hok⟩ := h.on_parse host context usage s
  have hkq : q.registered = p.registered := by rw [registered, hconverters, registered]
  cases hcaptures : capturesOf context usage with
  | error e =>
    rw [herror e hcaptures]
    exact ⟨hq, hkq⟩
  | ok captures =>
    rw [hok captures hcaptures]
    cases hk : p.registered with
    | none =>
      rw [on_collected_of_untyped (hkq.trans hk)]
      exact ⟨hq, hkq.trans hk⟩
    | some known =>
      obtain ⟨r, q', t, hrun, -, -, hq', hkq'⟩ :=
        hq.on_collected (hkq.trans hk) host context usage captures u
      rw [hrun]
      exact ⟨hq', hkq'⟩

/-- An untyped parser keeps the texts of the captures. -/
lemma Coherent.parse_of_untyped (h : p.Coherent) (hk : p.registered = none)
    (host : Converter.HostConversion κ σ) (context : Context κ) (usage : Value) (s : σ) :
    ((Parser.parse host context usage).on (p, s)).1 =
      (capturesOf context usage).map fun captures => .collect (captures.map untypedPair) := by
  obtain ⟨q, u, hq, hconverters, -, herror, hok⟩ := h.on_parse host context usage s
  have hkq : q.registered = none := by rw [registered, hconverters, ← registered, hk]
  cases hcaptures : capturesOf context usage with
  | error e =>
    rw [herror e hcaptures]
    rfl
  | ok captures =>
    rw [hok captures hcaptures, on_collected_of_untyped hkq]
    rfl

/-- A typed parser ends with the fault of the captures if there is one, and else with what the
captures come to. -/
lemma Coherent.parse_of_typed {known : List Registration} (h : p.Coherent)
    (hk : p.registered = some known) (host : Converter.HostConversion κ σ) (context : Context κ)
    (usage : Value) (s : σ) :
    ∃ u, Noted s u ∧
      (∀ e, capturesOf context usage = .error e →
        ((Parser.parse host context usage).on (p, s)).1 = .error e ∧
          ((Parser.parse host context usage).on (p, s)).2.2 = u) ∧
      ∀ captures, capturesOf context usage = .ok captures →
        (∀ parameters v, (((Parser.parse host context usage).on (p, s)).1 = .ok parameters ∧
            ((Parser.parse host context usage).on (p, s)).2.2 = v) ↔
          ∃ pairs, YieldsAll host known context usage captures u pairs v ∧
            parameters = .collect pairs) ∧
        ∀ e v, (((Parser.parse host context usage).on (p, s)).1 = .error e ∧
            ((Parser.parse host context usage).on (p, s)).2.2 = v) ↔
          Fails host known context usage captures u e v := by
  obtain ⟨q, u, hq, hconverters, hnoted, herror, hok⟩ := h.on_parse host context usage s
  have hkq : q.registered = some known := by rw [registered, hconverters, ← registered, hk]
  refine ⟨u, hnoted, fun e he => ?_, fun captures hcaptures => ?_⟩
  · rw [herror e he]
    exact ⟨rfl, rfl⟩
  · obtain ⟨r, q', t, hrun, hall, hfails, -, -⟩ :=
      hq.on_collected hkq host context usage captures u
    rw [hok captures hcaptures, hrun]
    exact ⟨fun parameters v => (hall parameters v).symm, fun e v => (hfails e v).symm⟩

/-! ### Calls one after another -/

/-- A call to a parser. -/
inductive Call (κ σ : Type) where
  | tree (usage : Value)
  | parse (host : Converter.HostConversion κ σ) (context : Context κ) (usage : Value)
  | register (r : Converters.Request)

/-- The parser and the state of the host after a call; a registration that is refused leaves the
parser as it is. -/
def perform : Parser × σ → Call κ σ → Parser × σ
  | start, .tree usage => ((tree usage).on start).2
  | start, .parse host context usage => ((parse host context usage).on start).2
  | (p, s), .register r =>
    match p.register r with
    | .ok q => (q, s)
    | .error _ => (p, s)

/-- The parser and the state of the host after several calls. -/
def after (start : Parser × σ) : List (Call κ σ) → Parser × σ
  | [] => start
  | call :: calls => after (perform start call) calls

lemma Coherent.register {q : Parser} {request : Converters.Request} (h : p.Coherent)
    (hq : p.register request = .ok q) :
    q.Coherent ∧ q.registered.isSome = p.registered.isSome := by
  cases hconverters : p.converters with
  | none =>
    obtain rfl : p = q := by simpa [Parser.register, hconverters] using hq
    exact ⟨h, rfl⟩
  | some converters =>
    cases hregister : converters.register request with
    | error e => simp [Parser.register, hconverters, hregister, Except.map] at hq
    | ok others =>
      obtain rfl : { p with converters := some others } = q := by
        simpa [Parser.register, hconverters, hregister, Except.map] using hq
      refine ⟨h.withConverters (Converters.sound_of_register hregister), ?_⟩
      simp [registered, hconverters]

lemma Coherent.perform (h : p.Coherent) (s : σ) (call : Call κ σ) :
    (perform (p, s) call).1.Coherent ∧
      (perform (p, s) call).1.registered.isSome = p.registered.isSome := by
  cases call with
  | tree usage =>
    obtain ⟨r, q, u, htree, -, -, hq, hconverters, -⟩ := h.on_tree usage s
    rw [Parser.perform, htree]
    exact ⟨hq, by simp [registered, hconverters]⟩
  | parse host context usage =>
    obtain ⟨hq, hkq⟩ := h.parse host context usage s
    exact ⟨hq, congrArg Option.isSome hkq⟩
  | register request =>
    rw [Parser.perform]
    cases hrequest : p.register request with
    | ok q => exact h.register hrequest
    | error e => exact ⟨h, rfl⟩

/-- A parser stays coherent, and typed or untyped as it was. -/
lemma Coherent.after (h : p.Coherent) (s : σ) (calls : List (Call κ σ)) :
    (after (p, s) calls).1.Coherent ∧
      (after (p, s) calls).1.registered.isSome = p.registered.isSome := by
  induction calls generalizing p s with
  | nil => exact ⟨h, rfl⟩
  | cons call calls ih =>
    obtain ⟨hstep, hsome⟩ := h.perform s call
    obtain ⟨hrest, hsome'⟩ := ih hstep (Parser.perform (p, s) call).2
    exact ⟨hrest, hsome'.trans hsome⟩

end ChatCommands.Parser
