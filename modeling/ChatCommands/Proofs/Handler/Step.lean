import ChatCommands.Handler
import ChatCommands.Proofs.Act

/-!
# Steps of resolution

Every phase fills in a part of the context, lets the interceptor change the context, and decides
from what comes back where the message goes on.

Main statements: `step_eq`, `leave_cases`.
-/

namespace ChatCommands

variable {σ : Type}

/-! ### Where a context goes on -/

namespace Phase

lemma lt_beforePrefix : 0 < beforePrefix.number := by decide

lemma beforePrefix_lt : beforePrefix.number < afterPrefix.number := by decide

lemma afterPrefix_lt : afterPrefix.number < beforeAlias.number := by decide

lemma beforeAlias_lt : beforeAlias.number < afterAlias.number := by decide

lemma afterAlias_lt : afterAlias.number < beforeCommand.number := by decide

lemma beforeCommand_lt : beforeCommand.number < afterCommand.number := by decide

end Phase

/-- A context goes on at the nominal phase only if nothing in it is for a later one. -/
lemma Context.forward_cases {κ : Type} {n : Nat} (c : Context κ) (nominal : Phase)
    (later : n < nominal.number) :
    (c.command.isSome ∧ c.forward nominal later = .finish .execute) ∨
    (c.command = none ∧ c.commandAlias.isSome ∧
      ∃ later', c.forward nominal later = .phase .beforeCommand later') ∨
    (c.command = none ∧ c.commandAlias = none ∧ c.commandPrefix.isSome ∧
      ∃ later', c.forward nominal later = .phase .beforeAlias later') ∨
    (c.command = none ∧ (nominal.number < 5 → c.commandAlias = none) ∧
      (nominal.number < 3 → c.commandPrefix = none) ∧
      c.forward nominal later = .phase nominal later) := by
  rw [forward]
  split
  · exact Or.inl ⟨‹_›, rfl⟩
  rename_i hcommand
  have hcommand : c.command = none := by simpa using hcommand
  split
  · rename_i halias
    exact Or.inr (Or.inl ⟨hcommand, halias.1, Nat.lt_trans later halias.2, rfl⟩)
  rename_i halias
  split
  · rename_i hpre
    refine Or.inr (Or.inr (Or.inl ⟨hcommand, ?_, hpre.1, Nat.lt_trans later hpre.2, rfl⟩))
    by_contra hne
    refine halias ⟨Option.isSome_iff_ne_none.mpr hne, Nat.lt_trans hpre.2 (by decide)⟩
  · rename_i hpre
    refine Or.inr (Or.inr (Or.inr ⟨hcommand, fun hlt => ?_, fun hlt => ?_, rfl⟩))
    · by_contra hne
      exact halias ⟨Option.isSome_iff_ne_none.mpr hne, hlt⟩
    · by_contra hne
      exact hpre ⟨Option.isSome_iff_ne_none.mpr hne, hlt⟩

/-- A context with nothing in it for a later phase goes on at the nominal one. -/
lemma Context.forward_eq_phase {κ : Type} {n : Nat} {c : Context κ} {nominal : Phase}
    (later : n < nominal.number) (hcommand : c.command = none)
    (halias : nominal.number < 5 → c.commandAlias = none)
    (hpre : nominal.number < 3 → c.commandPrefix = none) :
    c.forward nominal later = .phase nominal later := by
  rw [forward, if_neg (by simp [hcommand]), dif_neg, dif_neg]
  · rintro ⟨hsome, hlt⟩
    simp [hpre hlt] at hsome
  · rintro ⟨hsome, hlt⟩
    simp [halias hlt] at hsome

namespace Handler

variable [Journal σ] {host : Host σ} {h : Handler} {c d e : Context Command} {s t : σ} {p : Phase}

/-! ### The parts of a step -/

/-- Fills in what a phase computes. -/
def enter (host : Host σ) (h : Handler) (p : Phase) (c : Context Command) :
    Act σ (Context Command) :=
  match p with
  | .beforePrefix => do
    trace ("Entering prefix computation phase for " ++ c.shown)
    return c
  | .afterPrefix =>
    if c.commandPrefix.isNone then do
      Act.ofExcept (c.withPrefix (← h.prefixFor host c.message))
    else return c
  | .beforeAlias => do
    trace ("Entering alias and parameter string computation phase for " ++ c.shown)
    return c
  | .afterAlias => return h.findAlias c
  | .beforeCommand => do
    trace ("Entering command computation phase for " ++ c.shown)
    return c
  | .afterCommand => return h.findCommand c

/-- Warns of an empty prefix. -/
def warnOfEmpty (host : Host σ) (h : Handler) (commandPrefix : String) : Act σ Unit :=
  if commandPrefix = "" then issue host h emptyPrefixWarning else return ()

/-- Decides where a context goes on that comes back from the interceptor of a phase. -/
def leave (host : Host σ) (h : Handler) :
    (p : Phase) → Context Command → Act σ (Context Command × Next p.number)
  | .beforePrefix, c => return (c, c.forward .afterPrefix Phase.beforePrefix_lt)
  | .afterPrefix, c =>
    let next := c.forward .beforeAlias Phase.afterPrefix_lt
    if next.isPhase .beforeAlias && c.commandPrefix.isNone then missing "prefix" c
    else return (c, next)
  | .beforeAlias, c =>
    let next := c.forward .afterAlias Phase.beforeAlias_lt
    if !next.isPhase .afterAlias then return (c, next)
    else
      match c.commandPrefix with
      | none => missing "prefix" c
      | some commandPrefix => do
        h.warnOfEmpty host commandPrefix
        if (afterPrefix? commandPrefix c.content).isNone then do
          trace "Message content does not start with prefix, ignoring message"
          return (c, .finish .ignored)
        else return (c, next)
  | .afterAlias, c =>
    let next := c.forward .beforeCommand Phase.afterAlias_lt
    if next.isPhase .beforeCommand && c.commandAlias.isNone then missing "alias" c
    else return (c, next)
  | .beforeCommand, c =>
    let next := c.forward .afterCommand Phase.beforeCommand_lt
    if next.isPhase .afterCommand && c.commandAlias.isNone then missing "alias" c
    else return (c, next)
  | .afterCommand, c =>
    if c.command.isNone then missing "command" c
    else return (c, .finish .execute)

/-- The interceptor of a phase stands between what the phase computes and what it decides. -/
lemma step_eq : step host h p c =
    enter host h p c >>= fun c => intercept host h p c >>= fun c => leave host h p c := by
  cases p with
  | afterPrefix =>
    rw [step, enter]
    split <;> simp only [bind_assoc, pure_bind] <;> rfl
  | beforeAlias =>
    simp only [step, enter, leave, bind_assoc, pure_bind]
    refine bind_congr fun _ => bind_congr fun c => if_congr Iff.rfl rfl ?_
    cases c.commandPrefix with
    | none => rfl
    | some w =>
      by_cases hw : w = ""
      · simp only [warnOfEmpty, if_pos hw]
      · simp only [warnOfEmpty, if_neg hw, pure_bind]
  | _ =>
    simp only [step, enter, bind_assoc, pure_bind]
    rfl

end Handler

end ChatCommands
