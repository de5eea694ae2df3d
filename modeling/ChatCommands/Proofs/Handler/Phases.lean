import ChatCommands.Proofs.Handler.Step

/-!
# What holds in the phases

Interceptors may set and clear every part of a context. Whatever they do, a phase is entered only
with what it needs, and what it computes is still missing.

Main statements: `runs_iff`, `resolve_phases`.
-/

namespace ChatCommands

/-- What holds of a context when a phase is entered. -/
def Phase.Entry (c : Context Command) : Phase → Prop
  | beforePrefix | afterPrefix =>
    c.commandPrefix = none ∧ c.commandAlias = none ∧ c.command = none
  | beforeAlias => c.commandPrefix.isSome ∧ c.commandAlias = none ∧ c.command = none
  | afterAlias =>
    (∃ w, c.commandPrefix = some w ∧ w.toList <+: c.content.toList) ∧
      c.commandAlias = none ∧ c.command = none
  | beforeCommand | afterCommand => c.commandAlias.isSome ∧ c.command = none

/-- What holds of a context when resolution ends. -/
def Outcome.Final (c : Context Command) : Outcome → Prop
  | execute => c.command.isSome
  | notFound => c.command = none
  | ignored =>
    (∃ w, c.commandPrefix = some w ∧ ¬ w.toList <+: c.content.toList) ∧
      c.commandAlias = none ∧ c.command = none
  | notAllowed => False

/-- A context may go on so. -/
def Next.Admits {n : Nat} (c : Context Command) : Next n → Prop
  | phase p _ => p.Entry c
  | finish o => o.Final c

variable {σ : Type} [Journal σ] {host : Host σ} {h : Handler} {c d : Context Command} {s t : σ}
  {p nominal : Phase} {n : Nat}

/-! ### One step -/

lemma Context.forward_admits {later : n < nominal.number}
    (hnominal : c.forward nominal later = .phase nominal later → c.command = none →
      (nominal.number < 5 → c.commandAlias = none) → (nominal.number < 3 → c.commandPrefix = none) →
      nominal.Entry c) :
    (c.forward nominal later).Admits c := by
  rcases c.forward_cases nominal later with ⟨hcommand, hnext⟩ | ⟨hcommand, halias, _, hnext⟩ |
    ⟨hcommand, halias, hpre, _, hnext⟩ | ⟨hcommand, halias, hpre, hnext⟩
  · rw [hnext]
    exact hcommand
  · rw [hnext]
    exact ⟨halias, hcommand⟩
  · rw [hnext]
    exact ⟨hpre, halias, hcommand⟩
  · have hentry := hnominal hnext hcommand halias hpre
    rw [hnext]
    exact hentry

/-- A context that goes on at the nominal phase has nothing that is for a later one. -/
lemma Context.of_forward_isPhase {later : n < nominal.number}
    (h : (c.forward nominal later).isPhase nominal) :
    c.command = none ∧ (nominal.number < 5 → c.commandAlias = none) := by
  rcases c.forward_cases nominal later with ⟨-, hnext⟩ | ⟨hcommand, -, _, hnext⟩ |
    ⟨hcommand, halias, -⟩ | ⟨hcommand, halias, -⟩
  · rw [hnext] at h
    cases h
  · rw [hnext] at h
    obtain rfl : Phase.beforeCommand = nominal := by simpa [Next.isPhase] using h
    exact ⟨hcommand, fun hlt => absurd hlt (by decide)⟩
  · exact ⟨hcommand, fun _ => halias⟩
  · exact ⟨hcommand, halias⟩

namespace Handler

lemma afterPrefix?_isNone_iff {w content : String} :
    (afterPrefix? w content).isNone ↔ ¬ w.toList <+: content.toList := by
  rw [afterPrefix?, ← List.isPrefixOf_iff_prefix]
  split <;> simp_all

/-- A context goes on as it is unless it lacks what the nominal phase needs. -/
lemma admits_of_missing {later : n < nominal.number} {next : Next n} {part : Option String}
    {what : String}
    (hleave : (if (c.forward nominal later).isPhase nominal && part.isNone then missing what c
      else return (c, c.forward nominal later) : Act σ _).on s = (.ok (d, next), t))
    (hnominal : part.isSome → c.command = none → (nominal.number < 5 → c.commandAlias = none) →
      nominal.Entry c) :
    d = c ∧ next.Admits d := by
  split at hleave
  · rename_i hmissing
    cases hleave
    rw [Bool.and_eq_true] at hmissing
    exact ⟨rfl, (Context.of_forward_isPhase hmissing.1).1⟩
  · rename_i hthere
    cases hleave
    refine ⟨rfl, Context.forward_admits fun hnext hcommand halias _ => hnominal ?_ hcommand halias⟩
    simpa [hnext, Next.isPhase, Option.isSome_iff_ne_none] using hthere

/-- Where a phase sends a context, the context may go. -/
lemma leave_admits {next : Next p.number} (hleave : (leave host h p c).on s = (.ok (d, next), t)) :
    d = c ∧ next.Admits d := by
  cases p with
  | beforePrefix =>
    cases hleave
    exact ⟨rfl, Context.forward_admits fun _ hcommand halias hpre =>
      ⟨hpre (by decide), halias (by decide), hcommand⟩⟩
  | afterPrefix =>
    exact admits_of_missing hleave fun hpre hcommand halias =>
      ⟨hpre, halias (by decide), hcommand⟩
  | beforeAlias =>
    rw [leave] at hleave
    split at hleave
    · rename_i hjump
      cases hleave
      refine ⟨rfl, Context.forward_admits fun hnext => ?_⟩
      simp [hnext, Next.isPhase] at hjump
    rename_i hstay
    have hstay : (c.forward .afterAlias Phase.beforeAlias_lt).isPhase .afterAlias := by
      simpa using hstay
    obtain ⟨hcommand, halias⟩ := Context.of_forward_isPhase hstay
    have halias := halias (by decide)
    split at hleave
    · cases hleave
      exact ⟨rfl, hcommand⟩
    rename_i w hpre
    obtain ⟨_, u, -, hleave⟩ := Act.on_bind_eq_ok.mp hleave
    split at hleave
    · rename_i hignored
      cases hleave
      exact ⟨rfl, ⟨w, hpre, afterPrefix?_isNone_iff.mp hignored⟩, halias, hcommand⟩
    · rename_i hstarts
      cases hleave
      rw [afterPrefix?_isNone_iff, not_not] at hstarts
      exact ⟨rfl, Context.forward_admits fun _ _ _ _ => ⟨⟨w, hpre, hstarts⟩, halias, hcommand⟩⟩
  | afterAlias =>
    exact admits_of_missing hleave fun halias hcommand _ => ⟨halias, hcommand⟩
  | beforeCommand =>
    exact admits_of_missing hleave fun halias hcommand _ => ⟨halias, hcommand⟩
  | afterCommand =>
    rw [leave] at hleave
    split at hleave
    · rename_i hmissing
      cases hleave
      exact ⟨rfl, Option.isNone_iff_eq_none.mp hmissing⟩
    · rename_i hthere
      cases hleave
      refine ⟨rfl, ?_⟩
      show c.command.isSome
      simpa [Option.isSome_iff_ne_none] using hthere

lemma step_admits {next : Next p.number} (hstep : (step host h p c).on s = (.ok (d, next), t)) :
    next.Admits d := by
  rw [step_eq] at hstep
  obtain ⟨c₁, u₁, -, hstep⟩ := Act.on_bind_eq_ok.mp hstep
  obtain ⟨c₂, u₂, -, hleave⟩ := Act.on_bind_eq_ok.mp hstep
  exact (leave_admits hleave).2

/-! ### Whole runs -/

/-- A phase that a run enters, with the context and the state of the host at that point. -/
structure Visit (σ : Type) where
  phase : Phase
  context : Context Command
  state : σ

/-- The phases that are entered from a point on, up to the end or to an error. -/
def visitsFrom (host : Host σ) (h : Handler) {n : Nat} (next : Next n) (c : Context Command)
    (s : σ) : List (Visit σ) :=
  match next with
  | .finish _ => []
  | .phase p _later =>
    ⟨p, c, s⟩ ::
      match (step host h p c).on s with
      | (.ok (d, next), t) => visitsFrom host h next d t
      | (.error _, _) => []
termination_by 6 - n
decreasing_by have := p.number_le_six; omega

/-- The phases that are entered when a context is resolved. -/
def visits (host : Host σ) (h : Handler) (c : Context Command) (s : σ) : List (Visit σ) :=
  visitsFrom host h (c.forward .beforePrefix Phase.lt_beforePrefix) c s

/-- A run from a point on: the phases that it enters, each where the step of the one before leads,
and how it ends. -/
inductive Runs (host : Host σ) (h : Handler) : {n : Nat} → Next n → Context Command → σ →
    List (Visit σ) → Except Error (Outcome × Context Command) → σ → Prop
  | finish {n : Nat} (o : Outcome) (c : Context Command) (s : σ) :
      Runs host h (.finish o : Next n) c s [] (.ok (o, c)) s
  | error {n : Nat} {p : Phase} {later : n < p.number} {c : Context Command} {s t : σ} {e : Error} :
      (step host h p c).on s = (.error e, t) →
      Runs host h (.phase p later) c s [⟨p, c, s⟩] (.error e) t
  | step {n : Nat} {p : Phase} {later : n < p.number} {c d : Context Command} {s t u : σ}
      {next : Next p.number} {visits : List (Visit σ)}
      {r : Except Error (Outcome × Context Command)} :
      (step host h p c).on s = (.ok (d, next), t) → Runs host h next d t visits r u →
      Runs host h (.phase p later) c s (⟨p, c, s⟩ :: visits) r u

section Runs

variable {next : Next n} {visits : List (Visit σ)} {o : Outcome}
  {r : Except Error (Outcome × Context Command)}

lemma runs_follow {n : Nat} (next : Next n) (c : Context Command) (s : σ) :
    Runs host h next c s (visitsFrom host h next c s) ((follow host h next c).on s).1
      ((follow host h next c).on s).2 := by
  match next with
  | .finish o =>
    rw [visitsFrom, follow]
    exact .finish o c s
  | .phase p later =>
    rw [visitsFrom, follow, Act.on_bind]
    rcases hstep : (step host h p c).on s with ⟨e | ⟨d, next⟩, t⟩
    · exact .error hstep
    · have := p.number_le_six
      exact .step hstep (runs_follow next d t)
termination_by 6 - n

/-- A handler makes one run, that of the phases it visits. -/
lemma runs_iff : Runs host h next c s visits r t ↔
    visits = visitsFrom host h next c s ∧ (follow host h next c).on s = (r, t) := by
  constructor
  · intro hruns
    induction hruns with
    | finish o c s => exact ⟨by rw [visitsFrom], by rw [follow]; rfl⟩
    | error hstep => exact ⟨by rw [visitsFrom, hstep], by rw [follow, Act.on_bind, hstep]⟩
    | step hstep _ ih =>
      exact ⟨by rw [visitsFrom, hstep, ih.1], by rw [follow, Act.on_bind, hstep]; exact ih.2⟩
  · rintro ⟨rfl, hrun⟩
    have hruns : Runs host h next c s _ _ _ := runs_follow next c s
    rwa [hrun] at hruns

/-- A run that is entered with what it needs enters every phase so. -/
lemma Runs.entry (hruns : Runs host h next c s visits r t) (hadmits : next.Admits c) :
    ∀ v ∈ visits, v.phase.Entry v.context := by
  induction hruns with
  | finish => simp
  | error => exact List.forall_mem_singleton.mpr hadmits
  | step hstep _ ih => exact List.forall_mem_cons.mpr ⟨hadmits, ih (step_admits hstep)⟩

/-- So does it end as the last of its steps has it. -/
lemma Runs.final (hruns : Runs host h next c s visits (.ok (o, d)) t) (hadmits : next.Admits c) :
    o.Final d := by
  generalize hr : Except.ok (o, d) = r at hruns
  induction hruns with
  | finish =>
    cases hr
    exact hadmits
  | error => cases hr
  | step hstep _ ih => exact ih (step_admits hstep) hr

end Runs

lemma forward_start_admits : (c.forward .beforePrefix Phase.lt_beforePrefix).Admits c :=
  Context.forward_admits fun _ hcommand halias hpre =>
    ⟨hpre (by decide), halias (by decide), hcommand⟩

/-- A context is resolved by the run of its visits, and the host is told the outcome. -/
lemma resolve_runs (host : Host σ) (h : Handler) (c : Context Command) (s : σ) : ∃ r u,
    Runs host h (c.forward .beforePrefix Phase.lt_beforePrefix) c s (h.visits host c s) r u ∧
    (h.resolve host c).on s = (r, match r with
      | .ok (o, d) =>
        Journal.note ⟨.pipeline, .debug, "Resolved to " ++ o.name ++ " for " ++ d.shown⟩ u
      | .error _ => u) := by
  rcases hfollow : (follow host h (c.forward .beforePrefix Phase.lt_beforePrefix) c).on s with
    ⟨r, u⟩
  refine ⟨r, u, runs_iff.mpr ⟨rfl, hfollow⟩, ?_⟩
  rw [resolve, Act.on_bind, hfollow]
  rcases r with e | ⟨o, d⟩ <;> rfl

/-- Resolution ends with what its outcome says. -/
lemma final_of_resolve {o : Outcome} (hrun : (h.resolve host c).on s = (.ok (o, d), t)) :
    o.Final d := by
  obtain ⟨r, u, hruns, hresolve⟩ := resolve_runs host h c s
  obtain rfl : r = .ok (o, d) := congrArg Prod.fst (hresolve.symm.trans hrun)
  exact hruns.final forward_start_admits

/-- What a handler computes in a phase is missing when the phase is entered, and what the phase uses
is there: the text after the prefix is taken only of a text that starts with the prefix, and only an
alias that is set is looked up. A command is run exactly if there is one. The phases visited are
those of the run: each is entered with the context and in the state that the step of the one before
leaves, and the last one ends the run. -/
theorem resolve_phases (host : Host σ) (h : Handler) (c : Context Command) (s : σ) :
    (∃ r u,
      Runs host h (c.forward .beforePrefix Phase.lt_beforePrefix) c s (h.visits host c s) r u ∧
      (h.resolve host c).on s = (r, match r with
        | .ok (o, d) =>
          Journal.note ⟨.pipeline, .debug, "Resolved to " ++ o.name ++ " for " ++ d.shown⟩ u
        | .error _ => u)) ∧
    (∀ v ∈ h.visits host c s, v.phase.Entry v.context ∧
      (v.phase = .afterAlias → ∃ w, v.context.commandPrefix = some w ∧
        v.context.content = w ++ withoutPrefix v.context) ∧
      (v.phase = .afterCommand → ∃ word, v.context.commandAlias = some word ∧
        h.findCommand v.context = v.context.withCommand (h.registry.get? word))) ∧
    ∀ o d t, (h.resolve host c).on s = (.ok (o, d), t) →
      (o = .execute ↔ d.command.isSome) ∧
      (o = .ignored → (∃ w, d.commandPrefix = some w ∧ ¬ w.toList <+: d.content.toList) ∧
        d.commandAlias = none ∧ d.command = none) ∧
      o ≠ .notAllowed := by
  refine ⟨resolve_runs host h c s, fun v hv => ?_, fun o d t hrun => ?_⟩
  · obtain ⟨_, _, hruns, -⟩ := resolve_runs host h c s
    have hentry := hruns.entry forward_start_admits v hv
    refine ⟨hentry, fun hp => ?_, fun hp => ?_⟩
    · rw [hp] at hentry
      obtain ⟨⟨w, hpre, hstarts⟩, -⟩ := hentry
      refine ⟨w, hpre, ?_⟩
      obtain ⟨rest, hrest⟩ := hstarts
      rw [← String.toList_inj, String.toList_append, withoutPrefix, hpre, ← hrest]
      simp [← String.length_toList]
    · rw [hp] at hentry
      obtain ⟨halias, hcommand⟩ := hentry
      obtain ⟨word, hword⟩ := Option.isSome_iff_exists.mp halias
      exact ⟨word, hword, by simp [findCommand, hcommand, hword]⟩
  · have hfinal := final_of_resolve hrun
    cases o with
    | execute => exact ⟨iff_of_true rfl hfinal, (nomatch ·), by decide⟩
    | notFound =>
      have hfinal : d.command = none := hfinal
      exact ⟨by simp [hfinal], (nomatch ·), by decide⟩
    | ignored =>
      obtain ⟨hpre, halias, hcommand⟩ := hfinal
      exact ⟨by simp [hcommand], fun _ => ⟨hpre, halias, hcommand⟩, by decide⟩
    | notAllowed => cases hfinal

end Handler

end ChatCommands
