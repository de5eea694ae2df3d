import ChatCommands.Proofs.Handler.Phases
import ChatCommands.Proofs.Handler.Recorded

/-!
# Order of phases

Resolution ends within six phases, whatever the host does: each phase that is entered comes after
the one before, although a context may go on at a later one than the next. So each interceptor is
called at most once in a phase. A context with a command ends resolution, and one with an alias goes
on at the phase before the command.

Main statements: `rounds_eq_follow`, `pairwise_visitsFrom`, `follow_watched`, `resolve_in_order`.
-/

namespace ChatCommands

variable {σ ρ : Type}

/-- A context with an alias and no command goes on at the phase before the command. -/
lemma Context.forward_eq_beforeCommand {κ : Type} {n : Nat} {c : Context κ} {nominal : Phase}
    (later : n < nominal.number) (hcommand : c.command = none) (halias : c.commandAlias.isSome)
    (hle : nominal.number ≤ Phase.beforeCommand.number) :
    ∃ later', c.forward nominal later = .phase .beforeCommand later' := by
  rcases c.forward_cases nominal later with ⟨hsome, -⟩ | ⟨-, -, hnext⟩ | ⟨-, hnone, -⟩ |
    ⟨-, hnone, -, hnext⟩
  · simp [hcommand] at hsome
  · exact hnext
  · simp [hnone] at halias
  · -- only the phase itself is left of those up to it
    have hnot : ¬ nominal.number < Phase.beforeCommand.number := by
      intro hlt
      simp [hnone hlt] at halias
    obtain rfl : nominal = .beforeCommand := by
      cases nominal <;> simp_all [Phase.number]
    exact ⟨later, hnext⟩

/-! ### Calls of interceptors -/

/-- A host that keeps the list of the interceptors it calls, each with the phase. -/
def Host.watched (host : Host σ) : Host (List (Interceptor × Phase) × σ) where
  prefixOf message := Act.beside (host.prefixOf message)
  extract message := Act.beside (host.extract message)
  intercept i c p :=
    .of fun (seen, s) => (Act.beside (host.intercept i c p)).on (seen ++ [(i, p)], s)
  ask r c := Act.beside (host.ask r c)
  run command c := Act.beside (host.run command c)
  reply := host.reply.map fun reply c text => Act.beside (reply c text)
  notify l e := Act.beside (host.notify l e)
  warn f := Act.beside (host.warn f)
  print r := Act.beside (host.print r)

namespace Handler

variable [Journal σ] {host : Host σ} {h : Handler} {c d : Context Command} {s t : σ} {p : Phase}
  {n k : Nat} {seen : List (Interceptor × Phase)}

/-- The call of the interceptor of a phase, if there is one. -/
def callsAt (h : Handler) (p : Phase) : List (Interceptor × Phase) :=
  (h.interceptors.get? p).toList.map (·, p)

omit [Journal σ] in
lemma accompanies_watched (host : Host σ) : Accompanies host.watched host where
  prefixOf _ := rfl
  warn _ := rfl
  print _ := rfl

lemma intercept_watched :
    (intercept host.watched h p c).on (seen, s) =
      (((intercept host h p c).on s).1, seen ++ h.callsAt p, ((intercept host h p c).on s).2) := by
  rw [intercept, intercept, callsAt]
  cases h.interceptors.get? p with
  | none => simp
  | some i =>
    have hcall : ∀ u, (host.watched.intercept i c p).on (seen, u) =
        (((host.intercept i c p).on u).1, seen ++ [(i, p)], ((host.intercept i c p).on u).2) :=
      fun _ => rfl
    have hnote : ∀ (n : Note) (r : List (Interceptor × Phase)) (u : σ),
        Journal.note n (r, u) = (r, Journal.note n u) := fun _ _ _ => rfl
    simp only [trace, Act.on_bind, Act.on_note, hnote, hcall]
    rcases (host.intercept i c p).on _ with ⟨e | result, u⟩
    · rfl
    · cases result <;> rfl

/-- A step calls the interceptor of its phase once, unless it fails before. -/
lemma step_watched (host : Host σ) (h : Handler) (p : Phase) (c : Context Command) (s : σ)
    (seen : List (Interceptor × Phase)) :
    ∃ called, called <+: h.callsAt p ∧
      (step host.watched h p c).on (seen, s) =
        (((step host h p c).on s).1, seen ++ called, ((step host h p c).on s).2) ∧
      (∀ x t, (step host h p c).on s = (.ok x, t) → called = h.callsAt p) := by
  simp only [step_eq]
  rw [enter_beside (accompanies_watched host), Act.on_bind, Act.on_beside, Act.on_bind]
  rcases (enter host h p c).on s with ⟨e | c₁, s₁⟩
  · exact ⟨[], List.nil_prefix, by simp, fun _ _ => nofun⟩
  · refine ⟨h.callsAt p, List.prefix_rfl, ?_, fun _ _ _ => rfl⟩
    dsimp only
    rw [Act.on_bind, Act.on_bind, intercept_watched]
    rcases (intercept host h p c₁).on s₁ with ⟨e | c₂, s₂⟩
    · rfl
    · dsimp only
      rw [leave_beside (accompanies_watched host), Act.on_beside]

/-- A run calls interceptors only in the phases it enters, in their order. -/
lemma follow_watched (host : Host σ) (h : Handler) {n : Nat} (next : Next n)
    (c : Context Command) (s : σ) (seen : List (Interceptor × Phase)) :
    ∃ called, called <+: (visitsFrom host h next c s).flatMap (fun v => h.callsAt v.phase) ∧
      (follow host.watched h next c).on (seen, s) =
        (((follow host h next c).on s).1, seen ++ called, ((follow host h next c).on s).2) := by
  match next with
  | .finish o =>
    refine ⟨[], List.nil_prefix, ?_⟩
    simp [follow]
  | .phase p later =>
    obtain ⟨called, hcalled, hstep, hall⟩ := step_watched host h p c s seen
    rw [follow, follow, visitsFrom, Act.on_bind, Act.on_bind, hstep, List.flatMap_cons]
    rcases hrun : (step host h p c).on s with ⟨e | ⟨d, next⟩, t⟩
    · exact ⟨called, by simpa using hcalled, rfl⟩
    · have := p.number_le_six
      obtain ⟨more, hmore, hfollow⟩ := follow_watched host h next d t (seen ++ called)
      refine ⟨called ++ more, ?_, by simpa using hfollow⟩
      rw [hall _ _ hrun]
      exact (List.prefix_append_right_inj _).mpr hmore
termination_by 6 - n

/-! ### Phases one after another -/

/-- Up to so many phases of a run; nothing is decided if the run does not end within them. -/
def rounds (host : Host σ) (h : Handler) :
    Nat → {n : Nat} → Next n → Context Command → Act σ (Option (Outcome × Context Command))
  | _, _, .finish o, c => return some (o, c)
  | 0, _, .phase _ _, _ => return none
  | k + 1, _, .phase p _, c => do
    let (d, next) ← step host h p c
    rounds host h k next d

/-- Resolution that gives up after so many phases. -/
def resolveWithin (host : Host σ) (h : Handler) (k : Nat) (c : Context Command) :
    Act σ (Option (Outcome × Context Command)) := do
  match ← rounds host h k (c.forward .beforePrefix Phase.lt_beforePrefix) c with
  | none => return none
  | some (o, d) =>
    trace ("Resolved to " ++ o.name ++ " for " ++ d.shown)
    return some (o, d)

/-- As many phases as there are left after a phase are enough. -/
lemma rounds_eq_follow (hk : 6 ≤ n + k) (next : Next n) (c : Context Command) :
    rounds host h k next c = some <$> follow host h next c := by
  induction k generalizing n c with
  | zero =>
    cases next with
    | finish o => rw [rounds, follow, map_pure]
    | phase p later =>
      have := p.number_le_six
      omega
  | succ k ih =>
    cases next with
    | finish o => rw [rounds, follow, map_pure]
    | phase p later =>
      rw [rounds, follow, map_bind]
      refine bind_congr ?_
      rintro ⟨d, next⟩
      exact ih (by omega) next d

lemma resolveWithin_six (host : Host σ) (h : Handler) (c : Context Command) :
    h.resolveWithin host 6 c = some <$> h.resolve host c := by
  rw [resolveWithin, rounds_eq_follow (by omega), resolve, map_bind, bind_map_left]
  refine bind_congr ?_
  rintro ⟨o, d⟩
  simp

/-- A run after a phase enters only later phases. -/
lemma lt_of_mem_visitsFrom {n : Nat} {next : Next n} {c : Context Command} {s : σ} {v : Visit σ}
    (hv : v ∈ visitsFrom host h next c s) : n < v.phase.number := by
  match next with
  | .finish o =>
    rw [visitsFrom] at hv
    cases hv
  | .phase p later =>
    rw [visitsFrom] at hv
    rcases List.mem_cons.mp hv with rfl | hv
    · exact later
    · split at hv
      · have := p.number_le_six
        exact Nat.lt_trans later (lt_of_mem_visitsFrom hv)
      · cases hv
termination_by 6 - n

/-- Each phase that a run enters comes after those that it entered before. -/
lemma pairwise_visitsFrom {n : Nat} (next : Next n) (c : Context Command) (s : σ) :
    (visitsFrom host h next c s).Pairwise fun v w => v.phase.number < w.phase.number := by
  match next with
  | .finish o =>
    rw [visitsFrom]
    exact .nil
  | .phase p later =>
    rw [visitsFrom]
    split
    · have := p.number_le_six
      exact .cons (fun v hv => lt_of_mem_visitsFrom hv) (pairwise_visitsFrom _ _ _)
    · exact List.pairwise_singleton _ _
termination_by 6 - n

omit [Journal σ] in
/-- So are the calls of interceptors ordered, and no phase has two. -/
lemma pairwise_calls {visits : List (Visit σ)}
    (hvisits : visits.Pairwise fun v w => v.phase.number < w.phase.number) :
    (visits.flatMap fun v => h.callsAt v.phase).Pairwise fun a b => a.2.number < b.2.number := by
  rw [List.pairwise_flatMap]
  constructor
  · intro v _
    rw [callsAt]
    cases h.interceptors.get? v.phase <;> simp
  · refine hvisits.imp fun hlt => ?_
    intro a ha b hb
    obtain ⟨_, -, rfl⟩ := List.mem_map.mp ha
    obtain ⟨_, -, rfl⟩ := List.mem_map.mp hb
    exact hlt

/-! ### What follows a phase -/

/-- What is entered after a phase is the run from what its step leads to. -/
lemma eq_visitsFrom_of_split {n : Nat} {next : Next n} {earlier later : List (Visit σ)}
    {v : Visit σ} {next' : Next v.phase.number}
    (hsplit : visitsFrom host h next c s = earlier ++ v :: later)
    (hstep : (step host h v.phase v.context).on v.state = (.ok (d, next'), t)) :
    later = visitsFrom host h next' d t := by
  induction earlier generalizing n c s with
  | nil =>
    cases next with
    | finish o =>
      rw [visitsFrom] at hsplit
      cases hsplit
    | phase p _ =>
      rw [visitsFrom] at hsplit
      obtain ⟨rfl, hrest⟩ := List.cons.inj hsplit
      rw [hstep] at hrest
      exact hrest.symm
  | cons w earlier ih =>
    cases next with
    | finish o =>
      rw [visitsFrom] at hsplit
      cases hsplit
    | phase p _ =>
      rw [visitsFrom] at hsplit
      have hrest := (List.cons.inj hsplit).2
      split at hrest
      · exact ih hrest
      · simp at hrest

/-- Nothing follows a context with a command. -/
lemma step_eq_finish {next : Next p.number}
    (hstep : (step host h p c).on s = (.ok (d, next), t)) (hcommand : d.command.isSome) :
    next = .finish .execute := by
  have hadmits := step_admits hstep
  cases next with
  | phase q later => cases q <;> simp [Next.Admits, Phase.Entry] at hadmits <;> simp_all
  | finish o => cases o <;> simp [Next.Admits, Outcome.Final] at hadmits <;> simp_all

/-- A context with an alias and no command is left to the phase before the command. -/
lemma leave_eq_beforeCommand (host : Host σ) (h : Handler)
    (hlt : p.number < Phase.beforeCommand.number)
    (hcommand : c.command = none) (halias : c.commandAlias.isSome) :
    ∃ later, leave host h p c = return (c, .phase .beforeCommand later) := by
  cases p with
  | beforePrefix =>
    obtain ⟨later, hnext⟩ :=
      Context.forward_eq_beforeCommand Phase.beforePrefix_lt hcommand halias (by decide)
    exact ⟨later, by rw [leave, hnext]⟩
  | afterPrefix =>
    obtain ⟨later, hnext⟩ :=
      Context.forward_eq_beforeCommand Phase.afterPrefix_lt hcommand halias (by decide)
    exact ⟨later, by simp [leave, hnext, Next.isPhase]⟩
  | beforeAlias =>
    obtain ⟨later, hnext⟩ :=
      Context.forward_eq_beforeCommand Phase.beforeAlias_lt hcommand halias (by decide)
    exact ⟨later, by simp [leave, hnext, Next.isPhase]⟩
  | afterAlias =>
    obtain ⟨later, hnext⟩ :=
      Context.forward_eq_beforeCommand Phase.afterAlias_lt hcommand halias (by decide)
    exact ⟨later, by simp [leave, hnext, Next.isPhase, Option.isSome_iff_ne_none.mp halias]⟩
  | beforeCommand => exact absurd hlt (by decide)
  | afterCommand => exact absurd hlt (by decide)

lemma step_eq_beforeCommand {next : Next p.number}
    (hstep : (step host h p c).on s = (.ok (d, next), t))
    (hlt : p.number < Phase.beforeCommand.number) (hcommand : d.command = none)
    (halias : d.commandAlias.isSome) : ∃ later, next = .phase .beforeCommand later := by
  rw [step_eq] at hstep
  obtain ⟨c₁, u₁, -, hstep⟩ := Act.on_bind_eq_ok.mp hstep
  obtain ⟨c₂, u₂, -, hleave⟩ := Act.on_bind_eq_ok.mp hstep
  obtain rfl : d = c₂ := (leave_admits hleave).1
  obtain ⟨later, hnext⟩ := leave_eq_beforeCommand host h hlt hcommand halias
  rw [hnext] at hleave
  cases hleave
  exact ⟨later, rfl⟩

/-- Resolution ends within six phases, for every host and from every context. The phases it enters
come one after another in their order, so that each interceptor is called at most once in a phase,
and only in the phases entered. After a phase whose context carries a command no other is entered,
and after one before the command whose context carries an alias and no command, the phase before the
command is the next. -/
theorem resolve_in_order (host : Host σ) (h : Handler) (c : Context Command) (s : σ) :
    h.resolveWithin host 6 c = some <$> h.resolve host c ∧
    ((h.visits host c s).Pairwise fun v w => v.phase.number < w.phase.number) ∧
    (∀ seen, ∃ called, (h.resolve host.watched c).on (seen, s) =
        (((h.resolve host c).on s).1, seen ++ called, ((h.resolve host c).on s).2) ∧
      called <+: (h.visits host c s).flatMap (fun v => h.callsAt v.phase) ∧
      called.Pairwise fun a b => a.2.number < b.2.number) ∧
    ∀ earlier v later, h.visits host c s = earlier ++ v :: later →
      ∀ d next t, (step host h v.phase v.context).on v.state = (.ok (d, next), t) →
        (d.command.isSome → later = []) ∧
        (d.command = none → d.commandAlias.isSome →
          v.phase.number < Phase.beforeCommand.number →
            ∃ rest, later = ⟨.beforeCommand, d, t⟩ :: rest) := by
  have hordered : (h.visits host c s).Pairwise fun v w => v.phase.number < w.phase.number :=
    pairwise_visitsFrom _ _ _
  refine ⟨resolveWithin_six host h c, hordered, fun seen => ?_, ?_⟩
  · obtain ⟨called, hcalled, hfollow⟩ := follow_watched host h
      (c.forward .beforePrefix Phase.lt_beforePrefix) c s seen
    refine ⟨called, ?_, hcalled, (pairwise_calls hordered).sublist hcalled.sublist⟩
    rw [resolve, resolve, Act.on_bind, Act.on_bind, hfollow]
    rcases (follow host h _ c).on s with ⟨e | ⟨o, d⟩, t⟩ <;> rfl
  · intro earlier v later hsplit d next t hstep
    have hlater : later = visitsFrom host h next d t := eq_visitsFrom_of_split hsplit hstep
    constructor
    · intro hcommand
      rw [hlater, step_eq_finish hstep hcommand, visitsFrom]
    · intro hcommand halias hlt
      obtain ⟨later', rfl⟩ := step_eq_beforeCommand hstep hlt hcommand halias
      rw [hlater, visitsFrom]
      exact ⟨_, rfl⟩

end Handler

end ChatCommands
