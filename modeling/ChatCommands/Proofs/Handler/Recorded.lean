import ChatCommands.Proofs.Handler.Step

/-!
# Recorded calls

A host can keep a list of what a handler asks it to do: to decide on restrictions, to run commands,
to reply and to tell listeners. What else the handler does leaves the list alone, and the list
changes nothing of what happens.

Main statements: `resolve_recorded`, `adds_allows`, `on_forM_notify_recorded`, `on_run_recorded`.
-/

namespace ChatCommands

variable {σ ρ α β : Type}

/-! ### The list of calls -/

/-- What a handler asks the host to do. -/
inductive Call
  | asked (r : Restriction) (c : Context Command)
  | ran (command : Command) (c : Context Command)
  | replied (c : Context Command) (text : String)
  | notified (l : Listener) (e : Event)

/-- A question to a restriction about a context. -/
def Call.IsQuestion (c : Context Command) (call : Call) : Prop := ∃ r, call = .asked r c

/-- A reply about a context. -/
def Call.IsReply (c : Context Command) (call : Call) : Prop := ∃ text, call = .replied c text

/-- Puts a call on the list before it is made. -/
def Call.put (call : Call) (a : Act σ α) : Act (List Call × σ) α :=
  .of fun (calls, s) => (Act.beside a).on (calls ++ [call], s)

/-- A host that keeps the list of its calls. -/
def Host.recorded (host : Host σ) : Host (List Call × σ) where
  prefixOf message := Act.beside (host.prefixOf message)
  extract message := Act.beside (host.extract message)
  intercept i c p := Act.beside (host.intercept i c p)
  ask r c := (Call.asked r c).put (host.ask r c)
  run command c := (Call.ran command c).put (host.run command c)
  reply := host.reply.map fun reply c text => (Call.replied c text).put (reply c text)
  notify l e := (Call.notified l e).put (host.notify l e)
  warn f := Act.beside (host.warn f)
  print r := Act.beside (host.print r)

lemma on_put (call : Call) (a : Act σ α) (calls : List Call) (s : σ) :
    (call.put a).on (calls, s) = ((a.on s).1, calls ++ [call], (a.on s).2) := rfl

/-- The second act does what the first does, and puts only calls of a kind on the list. -/
def Adds (P : Call → Prop) (a : Act σ α) (b : Act (List Call × σ) α) : Prop :=
  ∀ calls s, ∃ more, (∀ call ∈ more, P call) ∧
    b.on (calls, s) = ((a.on s).1, calls ++ more, (a.on s).2)

namespace Adds

variable {P : Call → Prop} {a : Act σ α} {b : Act (List Call × σ) α}

lemma beside (a : Act σ α) : Adds P a a.beside := fun calls s =>
  ⟨[], by simp, by rw [Act.on_beside, List.append_nil]⟩

lemma put {call : Call} (h : P call) (a : Act σ α) : Adds P a (call.put a) := fun calls s =>
  ⟨[call], by simpa using h, on_put call a calls s⟩

lemma mono {Q : Call → Prop} (h : Adds P a b) (hPQ : ∀ call, P call → Q call) : Adds Q a b := by
  intro calls s
  obtain ⟨more, hmore, hb⟩ := h calls s
  exact ⟨more, fun call hcall => hPQ call (hmore call hcall), hb⟩

lemma bind {f : α → Act σ β} {g : α → Act (List Call × σ) β} (h : Adds P a b)
    (hnext : ∀ x, Adds P (f x) (g x)) : Adds P (a >>= f) (b >>= g) := by
  intro calls s
  obtain ⟨more, hmore, hb⟩ := h calls s
  rw [Act.on_bind, Act.on_bind, hb]
  rcases a.on s with ⟨e | x, t⟩
  · exact ⟨more, hmore, rfl⟩
  · obtain ⟨others, hothers, hg⟩ := hnext x (calls ++ more) t
    refine ⟨more ++ others, ?_, by simpa using hg⟩
    intro call hcall
    rcases List.mem_append.mp hcall with hcall | hcall
    · exact hmore call hcall
    · exact hothers call hcall

lemma attempt (h : Adds P a b) : Adds P a.attempt b.attempt := by
  intro calls s
  obtain ⟨more, hmore, hb⟩ := h calls s
  exact ⟨more, hmore, by rw [Act.on_attempt, Act.on_attempt, hb]⟩

end Adds

namespace Handler

variable [Journal σ] {host : Host σ} {h : Handler} {c : Context Command} {p : Phase} {s : σ}
  {calls : List Call}

/-! ### Resolution makes no call -/

@[simp] lemma beside_trace (message : String) :
    Act.beside (trace message : Act σ Unit) = (trace message : Act (ρ × σ) Unit) := rfl

/-- A host with another state beside its own computes prefixes and warns as the host does. -/
structure Accompanies (wider : Host (ρ × σ)) (host : Host σ) : Prop where
  prefixOf message : wider.prefixOf message = Act.beside (host.prefixOf message)
  warn f : wider.warn f = Act.beside (host.warn f)
  print r : wider.print r = Act.beside (host.print r)

section Accompanies

variable {wider : Host (ρ × σ)} (hwider : Accompanies wider host)
include hwider

lemma enter_beside : enter wider h p c = Act.beside (enter host h p c) := by
  cases p with
  | afterPrefix =>
    rw [enter, enter]
    split
    · rw [Act.beside_bind, prefixFor, prefixFor]
      split <;> simp [hwider.prefixOf]
    · rfl
  | _ => simp [enter]

omit [Journal σ] in
lemma warnOfEmpty_beside (w : String) :
    h.warnOfEmpty wider w = Act.beside (h.warnOfEmpty host w) := by
  rw [warnOfEmpty, warnOfEmpty]
  split
  · rw [issue, issue, Act.beside_bind, Act.beside_ofExcept]
    refine bind_congr fun f => ?_
    rw [Fault.surface, Fault.surface]
    split
    · exact hwider.print _
    · exact hwider.warn _
    · rfl
  · rfl

lemma leave_beside : leave wider h p c = Act.beside (leave host h p c) := by
  cases p with
  | beforePrefix => rfl
  | beforeAlias =>
    rw [leave, leave]
    split
    · rfl
    split
    · rfl
    rw [Act.beside_bind, warnOfEmpty_beside hwider]
    refine bind_congr fun _ => ?_
    split <;> rfl
  | _ =>
    rw [leave, leave]
    split <;> rfl

end Accompanies

omit [Journal σ] in
lemma accompanies_recorded (host : Host σ) : Accompanies host.recorded host where
  prefixOf _ := rfl
  warn _ := rfl
  print _ := rfl

lemma intercept_recorded : intercept host.recorded h p c = Act.beside (intercept host h p c) := by
  rw [intercept, intercept]
  split
  · rfl
  simp only [Act.beside_bind, beside_trace]
  refine bind_congr fun _ => bind_congr fun result => ?_
  cases result <;> simp

lemma step_recorded : step host.recorded h p c = Act.beside (step host h p c) := by
  simp only [step_eq, Act.beside_bind, enter_beside (accompanies_recorded host),
    intercept_recorded, leave_beside (accompanies_recorded host)]

lemma follow_recorded {n : Nat} (next : Next n) (c : Context Command) :
    follow host.recorded h next c = Act.beside (follow host h next c) := by
  match next with
  | .finish o =>
    rw [follow, follow]
    rfl
  | .phase p later =>
    rw [follow, follow, step_recorded, Act.beside_bind]
    have := p.number_le_six
    exact bind_congr fun (d, next) => follow_recorded next d
termination_by 6 - n

lemma resolve_recorded : h.resolve host.recorded c = Act.beside (h.resolve host c) := by
  simp [resolve, follow_recorded]

/-! ### Calls of the rest -/

omit [Journal σ] in
/-- Asking the restrictions of a chain puts only questions on the list. -/
lemma adds_allows (host : Host σ) (c : Context Command) (registered : Restrictions)
    (chain : Chain) :
    Adds (Call.IsQuestion c) (chain.allows registered fun r => host.ask r c)
      (chain.allows registered fun r => host.recorded.ask r c) := by
  induction chain with
  | single name =>
    refine (Adds.beside (Act.ofExcept _)).bind fun r => ?_
    cases r with
    | everyone => exact Adds.beside (pure true)
    | host name id => exact Adds.put ⟨_, rfl⟩ _
  | both l r ihl ihr =>
    refine ihl.bind fun allowed => ?_
    cases allowed
    · exact Adds.beside (pure false)
    · exact ihr
  | either l r ihl ihr =>
    refine ihl.bind fun allowed => ?_
    cases allowed
    · exact ihr
    · exact Adds.beside (pure true)
  | negated e ih => exact ih.bind fun allowed => Adds.beside (pure !allowed)

omit [Journal σ] in
/-- Listeners that are told of an event without an error are told in their order. -/
lemma on_forM_notify_recorded {listeners : List Listener} {e : Event} {calls' : List Call} {t : σ}
    (hrun : (listeners.forM fun l => host.recorded.notify l e).on (calls, s) =
      (.ok (), calls', t)) :
    calls' = calls ++ listeners.map (.notified · e) := by
  induction listeners generalizing calls s with
  | nil =>
    cases hrun
    simp
  | cons l listeners ih =>
    rw [List.forM_eq_forM, List.forM_cons] at hrun
    obtain ⟨_, ⟨calls₁, u⟩, hfirst, hrun⟩ := Act.on_bind_eq_ok.mp hrun
    have hcalls : calls ++ [.notified l e] = calls₁ := congrArg (fun r => r.2.1) hfirst
    rw [ih hrun, ← hcalls]
    simp

/-- Running a command puts the run on the list, and the reply to a failure to parse parameters. -/
lemma on_run_recorded (command : Command) (calls : List Call) (s : σ) :
    (run host.recorded command c).on (calls, s) =
      match (host.run command c).on s with
      | (.ok r, t) => (.ok r, calls ++ [.ran command c], t)
      | (.error e, t) =>
        match e.parameterFault?, host.reply with
        | none, _ => (.error e, calls ++ [.ran command c], t)
        | some f, none =>
          (.ok (.value .null), calls ++ [.ran command c],
            Journal.note ⟨.pipeline, .warning, "Unreported parameter parse failure for " ++
              command.shown ++ ": " ++ f.text⟩ t)
        | some f, some reply =>
          (((reply c f.text).on t).1, calls ++ [.ran command c, .replied c f.text],
            ((reply c f.text).on t).2) := by
  have hran : (host.recorded.run command c).on (calls, s) =
      (((host.run command c).on s).1, calls ++ [.ran command c],
        ((host.run command c).on s).2) := rfl
  rw [run, Act.on_bind, Act.on_attempt, hran]
  rcases (host.run command c).on s with ⟨e | r, t⟩
  · simp only [Host.recorded]
    cases e.parameterFault? with
    | none => rfl
    | some f =>
      cases host.reply with
      | none => rfl
      | some reply => simp [on_put]
  · rfl

end Handler

end ChatCommands
