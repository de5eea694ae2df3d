import ChatCommands.Proofs.Handler.Phases
import ChatCommands.Proofs.Handler.Recorded

/-!
# What a message leads to

A message that is handled runs one command, which its restrictions allow, or is told to listeners as
one event, or has no effect.

Main statement: `handleContext_effects`.
-/

namespace ChatCommands

namespace Handler

variable {σ : Type} [Journal σ] {host : Host σ} {h : Handler} {c d : Context Command}
  {command : Command} {s t : σ} {calls : List Call}

/-! ### The parts of handling -/

/-- Handles a context up to its resolution. -/
def begin (host : Host σ) (h : Handler) (c : Context Command) :
    Act σ (Outcome × Context Command) := do
  trace ("Handle message for " ++ c.shown)
  h.resolve host c

/-- Whether the restrictions of a command allow a context. -/
def permits (host : Host σ) (h : Handler) (command : Command) (c : Context Command) : Act σ Bool :=
  command.chain.allows h.restrictions fun r => host.ask r c

/-- Does what the restrictions of a command have decided. -/
def settle (host : Host σ) (h : Handler) (command : Command) (c : Context Command)
    (allowed : Bool) : Act σ (Outcome × Context Command) :=
  if allowed then do
    let _ ← h.execute host command c
    return (.execute, c)
  else do
    trace ("Command " ++ command.shown ++ " was not allowed by restrictions")
    h.notify host (.notAllowed c)
    return (.notAllowed, c)

/-- Does what the outcome of resolution asks for. -/
def conclude (host : Host σ) (h : Handler) (o : Outcome) (c : Context Command) :
    Act σ (Outcome × Context Command) :=
  match o, c.command with
  | .execute, some command => h.permits host command c >>= h.settle host command c
  | .notFound, _ => do
    h.notify host (notFoundEvent c)
    return (o, c)
  | _, _ => return (o, c)

lemma handleContext_eq : h.handleContext host c =
    h.begin host c >>= fun (o, d) => h.conclude host o d := by
  simp only [handleContext, begin, bind_assoc]
  refine bind_congr fun _ => bind_congr fun (o, d) => ?_
  cases o <;> cases hcommand : d.command <;> simp only [conclude, hcommand]
  refine bind_congr fun allowed => ?_
  cases allowed <;> rfl

lemma begin_recorded : h.begin host.recorded c = Act.beside (h.begin host c) := by
  simp [begin, resolve_recorded]

/-- Resolution ends with a command, and the chain of the command answers. -/
def Decides (host : Host σ) (h : Handler) (c : Context Command) (s : σ) (command : Command)
    (d : Context Command) (answer : Except Error Bool) (t : σ) : Prop :=
  d.command = some command ∧ ∃ u, (h.begin host c).on s = (.ok (.execute, d), u) ∧
    (h.permits host command d).on u = (answer, t)

/-- The listeners that are registered for the class of an event or for all events. -/
def hearers (h : Handler) (e : Event) : List Listener :=
  h.listeners.filter fun l => l.cls = .any || l.cls = e.cls

/-- A command is run once on a context that its restrictions have allowed, and nothing else is
called but the restrictions before and the reply after it. -/
def RunsOnce (host : Host σ) (h : Handler) (c : Context Command) (s : σ) (command : Command)
    (d : Context Command) (calls : List Call) : Prop :=
  ∃ u asked replies, Decides host h c s command d (.ok true) u ∧
    calls = asked ++ .ran command d :: replies ∧
    (∀ call ∈ asked, call.IsQuestion d) ∧ ∀ call ∈ replies, call.IsReply d

/-- The calls of a handler that handles a context. -/
structure Effects (host : Host σ) (h : Handler) (c : Context Command) (s : σ)
    (calls : List Call) : Prop where
  /-- The calls are those that are made, and keeping the list changes nothing else. -/
  recorded : (h.handleContext host.recorded c).on ([], s) =
    (((h.handleContext host c).on s).1, calls, ((h.handleContext host c).on s).2)
  /-- Whatever becomes of a run, the command was allowed, and is run once. -/
  authorised : ∀ command d, .ran command d ∈ calls → RunsOnce host h c s command d calls
  /-- The command of the final context is run. -/
  execute : ∀ d t, (h.handleContext host c).on s = (.ok (.execute, d), t) →
    ∃ command, RunsOnce host h c s command d calls
  /-- Without permission no command is run, and the listeners hear of it once. -/
  notAllowed : ∀ d t, (h.handleContext host c).on s = (.ok (.notAllowed, d), t) →
    ∃ command u asked, Decides host h c s command d (.ok false) u ∧
      calls = asked ++ (h.hearers (.notAllowed d)).map (.notified · (.notAllowed d)) ∧
      ∀ call ∈ asked, call.IsQuestion d
  /-- Without a command the listeners hear of it once. -/
  notFound : ∀ d t, (h.handleContext host c).on s = (.ok (.notFound, d), t) →
    calls = (h.hearers (notFoundEvent d)).map (.notified · (notFoundEvent d))
  ignored : ∀ d t, (h.handleContext host c).on s = (.ok (.ignored, d), t) → calls = []
  /-- If the restrictions fail to answer, nothing follows. -/
  undecided : ∀ command d e u, Decides host h c s command d (.error e) u →
    (h.handleContext host c).on s = (.error e, u) ∧ ∀ call ∈ calls, call.IsQuestion d
  /-- A failure to parse parameters is replied once; handling ends as the reply does. -/
  replied : ∀ command d u e f reply t, Decides host h c s command d (.ok true) u →
    command.isAsynchronous = false → (host.run command d).on u = (.error e, t) →
    e.parameterFault? = some f → host.reply = some reply →
    (h.handleContext host c).on s = (((reply d f.text).on t).1.map fun _ => (.execute, d),
      ((reply d f.text).on t).2) ∧
    ∃ asked, (∀ call ∈ asked, call.IsQuestion d) ∧
      calls = asked ++ [.ran command d, .replied d f.text]
  /-- Without a way to reply, the failure is noted. -/
  unreported : ∀ command d u e f t, Decides host h c s command d (.ok true) u →
    command.isAsynchronous = false → (host.run command d).on u = (.error e, t) →
    e.parameterFault? = some f → host.reply = none →
    (h.handleContext host c).on s = (.ok (.execute, d),
      Journal.note ⟨.pipeline, .warning, "Unreported parameter parse failure for " ++
        command.shown ++ ": " ++ f.text⟩ t) ∧
    ∃ asked, (∀ call ∈ asked, call.IsQuestion d) ∧ calls = asked ++ [.ran command d]
  /-- Every other error of a command is that of handling. -/
  failed : ∀ command d u e t, Decides host h c s command d (.ok true) u →
    command.isAsynchronous = false → (host.run command d).on u = (.error e, t) →
    e.parameterFault? = none →
    (h.handleContext host c).on s = (.error e, t) ∧
    ∃ asked, (∀ call ∈ asked, call.IsQuestion d) ∧ calls = asked ++ [.ran command d]

/-! ### What is done, and what is put on the list -/

omit [Journal σ] in
lemma notify_eq (e : Event) : h.notify host e = (h.hearers e).forM fun l => host.notify l e := rfl

/-- Handling goes on with what the restrictions have decided. -/
lemma Decides.handleContext {answer : Except Error Bool}
    (hd : Decides host h c s command d answer t) :
    (h.handleContext host c).on s = (Act.ofExcept answer >>= h.settle host command d).on t ∧
    ∃ asked, (∀ call ∈ asked, call.IsQuestion d) ∧
      (h.handleContext host.recorded c).on ([], s) =
        (Act.ofExcept answer >>= h.settle host.recorded command d).on (asked, t) := by
  obtain ⟨hcommand, u, hbegin, hpermits⟩ := hd
  constructor
  · rw [handleContext_eq, Act.on_bind, hbegin]
    simp only [conclude, hcommand, Act.on_bind, hpermits]
    cases answer <;> rfl
  · obtain ⟨asked, hasked, hrecorded⟩ :=
      adds_allows host d h.restrictions command.chain [] u
    refine ⟨asked, hasked, ?_⟩
    have hpermits' : (h.permits host.recorded command d).on ([], u) = (answer, asked, t) := by
      rw [permits] at hpermits
      rw [permits, hrecorded, hpermits, List.nil_append]
    rw [handleContext_eq, Act.on_bind, begin_recorded, Act.on_beside, hbegin]
    simp only [conclude, hcommand, Act.on_bind, hpermits']
    cases answer <;> rfl

lemma handleContext_of_begin_recorded {o : Outcome}
    (hbegin : (h.begin host c).on s = (.ok (o, d), t)) :
    (h.handleContext host.recorded c).on (calls, s) =
      (h.conclude host.recorded o d).on (calls, t) := by
  rw [handleContext_eq, Act.on_bind, begin_recorded, Act.on_beside, hbegin]

lemma on_settle_true : (h.settle host command d true).on s =
    (((h.execute host command d).on s).1.map fun _ => (.execute, d),
      ((h.execute host command d).on s).2) := by
  change (h.execute host command d >>= fun _ => pure (Outcome.execute, d)).on s = _
  rw [Act.on_bind]
  rcases (h.execute host command d).on s with ⟨_ | _, _⟩ <;> rfl

lemma on_settle_of_sync (hsync : command.isAsynchronous = false) :
    (h.settle host command d true).on s =
      (((run host command d).on s).1.map fun _ => (.execute, d),
        ((run host command d).on s).2) := by
  have hexecute : h.execute host command d = do return .finished (← run host command d) := by
    rw [execute, hsync]
    rfl
  rw [on_settle_true, hexecute, Act.on_bind]
  rcases (run host command d).on s with ⟨_ | _, _⟩ <;> rfl

/-- What leads to a result of handling. -/
lemma handleContext_cases {o : Outcome} (hrun : (h.handleContext host c).on s = (.ok (o, d), t)) :
    (∃ command u, o = .execute ∧ Decides host h c s command d (.ok true) u) ∨
    (∃ command u, o = .notAllowed ∧ Decides host h c s command d (.ok false) u) ∨
    (o = .notFound ∧ ∃ u, (h.begin host c).on s = (.ok (.notFound, d), u)) ∨
    (o = .ignored ∧ ∃ u, (h.begin host c).on s = (.ok (.ignored, d), u)) := by
  rw [handleContext_eq] at hrun
  obtain ⟨⟨o', d'⟩, u, hbegin, hrun⟩ := Act.on_bind_eq_ok.mp hrun
  obtain ⟨_, _, -, hresolve⟩ := Act.on_bind_eq_ok.mp hbegin
  have hfinal := final_of_resolve hresolve
  cases o' with
  | execute =>
    obtain ⟨command, hcommand⟩ := Option.isSome_iff_exists.mp hfinal
    simp only [conclude, hcommand] at hrun
    obtain ⟨allowed, v, hpermits, hrun⟩ := Act.on_bind_eq_ok.mp hrun
    cases allowed with
    | true =>
      obtain ⟨_, _, -, hrun⟩ := Act.on_bind_eq_ok.mp hrun
      cases hrun
      exact Or.inl ⟨command, v, rfl, hcommand, u, hbegin, hpermits⟩
    | false =>
      obtain ⟨_, _, -, hrun⟩ := Act.on_bind_eq_ok.mp hrun
      obtain ⟨_, _, -, hrun⟩ := Act.on_bind_eq_ok.mp hrun
      cases hrun
      exact Or.inr (Or.inl ⟨command, v, rfl, hcommand, u, hbegin, hpermits⟩)
  | notFound =>
    obtain ⟨_, _, -, hrun⟩ := Act.on_bind_eq_ok.mp hrun
    cases hrun
    exact Or.inr (Or.inr (Or.inl ⟨rfl, u, hbegin⟩))
  | ignored =>
    cases hrun
    exact Or.inr (Or.inr (Or.inr ⟨rfl, _, hbegin⟩))
  | notAllowed => cases hfinal

omit [Journal σ] in
lemma ran_notMem_of_questions {asked : List Call} (hasked : ∀ call ∈ asked, call.IsQuestion c) :
    .ran command d ∉ asked := by
  intro hran
  obtain ⟨r, hr⟩ := hasked _ hran
  cases hr

/-- A run is put on the list once, and with it only replies. -/
lemma calls_of_run (host : Host σ) (command : Command) (d : Context Command) (asked : List Call)
    (s : σ) :
    ∃ replies, (∀ call ∈ replies, call.IsReply d) ∧
      ((run host.recorded command d).on (asked, s)).2.1 = asked ++ .ran command d :: replies := by
  rw [on_run_recorded]
  rcases (host.run command d).on s with ⟨e | r, t⟩
  · simp only
    cases e.parameterFault? with
    | none => exact ⟨[], by simp, rfl⟩
    | some f =>
      cases host.reply with
      | none => exact ⟨[], by simp, rfl⟩
      | some reply => exact ⟨[.replied d f.text], by simp [Call.IsReply], rfl⟩
  · exact ⟨[], by simp, rfl⟩

/-- A command that is run beside the handler is put on the list as any other, unless the handler has
no place to run it. -/
lemma calls_of_execute (asked : List Call) (s : σ) :
    (∃ replies, (∀ call ∈ replies, call.IsReply d) ∧
      ((h.execute host.recorded command d).on (asked, s)).2.1 =
        asked ++ .ran command d :: replies) ∨
    (((h.execute host.recorded command d).on (asked, s)).2.1 = asked ∧
      ∃ e, ((h.execute host.recorded command d).on (asked, s)).1 = .error e) := by
  obtain ⟨replies, hreplies, hcalls⟩ := calls_of_run host command d asked s
  rw [execute]
  split
  · rw [runBeside]
    split
    · exact Or.inr ⟨rfl, _, rfl⟩
    · refine Or.inl ⟨replies, hreplies, ?_⟩
      rw [← hcalls, Act.on_bind, Act.on_attempt]
      generalize (run host.recorded command d).on (asked, s) = ended
      obtain ⟨_ | r, calls', u⟩ := ended <;> rfl
  · refine Or.inl ⟨replies, hreplies, ?_⟩
    rw [← hcalls, Act.on_bind]
    generalize (run host.recorded command d).on (asked, s) = ended
    obtain ⟨_ | r, calls', u⟩ := ended <;> rfl

/-! ### The list changes nothing -/

section
variable {P : Call → Prop}

omit [Journal σ] in
lemma adds_notify (e : Event) (hnotified : ∀ l, P (.notified l e)) :
    Adds P (h.notify host e) (h.notify host.recorded e) := by
  rw [notify_eq, notify_eq]
  induction h.hearers e with
  | nil => exact Adds.beside (pure ())
  | cons l listeners ih =>
    rw [List.forM_eq_forM, List.forM_eq_forM, List.forM_cons, List.forM_cons]
    exact (Adds.put (hnotified l) _).bind fun _ => ih

/-- Where no command is run, only listeners are called. -/
lemma adds_conclude {o : Outcome} (hnotified : ∀ l e, P (.notified l e))
    (hnone : o = .execute → d.command = none) :
    Adds P (h.conclude host o d) (h.conclude host.recorded o d) := by
  cases o with
  | execute =>
    simp only [conclude, hnone rfl]
    exact Adds.beside (pure _)
  | notFound => exact (adds_notify _ (hnotified · _)).bind fun _ => Adds.beside (pure _)
  | _ => exact Adds.beside (pure _)

lemma adds_denied (hnotified : ∀ l e, P (.notified l e)) :
    Adds P (h.settle host command d false) (h.settle host.recorded command d false) := by
  refine (Adds.beside (trace _)).bind fun _ => ?_
  exact (adds_notify _ (hnotified · _)).bind fun _ => Adds.beside (pure _)

end

lemma adds_run : Adds (fun _ => True) (run host command d) (run host.recorded command d) := by
  refine (Adds.put trivial (host.run command d)).attempt.bind fun result => ?_
  cases result with
  | ok r => exact Adds.beside (pure r)
  | error e =>
    simp only [Host.recorded]
    cases e.parameterFault? with
    | none => exact Adds.beside (Act.fail e)
    | some f =>
      cases host.reply with
      | none => exact Adds.beside _
      | some reply => exact Adds.put trivial (reply d f.text)

lemma adds_execute :
    Adds (fun _ => True) (h.execute host command d) (h.execute host.recorded command d) := by
  rw [execute, execute]
  split
  · rw [runBeside, runBeside]
    split
    · exact Adds.beside (Act.fail _)
    · refine adds_run.attempt.bind fun outcome => ?_
      cases outcome with
      | ok r => exact Adds.beside (pure _)
      | error e => exact Adds.beside _
  · exact adds_run.bind fun r => Adds.beside (pure _)

lemma adds_handleContext (host : Host σ) (h : Handler) (c : Context Command) :
    Adds (fun _ => True) (h.handleContext host c) (h.handleContext host.recorded c) := by
  rw [handleContext_eq, handleContext_eq, begin_recorded]
  refine (Adds.beside _).bind fun (o, d) => ?_
  by_cases hnone : o = .execute → d.command = none
  · exact adds_conclude (fun _ _ => trivial) hnone
  · obtain ⟨rfl, hsome⟩ := Classical.not_imp.mp hnone
    obtain ⟨command, hcommand⟩ := Option.ne_none_iff_exists'.mp hsome
    simp only [conclude, hcommand]
    refine ((adds_allows host d h.restrictions command.chain).mono fun _ _ => trivial).bind
      fun allowed => ?_
    cases allowed with
    | true => exact adds_execute.bind fun _ => Adds.beside (pure _)
    | false => exact adds_denied fun _ _ => trivial

/-! ### Effects -/

section
variable (hrecorded : (h.handleContext host.recorded c).on ([], s) =
  (((h.handleContext host c).on s).1, calls, ((h.handleContext host c).on s).2))
include hrecorded

/-- Where the restrictions do not allow it, no command is run. -/
lemma effects_of_denied {answer : Except Error Bool} {command' : Command} {d' : Context Command}
    (hd : Decides host h c s command' d' answer t) (hanswer : answer ≠ .ok true) :
    .ran command d ∉ calls := by
  obtain ⟨-, asked, hasked, hd'⟩ := hd.handleContext
  rw [hrecorded] at hd'
  match answer with
  | .error e =>
    obtain rfl : calls = asked := congrArg (·.2.1) hd'
    exact ran_notMem_of_questions hasked
  | .ok true => exact absurd rfl hanswer
  | .ok false =>
    have hadds : Adds (· ≠ .ran command d) (h.settle host command' d' false)
        (h.settle host.recorded command' d' false) := adds_denied fun _ _ => nofun
    obtain ⟨more, hmore, hdenied⟩ := hadds asked t
    have hcalls : calls = ((h.settle host.recorded command' d' false).on (asked, t)).2.1 :=
      congrArg (·.2.1) hd'
    rw [hcalls, hdenied]
    intro hran
    rcases List.mem_append.mp hran with hran | hran
    · exact ran_notMem_of_questions hasked hran
    · exact hmore _ hran rfl

/-- Where the restrictions allow it, the command is run, unless the handler has no place for it. -/
lemma effects_of_allowed (hd : Decides host h c s command d (.ok true) t) :
    ∃ asked, (∀ call ∈ asked, call.IsQuestion d) ∧
      ((∃ replies, calls = asked ++ .ran command d :: replies ∧ ∀ call ∈ replies, call.IsReply d) ∨
        (calls = asked ∧ ∃ e, ((h.handleContext host c).on s).1 = .error e)) := by
  obtain ⟨-, asked, hasked, hd'⟩ := hd.handleContext
  rw [hrecorded] at hd'
  change _ = (h.settle host.recorded command d true).on (asked, t) at hd'
  rw [on_settle_true] at hd'
  refine ⟨asked, hasked, ?_⟩
  have hresult := congrArg Prod.fst hd'
  have hcalls := congrArg (·.2.1) hd'
  rcases calls_of_execute (h := h) asked t with ⟨replies, hreplies, hexecute⟩ | ⟨hexecute, e, he⟩
  · rw [hexecute] at hcalls
    exact Or.inl ⟨replies, hcalls, hreplies⟩
  · rw [hexecute] at hcalls
    rw [he] at hresult
    exact Or.inr ⟨hcalls, e, hresult⟩

lemma effects_authorised (hran : .ran command d ∈ calls) :
    RunsOnce host h c s command d calls := by
  rcases hbegin : (h.begin host c).on s with ⟨e | ⟨o, d'⟩, u⟩
  · -- resolution makes no call
    rw [handleContext_eq, Act.on_bind, begin_recorded, Act.on_beside, hbegin] at hrecorded
    obtain rfl : [] = calls := congrArg (·.2.1) hrecorded
    cases hran
  by_cases hnone : o = .execute → d'.command = none
  · have hadds : Adds (· ≠ .ran command d) (h.conclude host o d') (h.conclude host.recorded o d') :=
      adds_conclude (fun _ _ => nofun) hnone
    obtain ⟨more, hmore, hconclude⟩ := hadds [] u
    rw [handleContext_of_begin_recorded hbegin, hconclude] at hrecorded
    obtain rfl : more = calls := congrArg (·.2.1) hrecorded
    exact absurd rfl (hmore _ hran)
  obtain ⟨rfl, hsome⟩ := Classical.not_imp.mp hnone
  obtain ⟨command', hcommand⟩ := Option.ne_none_iff_exists'.mp hsome
  rcases hpermits : (h.permits host command' d').on u with ⟨answer, v⟩
  have hd : Decides host h c s command' d' answer v := ⟨hcommand, u, hbegin, hpermits⟩
  by_cases hanswer : answer = .ok true
  · subst hanswer
    obtain ⟨asked, hasked, ⟨replies, rfl, hreplies⟩ | ⟨rfl, -⟩⟩ := effects_of_allowed hrecorded hd
    · rcases List.mem_append.mp hran with hran | hran
      · exact absurd hran (ran_notMem_of_questions hasked)
      rcases List.mem_cons.mp hran with heq | hran
      · cases heq
        exact ⟨v, asked, replies, hd, rfl, hasked, hreplies⟩
      · obtain ⟨text, htext⟩ := hreplies _ hran
        cases htext
    · exact absurd hran (ran_notMem_of_questions hasked)
  · exact absurd hran (effects_of_denied hrecorded hd hanswer)

lemma effects_execute (hrun : (h.handleContext host c).on s = (.ok (.execute, d), t)) :
    ∃ command, RunsOnce host h c s command d calls := by
  rcases handleContext_cases hrun with ⟨command, u, -, hd⟩ | ⟨_, _, ho, -⟩ | ⟨ho, -⟩ | ⟨ho, -⟩
  case inl =>
    obtain ⟨asked, hasked, ⟨replies, hcalls, hreplies⟩ | ⟨-, e, he⟩⟩ :=
      effects_of_allowed hrecorded hd
    · exact ⟨command, u, asked, replies, hd, hcalls, hasked, hreplies⟩
    · rw [hrun] at he
      cases he
  all_goals cases ho

lemma effects_notAllowed (hrun : (h.handleContext host c).on s = (.ok (.notAllowed, d), t)) :
    ∃ command u asked, Decides host h c s command d (.ok false) u ∧
      calls = asked ++ (h.hearers (.notAllowed d)).map (.notified · (.notAllowed d)) ∧
      ∀ call ∈ asked, call.IsQuestion d := by
  rw [hrun] at hrecorded
  rcases handleContext_cases hrun with ⟨_, _, ho, -⟩ | ⟨command, u, -, hd⟩ | ⟨ho, -⟩ | ⟨ho, -⟩
  case inr.inl =>
    obtain ⟨-, asked, hasked, hd'⟩ := hd.handleContext
    rw [hrecorded] at hd'
    obtain ⟨_, ⟨_, _⟩, hallowed, hsettle⟩ := Act.on_bind_eq_ok.mp hd'.symm
    cases hallowed
    obtain ⟨_, ⟨_, _⟩, htrace, hsettle⟩ := Act.on_bind_eq_ok.mp hsettle
    cases htrace
    obtain ⟨_, ⟨_, _⟩, hnotify, hreturn⟩ := Act.on_bind_eq_ok.mp hsettle
    cases hreturn
    exact ⟨command, u, asked, hd, on_forM_notify_recorded hnotify, hasked⟩
  all_goals cases ho

lemma effects_notFound (hrun : (h.handleContext host c).on s = (.ok (.notFound, d), t)) :
    calls = (h.hearers (notFoundEvent d)).map (.notified · (notFoundEvent d)) := by
  rw [hrun] at hrecorded
  rcases handleContext_cases hrun with ⟨_, _, ho, -⟩ | ⟨_, _, ho, -⟩ | ⟨-, u, hbegin⟩ | ⟨ho, -⟩
  case inr.inr.inl =>
    rw [handleContext_of_begin_recorded hbegin] at hrecorded
    obtain ⟨_, ⟨_, _⟩, hnotify, hreturn⟩ := Act.on_bind_eq_ok.mp hrecorded
    cases hreturn
    exact on_forM_notify_recorded hnotify
  all_goals cases ho

lemma effects_ignored (hrun : (h.handleContext host c).on s = (.ok (.ignored, d), t)) :
    calls = [] := by
  rw [hrun] at hrecorded
  rcases handleContext_cases hrun with ⟨_, _, ho, -⟩ | ⟨_, _, ho, -⟩ | ⟨ho, -⟩ | ⟨-, u, hbegin⟩
  case inr.inr.inr =>
    rw [handleContext_of_begin_recorded hbegin] at hrecorded
    cases hrecorded
    rfl
  all_goals cases ho

lemma effects_undecided {e : Error} (hd : Decides host h c s command d (.error e) t) :
    (h.handleContext host c).on s = (.error e, t) ∧ ∀ call ∈ calls, call.IsQuestion d := by
  obtain ⟨hrun, asked, hasked, hd'⟩ := hd.handleContext
  rw [hrecorded] at hd'
  obtain rfl : calls = asked := congrArg (·.2.1) hd'
  exact ⟨hrun, hasked⟩

/-- A command that is run within the handler ends the handling as its run does. -/
lemma effects_of_run {r : Except Error Result} {more : List Call} {u : σ}
    (hd : Decides host h c s command d (.ok true) t) (hsync : command.isAsynchronous = false)
    (hrun : ∀ asked, (run host.recorded command d).on (asked, t) = (r, asked ++ more, u)) :
    (h.handleContext host c).on s = (r.map fun _ => (.execute, d), u) ∧
    ∃ asked, (∀ call ∈ asked, call.IsQuestion d) ∧ calls = asked ++ more := by
  obtain ⟨-, asked, hasked, hd'⟩ := hd.handleContext
  have hsettle := hrecorded.symm.trans (hd'.trans (on_settle_of_sync hsync))
  rw [hrun asked] at hsettle
  simp only [Prod.mk.injEq] at hsettle
  obtain ⟨hresult, hcalls, hstate⟩ := hsettle
  exact ⟨Prod.ext hresult hstate, asked, hasked, hcalls⟩

end

/-- A message leads to the run of one command that is allowed, or to one event, or to nothing, and a
failure of the command is replied at most once. -/
theorem handleContext_effects (host : Host σ) (h : Handler) (c : Context Command) (s : σ) :
    ∃ calls, Effects host h c s calls := by
  obtain ⟨calls, -, hrecorded⟩ := adds_handleContext host h c [] s
  rw [List.nil_append] at hrecorded
  refine ⟨calls, hrecorded, fun command d => effects_authorised hrecorded,
    fun d t => effects_execute hrecorded, fun d t => effects_notAllowed hrecorded,
    fun d t => effects_notFound hrecorded, fun d t => effects_ignored hrecorded,
    fun command d e u => effects_undecided hrecorded, ?_, ?_, ?_⟩
  · intro command d u e f reply t hd hsync hrun hfault hreply
    refine effects_of_run hrecorded hd hsync fun asked => ?_
    simp only [on_run_recorded, hrun, hfault, hreply]
  · intro command d u e f t hd hsync hrun hfault hreply
    refine effects_of_run (r := .ok (.value .null)) hrecorded hd hsync fun asked => ?_
    simp only [on_run_recorded, hrun, hfault, hreply]
  · intro command d u e t hd hsync hrun hfault
    refine effects_of_run (r := .error e) hrecorded hd hsync fun asked => ?_
    simp only [on_run_recorded, hrun, hfault]

end Handler

end ChatCommands
