import ChatCommands.Proofs.Handler.Fresh

/-!
# Resumed resolution

Without interceptors, what resolution computes is decided by the context and by the prefix for its
message. So a context that comes out of resolution comes out of it again, and a context that already
carries a part of what would be computed comes to the same end without the phases before.

Main statements: `target_idempotent`, `resolve_within_target`, `resolve_resumed`.
-/

namespace ChatCommands

variable {σ α β : Type}

/-! ### Results on all states -/

/-- From every state the act ends with a result of a kind. -/
def Act.Within (a : Act σ α) (R : Except Error α → Prop) : Prop := ∀ s, R (a.on s).1

namespace Act

variable {a : Act σ α} {f : α → Act σ β} {R : Except Error β → Prop} {x : α}

lemma Within.bind {Q : Except Error α → Prop} (ha : a.Within Q)
    (herror : ∀ e, Q (.error e) → R (.error e)) (hok : ∀ x, Q (.ok x) → (f x).Within R) :
    (a >>= f).Within R := by
  intro s
  have hs := ha s
  rw [on_bind]
  rcases hrun : a.on s with ⟨e | x, t⟩ <;> rw [hrun] at hs
  · exact herror e hs
  · exact hok x hs t

lemma within_pure {y : β} (h : R (.ok y)) : (pure y : Act σ β).Within R := fun _ => h

lemma Gives.within {y : β} {b : Act σ β} (hb : b.Gives y) (h : R (.ok y)) : b.Within R := by
  intro s
  obtain ⟨t, ht⟩ := hb s
  rw [ht]
  exact h

lemma Gives.within_bind (ha : a.Gives x) (hf : (f x).Within R) : (a >>= f).Within R := by
  refine Within.bind (Q := (· = .ok x)) (ha.within rfl) (fun e he => nomatch he) fun y hy => ?_
  rw [Except.ok.inj hy]
  exact hf

end Act

namespace Handler

/-! ### Where resolution ends -/

/-- A context carries nothing but its message. -/
def Bare (c : Context Command) : Prop :=
  c.commandPrefix = none ∧ c.commandAlias = none ∧ c.command = none

instance : DecidablePred Bare := fun _ => inferInstanceAs (Decidable (_ ∧ _))

/-- The context with the prefix for its message, if it carries nothing yet. -/
def supplied (v : Except Error Value) (c : Context Command) : Except Error (Context Command) :=
  if Bare c then v.bind c.withPrefix else .ok c

/-- Where resolution ends for a context that has got its prefix. -/
def target (h : Handler) (c : Context Command) : Outcome × Context Command :=
  if c.command.isSome then (.execute, c)
  else if c.commandAlias.isSome then h.lookUp c
  else
    match c.commandPrefix with
    | none => (.notFound, c)
    | some w => if (afterPrefix? w c.content).isNone then (.ignored, c) else h.search c

section Target

variable {h : Handler} {c d : Context Command} {v : Except Error Value} {o : Outcome} {w : String}

lemma target_of_command (hcommand : c.command.isSome) : h.target c = (.execute, c) := by
  rw [target, if_pos hcommand]

lemma target_of_alias (hcommand : c.command = none) (halias : c.commandAlias.isSome) :
    h.target c = h.lookUp c := by
  rw [target, if_neg (by simp [hcommand]), if_pos halias]

lemma target_of_commandPrefix (hcommand : c.command = none) (halias : c.commandAlias = none)
    (hpre : c.commandPrefix = some w) :
    h.target c = if (afterPrefix? w c.content).isNone then (.ignored, c) else h.search c := by
  rw [target, if_neg (by simp [hcommand]), if_neg (by simp [halias])]
  simp only [hpre]

lemma target_of_bare (hbare : Bare c) : h.target c = (.notFound, c) := by
  obtain ⟨hpre, halias, hcommand⟩ := hbare
  simp [target, hpre, halias, hcommand]

/-- Looking up once more finds the same. -/
lemma target_lookUp (hcommand : c.command = none) (halias : c.commandAlias.isSome) :
    h.target (h.lookUp c).2 = h.lookUp c := by
  cases hfound : c.commandAlias.bind h.registry.get? with
  | none =>
    -- nothing is filled in, so the look-up starts from the same context
    have hsame : h.findCommand c = c := by
      rw [findCommand, hcommand, hfound]
      show c.withCommand none = c
      rw [← hcommand]
      rfl
    rw [lookUp, hsame, target_of_alias hcommand halias, lookUp, hsame]
  | some command =>
    have hsome : (h.findCommand c).command = some command := by
      simp [findCommand, hcommand, hfound, Context.withCommand]
    rw [lookUp, target_of_command (by simp [hsome])]
    simp [hsome]

/-- Where resolution has ended, it ends again. -/
lemma target_idempotent (h : Handler) (c : Context Command) :
    h.target (h.target c).2 = h.target c := by
  by_cases hcommand : c.command.isSome
  · rw [target_of_command hcommand]
    exact target_of_command hcommand
  have hcommand : c.command = none := by simpa using hcommand
  by_cases halias : c.commandAlias.isSome
  · rw [target_of_alias hcommand halias]
    exact target_lookUp hcommand halias
  have halias : c.commandAlias = none := by simpa using halias
  cases hpre : c.commandPrefix with
  | none =>
    rw [target_of_bare ⟨hpre, halias, hcommand⟩]
    exact target_of_bare ⟨hpre, halias, hcommand⟩
  | some w =>
    have htarget := target_of_commandPrefix (h := h) hcommand halias hpre
    by_cases hstarts : (afterPrefix? w c.content).isNone
    · rw [if_pos hstarts] at htarget
      rw [htarget]
      exact htarget
    rw [if_neg hstarts] at htarget
    by_cases hfound : (h.findAlias c).commandAlias.isSome
    · rw [htarget, search, if_pos hfound]
      exact target_lookUp (by simpa using hcommand) hfound
    · -- the message has no alias, and the context is left as it is
      have hsame : h.findAlias c = c := by
        rw [findAlias, if_neg (by simp [halias])] at hfound ⊢
        split <;> simp_all
      have hsearch : h.search c = (.notFound, c) := by
        rw [search, hsame, if_neg (by simp [halias])]
      rw [htarget, hsearch]
      exact htarget.trans hsearch

/-- Resolution takes no prefix away. -/
lemma commandPrefix_target (h : Handler) (c : Context Command) :
    (h.target c).2.commandPrefix = c.commandPrefix := by
  have hcommand : ∀ d : Context Command, (h.findCommand d).commandPrefix = d.commandPrefix := by
    intro d
    rw [findCommand]
    split <;> rfl
  have halias : (h.findAlias c).commandPrefix = c.commandPrefix := by
    rw [findAlias]
    split
    · rfl
    · split <;> rfl
  rw [target]
  split
  · rfl
  split
  · exact hcommand c
  split
  · rfl
  split
  · rfl
  · rw [search]
    split
    · exact (hcommand _).trans halias
    · exact halias

lemma target_of_bare_target (hbare : Bare (h.target c).2) : h.target c = (.notFound, c) := by
  have hpre : c.commandPrefix = none := (commandPrefix_target h c).symm.trans hbare.1
  by_cases hcommand : c.command.isSome
  · rw [target_of_command hcommand] at hbare
    exact absurd hbare.2.2 (Option.isSome_iff_ne_none.mp hcommand)
  have hcommand : c.command = none := by simpa using hcommand
  by_cases halias : c.commandAlias.isSome
  · rw [target_of_alias hcommand halias] at hbare
    have hkeeps : (h.lookUp c).2.commandAlias = c.commandAlias := by
      rw [lookUp, findCommand]
      split <;> rfl
    simp [← hkeeps, hbare.2.1] at halias
  · exact target_of_bare ⟨hpre, by simpa using halias, hcommand⟩

lemma exists_of_bind_withPrefix (hd : v.bind c.withPrefix = .ok d) :
    ∃ w, d = { c with commandPrefix := w } := by
  cases v with
  | error e => cases hd
  | ok x =>
    rw [Except.bind, Context.withPrefix] at hd
    cases hread : Context.readText .commandPrefix x with
    | error e =>
      rw [hread] at hd
      cases hd
    | ok w =>
      rw [hread] at hd
      cases hd
      exact ⟨w, rfl⟩

/-- A context that still carries nothing has not been changed. -/
lemma eq_of_supplied (hd : supplied v c = .ok d) (hbare : Bare d) : d = c := by
  rw [supplied] at hd
  split at hd
  case isTrue hc =>
    obtain ⟨w, rfl⟩ := exists_of_bind_withPrefix hd
    obtain rfl : w = none := hbare.1
    rw [← hc.1]
  case isFalse => exact (Except.ok.inj hd).symm

end Target

/-! ### Runs -/

section Run

variable [Journal σ] {host : Host σ} {h : Handler} {c d : Context Command} {s t : σ} {p : Phase}
  {v : Except Error Value} {w : String} {n : Nat} {r : Outcome × Context Command}

/-- What a context comes to. Only a context that has neither an alias nor a command and gets an
empty prefix may come to an error instead, if the warning of the empty prefix ends with one. -/
def Ends (host : Host σ) (h : Handler) (c : Context Command) (r : Outcome × Context Command)
    (result : Except Error (Outcome × Context Command)) : Prop :=
  result = .ok r ∨
    (c.commandAlias = none ∧ c.command = none ∧ r.2.commandPrefix = some "") ∧
      ∃ s e, ((issue host h emptyPrefixWarning).on s).1 = .error e ∧ result = .error e

omit [Journal σ] in
/-- Where the warning does not fail, nothing but the outcome is left. -/
lemma Ends.eq_ok {result : Except Error (Outcome × Context Command)}
    (hends : Ends host h c r result)
    (hwarned : ∀ s, ((issue host h emptyPrefixWarning).on s).1 = .ok ()) : result = .ok r := by
  rcases hends with hok | ⟨-, s, e, hwarn, -⟩
  · exact hok
  · cases (hwarned s).symm.trans hwarn

omit [Journal σ] in
lemma warnOfEmpty_within (host : Host σ) (h : Handler) (w : String) :
    (h.warnOfEmpty host w).Within fun r => r = .ok () ∨
      w = "" ∧ ∃ s e, ((issue host h emptyPrefixWarning).on s).1 = .error e ∧ r = .error e := by
  rw [warnOfEmpty]
  split
  case isTrue hw =>
    intro s
    cases hrun : ((issue host h emptyPrefixWarning).on s).1 with
    | ok u => exact Or.inl rfl
    | error e => exact Or.inr ⟨hw, s, e, hrun, rfl⟩
  case isFalse => exact Act.within_pure (Or.inl rfl)

/-- Without an interceptor, a phase computes something and decides where that goes on. -/
lemma follow_eq (hnone : h.interceptors.get? p = none) {later : n < p.number} :
    follow host h (.phase p later : Next n) c =
      enter host h p c >>= fun d => leave host h p d >>= fun x => follow host h x.2 x.1 := by
  rw [follow, step_eq, bind_assoc]
  refine bind_congr fun d => ?_
  rw [intercept, hnone, pure_bind]

/-- The run that resolution follows decides its result. -/
lemma resolve_within {R : Except Error (Outcome × Context Command) → Prop}
    (hfollow : (follow host h (c.forward .beforePrefix Phase.lt_beforePrefix) c).Within R) :
    (h.resolve host c).Within R := by
  rw [resolve]
  refine hfollow.bind (fun _ he => he) fun r hr => ?_
  exact Act.Gives.within_bind (trace_gives _) (Act.within_pure hr)

variable (hnone : ∀ p, h.interceptors.get? p = none)
include hnone

/-- With a prefix and nothing else, a run ends at the target, if it is not kept by the warning. -/
lemma follow_beforeAlias_within {later : n < Phase.beforeAlias.number}
    (hpre : c.commandPrefix = some w) (halias : c.commandAlias = none)
    (hcommand : c.command = none) :
    (follow host h (.phase .beforeAlias later : Next n) c).Within (Ends host h c (h.target c)) := by
  have hkeeps : (h.target c).2.commandPrefix = some w := by rw [commandPrefix_target, hpre]
  have hnominal : c.forward .afterAlias Phase.beforeAlias_lt = .phase .afterAlias _ :=
    Context.forward_eq_phase _ hcommand (fun _ => halias) fun hlt => absurd hlt (by decide)
  rw [follow_eq (hnone _), enter]
  refine Act.Gives.within_bind ((trace_gives _).bind (Act.Gives.pure c)) ?_
  rw [leave, hnominal, if_neg (by simp [Next.isPhase])]
  simp only [hpre, bind_assoc]
  refine (warnOfEmpty_within host h w).bind (fun e he => ?_) fun _ _ => ?_
  · obtain ⟨rfl, s, e', hrun, heq⟩ := he.resolve_left (by simp)
    exact Or.inr ⟨⟨halias, hcommand, hkeeps⟩, s, e', hrun, by rw [Except.error.inj heq]⟩
  · rw [target_of_commandPrefix hcommand halias hpre]
    split
    · refine Act.Gives.within ?_ (Or.inl rfl)
      refine Act.Gives.bind (x := (c, .finish .ignored))
        ((trace_gives _).bind (Act.Gives.pure _)) ?_
      rw [follow]
      exact Act.Gives.pure _
    · rw [pure_bind]
      exact (follow_afterAlias_gives hnone hcommand).within (Or.inl rfl)

/-- With nothing but a message, a run first gets the prefix. -/
lemma follow_bare_within {later : n < Phase.beforePrefix.number} (hbare : Bare c)
    (hv : (h.prefixFor host c.message).Within (· = v)) :
    (follow host h (.phase .beforePrefix later : Next n) c).Within fun result =>
      match v.bind c.withPrefix with
      | .ok d => Ends host h c (h.target d) result
      | .error e => result = .error e := by
  obtain ⟨hpre, halias, hcommand⟩ := hbare
  have hnominal : c.forward .afterPrefix Phase.beforePrefix_lt = .phase .afterPrefix _ :=
    Context.forward_eq_phase _ hcommand (fun _ => halias) fun _ => hpre
  rw [follow_eq (hnone _), enter]
  refine Act.Gives.within_bind ((trace_gives _).bind (Act.Gives.pure c)) ?_
  rw [leave, hnominal, pure_bind, follow_eq (hnone _), enter, if_pos (by simp [hpre])]
  have henter : (do Act.ofExcept (c.withPrefix (← h.prefixFor host c.message)) :
      Act σ (Context Command)).Within (· = v.bind c.withPrefix) := by
    refine hv.bind (fun e he => ?_) fun x hx s => ?_
    · rw [← he]
      rfl
    · rw [← hx]
      rfl
  refine henter.bind (fun e he => ?_) fun d hd => ?_
  · rw [← he]
  · rw [← hd]
    obtain ⟨w, rfl⟩ := exists_of_bind_withPrefix hd.symm
    have hstay : Context.forward { c with commandPrefix := w } .beforeAlias Phase.afterPrefix_lt =
        .phase .beforeAlias _ :=
      Context.forward_eq_phase _ hcommand (fun _ => halias) fun hlt => absurd hlt (by decide)
    cases w with
    | none =>
      have hbare : Bare { c with commandPrefix := none } := ⟨rfl, halias, hcommand⟩
      refine (lacks_gives hstay rfl).within_bind ?_
      rw [follow]
      exact Act.within_pure (Or.inl (by rw [target_of_bare hbare]))
    | some w =>
      refine (stays_gives hstay rfl).within_bind ?_
      exact follow_beforeAlias_within hnone rfl halias hcommand

/-- Resolution of a context with an alias or a command issues no warning. -/
lemma resolve_gives_target (hset : c.commandAlias.isSome ∨ c.command.isSome) :
    (h.resolve host c).Within (· = .ok (h.target c)) := by
  refine resolve_within ?_
  rcases c.forward_cases .beforePrefix Phase.lt_beforePrefix with ⟨hcommand, hnext⟩ |
    ⟨hcommand, halias, _, hnext⟩ | ⟨hcommand, halias, -⟩ | ⟨hcommand, halias, -⟩
  · rw [hnext, follow, target_of_command hcommand]
    exact Act.within_pure rfl
  · rw [hnext, target_of_alias hcommand halias]
    exact (follow_beforeCommand_gives hnone halias hcommand).within rfl
  · simp [hcommand, halias] at hset
  · simp [hcommand, halias (by decide)] at hset

/-- Resolution ends at the target of the context with its prefix. -/
lemma resolve_within_target (hv : (h.prefixFor host c.message).Within (· = v)) :
    (h.resolve host c).Within fun result =>
      match supplied v c with
      | .ok d => Ends host h c (h.target d) result
      | .error e => result = .error e := by
  by_cases hbare : Bare c
  · refine resolve_within ?_
    obtain ⟨hpre, halias, hcommand⟩ := id hbare
    have hstart : c.forward .beforePrefix Phase.lt_beforePrefix = .phase .beforePrefix _ :=
      Context.forward_eq_phase _ hcommand (fun _ => halias) fun _ => hpre
    rw [hstart, supplied, if_pos hbare]
    exact follow_bare_within hnone hbare hv
  rw [supplied, if_neg hbare]
  by_cases hset : c.commandAlias.isSome ∨ c.command.isSome
  · exact fun s => Or.inl (resolve_gives_target hnone hset s)
  · have halias : c.commandAlias = none := by
      by_contra hne
      exact hset (Or.inl (Option.isSome_iff_ne_none.mpr hne))
    have hcommand : c.command = none := by
      by_contra hne
      exact hset (Or.inr (Option.isSome_iff_ne_none.mpr hne))
    cases hpre : c.commandPrefix with
    | none => exact absurd ⟨hpre, halias, hcommand⟩ hbare
    | some w =>
      refine resolve_within ?_
      rcases c.forward_cases .beforePrefix Phase.lt_beforePrefix with ⟨hsome, -⟩ | ⟨-, hsome, -⟩ |
        ⟨-, -, -, _, hnext⟩ | ⟨-, -, hno, -⟩
      · simp [hcommand] at hsome
      · simp [halias] at hsome
      · rw [hnext]
        exact follow_beforeAlias_within hnone hpre halias hcommand
      · exact absurd (hno (by decide)) (by simp [hpre])

lemma resolve_ends (hv : (h.prefixFor host c.message).Within (· = v)) (hd : supplied v c = .ok d) :
    (h.resolve host c).Within (Ends host h c (h.target d)) := by
  have hresolve := resolve_within_target hnone hv
  rwa [hd] at hresolve

/-- What comes out of resolution comes out of it again. -/
lemma resolve_target (hprovider : ∀ message s t,
      ((h.prefixFor host message).on s).1 = ((h.prefixFor host message).on t).1)
    (hv : (h.prefixFor host c.message).Within (· = v)) (hd : supplied v c = .ok d) :
    (h.resolve host (h.target d).2).Within (Ends host h (h.target d).2 (h.target d)) := by
  by_cases hbare : Bare (h.target d).2
  · have hsame : (h.target d).2 = d := by rw [target_of_bare_target hbare]
    rw [hsame] at hbare ⊢
    obtain rfl := eq_of_supplied hd hbare
    exact resolve_ends hnone hv hd
  · intro s
    have hsupplied : ∀ v, supplied v (h.target d).2 = .ok (h.target d).2 := by
      intro v
      rw [supplied, if_neg hbare]
    have hresolve := resolve_ends hnone (fun u => hprovider (h.target d).2.message u s)
      (hsupplied _) s
    rwa [target_idempotent] at hresolve

end Run

/-- Without interceptors and with a prefix that only depends on the message, the context that comes
out of resolution comes out of it again, with the same outcome. A context that carries nothing comes
to the same end with the prefix for its message, and where the matcher finds an alias in what
follows, also with the alias and the parameter text, and with what the alias is looked up to. If
that is a command, the command is to be run. -/
theorem resolve_resumed [Journal σ] (host : Host σ) (h : Handler) (c : Context Command)
    (hnone : ∀ p, h.interceptors.get? p = none)
    (hprovider : ∀ message s t,
      ((h.prefixFor host message).on s).1 = ((h.prefixFor host message).on t).1) :
    (∀ s o d t, (h.resolve host c).on s = (.ok (o, d), t) →
      (h.resolve host d).Within (Ends host h d (o, d))) ∧
    (Bare c → ∀ s w, ((h.prefixFor host c.message).on s).1 = .ok (.text w) →
      ∃ r, (h.resolve host c).Within (Ends host h c r) ∧
        (let given : Context Command := { c with commandPrefix := some w }
        (h.resolve host given).Within (Ends host h given r)) ∧
        ∀ rest word parameters, c.content = w ++ rest →
          h.registry.match? rest = some (word, parameters) →
            let named : Context Command := { c with
              commandPrefix := some w, commandAlias := some word
              parameterString := some parameters }
            (h.resolve host named).Within (· = .ok r) ∧
              (h.resolve host { named with command := h.registry.get? word }).Within (· = .ok r) ∧
              r = (if (h.registry.get? word).isSome then .execute else .notFound,
                { named with command := h.registry.get? word })) := by
  refine ⟨fun s o d t hrun => ?_, fun hbare s w hw => ?_⟩
  · have hresult := resolve_within_target hnone (fun u => hprovider c.message u s) s
    rw [hrun] at hresult
    split at hresult
    case h_1 e he =>
      rcases hresult with hok | ⟨-, _, _, -, herror⟩
      · have hagain := resolve_target hnone hprovider (fun u => hprovider c.message u s) he
        rwa [← Except.ok.inj hok] at hagain
      · cases herror
    case h_2 => cases hresult
  · have hv : (h.prefixFor host c.message).Within (· = .ok (.text w)) :=
      fun u => (hprovider c.message u s).trans hw
    have hsupplied : supplied (.ok (.text w)) c = .ok { c with commandPrefix := some w } := by
      rw [supplied, if_pos hbare]
      rfl
    refine ⟨h.target { c with commandPrefix := some w }, resolve_ends hnone hv hsupplied, ?_, ?_⟩
    · refine resolve_ends hnone hv ?_
      rw [supplied, if_neg (by simp [Bare])]
    · intro rest word parameters hcontent hmatch named
      obtain ⟨-, halias, hcommand⟩ := hbare
      have hrest : withoutPrefix { c with commandPrefix := some w } = rest :=
        withoutPrefix_of_append rfl hcontent
      have hnamed : h.target named = h.lookUp named := target_of_alias (c := named) hcommand rfl
      have hend : h.target { c with commandPrefix := some w } = h.target named := by
        rw [target_of_commandPrefix (c := { c with commandPrefix := some w }) hcommand halias rfl,
          if_neg (by simp [hcontent, afterPrefix?_append]), hnamed]
        exact search_of_match halias (by rwa [hrest])
      have hfound : h.lookUp named = (if (h.registry.get? word).isSome then .execute else .notFound,
          { named with command := h.registry.get? word }) :=
        lookUp_of_alias (c := named) hcommand rfl
      have hagain : h.target { named with command := h.registry.get? word } = h.target named := by
        rw [← target_idempotent h named, hnamed, hfound]
      rw [hend]
      refine ⟨resolve_gives_target hnone (Or.inl rfl), ?_, hnamed.trans hfound⟩
      rw [← hagain]
      exact resolve_gives_target hnone (Or.inl rfl)

/-- A message for the handler of one command. -/
def pinged : Context Command := { message := .null, content := " ping  3 " }

theorem resolve_resumed_ping :
    let given : Context Command := { pinged with commandPrefix := some "" }
    let named : Context Command := { given with
      commandAlias := some "ping", parameterString := some "3" }
    let found : Context Command := { named with command := some ping }
    ∀ c ∈ [pinged, given, named, found],
      ((pingHandler.resolve Demo.host c).on .start).1 = .ok (.execute, found) := by
  intro given named found
  have hprovider : ∀ message s t, ((pingHandler.prefixFor Demo.host message).on s).1 =
      ((pingHandler.prefixFor Demo.host message).on t).1 := fun _ _ _ => rfl
  have hwarned : ∀ s, ((issue Demo.host pingHandler emptyPrefixWarning).on s).1 = .ok () :=
    fun _ => rfl
  obtain ⟨hagain, hfresh⟩ :=
    resolve_resumed Demo.host pingHandler pinged (fun _ => rfl) hprovider
  obtain ⟨r, hpinged, hgiven, hmatched⟩ := hfresh ⟨rfl, rfl, rfl⟩ .start "" rfl
  have hmatch : pingHandler.registry.match? " ping  3 " = some ("ping", "3") := by decide +kernel
  obtain ⟨hnamed, -, rfl⟩ := hmatched " ping  3 " "ping" "3" (by decide) hmatch
  have hstart := (hpinged .start).eq_ok hwarned
  have hfound := (hagain .start _ _ _ (Prod.ext hstart rfl) .start).eq_ok hwarned
  simp only [List.forall_mem_cons]
  exact ⟨hstart, (hgiven .start).eq_ok hwarned, hnamed .start, hfound, by simp⟩

end Handler

end ChatCommands
