import ChatCommands.Proofs.Registry.LongestAlias

/-!
# Aliases that can be run

An alias that passes its check is not made of blanks only, but there may be blanks at its ends. A
text loses the blanks at its ends before an alias is looked for. So an alias that starts with a
blank is found in no text, and one that ends with a blank is found only in front of parameters. All
commands that are made from callbacks and classes have an alias that has passed the check.

Main statements: `Command.aliases_ne_nil_of_ofCallback`, `CommandClass.aliases_ne_nil_of_define`,
`InStep.match?_self_iff`, `InStep.exists_match?_iff`, `match?_checked_iff`.
-/

namespace ChatCommands

open Text

/-! ### Texts that start with a character -/

namespace Text

variable {cs ds : List Char}

/-- A text does not start with a blank. -/
def StartsSolid (cs : List Char) : Prop := ∀ c, cs.head? = some c → isBlank c = false

instance (cs : List Char) : Decidable (StartsSolid cs) :=
  decidable_of_iff (cs.head?.all isSolid = true) all_isSolid_iff

lemma StartsSolid.trimStart_eq (h : StartsSolid cs) : trimStart cs = cs := by
  cases cs with
  | nil => rfl
  | cons c cs => simp [trimStart, h c rfl]

lemma length_trim_le (cs : List Char) : (trim cs).length ≤ cs.length := by
  obtain ⟨gap, hgap, -⟩ := exists_blanks_trimEnd (trimStart cs)
  have hlength := congrArg List.length hgap
  have hstart : (trimStart cs).length ≤ cs.length := List.length_dropWhile_le isBlank cs
  rw [List.length_append] at hlength
  rw [trim]
  omega

/-- A text with a trimmed one behind a space is trimmed if it does not start with a blank. -/
lemma StartsSolid.trimmed_append (h : StartsSolid cs) (hne : cs ≠ []) (hds : Trimmed ds)
    (hdsne : ds ≠ []) : Trimmed (cs ++ ' ' :: ds) := by
  obtain ⟨c, cs, rfl⟩ := List.exists_cons_of_ne_nil hne
  obtain ⟨d, ds, rfl⟩ := List.exists_cons_of_ne_nil hdsne
  refine ⟨fun e he => h e he, fun e he => hds.last e ?_⟩
  rwa [List.getLast?_append_cons, List.getLast?_cons_cons] at he

end Text

/-! ### The check of aliases -/

namespace Alias

variable {owner word : String} {words : List String} {v : Value} {vs : List Value}

lemma isValid_of_valid? (h : valid? vs = some words) : ∀ word ∈ words, isValid word := by
  fun_induction valid? vs generalizing words with
  | case1 =>
    obtain rfl := Option.some.inj h
    exact List.forall_mem_nil _
  | case2 s vs hs ih =>
    obtain ⟨rest, hrest, rfl⟩ := Option.map_eq_some_iff.mp h
    exact List.forall_mem_cons.mpr ⟨hs, ih hrest⟩
  | case3 => cases h
  | case4 => cases h

/-- Aliases are read from values that are all checked. -/
lemma exists_valid?_of_read (h : read owner v = .ok words) :
    ∃ given, valid? (distinct given) = some words := by
  cases v with
  | text _ | list _ | map _ =>
    simp only [read, bind, Except.bind, pure, Except.pure] at h
    split at h
    case isTrue => cases h
    split at h
    case h_1 hvalid =>
      cases h
      exact ⟨_, hvalid⟩
    case h_2 => cases h
  | _ => cases h

/-- All aliases that are given to a command have passed the check. -/
lemma isValid_of_read (h : read owner v = .ok words) (hword : word ∈ words) : isValid word := by
  obtain ⟨given, hgiven⟩ := exists_valid?_of_read h
  exact isValid_of_valid? hgiven word hword

lemma ne_nil_of_isValid (h : isValid word) : word.toList ≠ [] := by
  intro hnil
  rw [isValid, hnil] at h
  cases h

/-- What passes the check is at least one alias. -/
lemma ne_nil_of_read (h : read owner v = .ok words) : words ≠ [] := by
  cases v with
  | text _ | list _ | map _ =>
    simp only [read, bind, Except.bind, pure, Except.pure] at h
    split at h
    case isTrue => cases h
    split at h
    case h_1 =>
      cases h
      exact List.cons_ne_nil _ _
    case h_2 => cases h
  | _ => cases h

end Alias

/-! ### Commands have aliases -/

section Made

variable {σ : Type} [Journal σ] {s t : σ}

lemma Command.ne_nil_of_callbackAliases {callback : Callback} {given : Option Value}
    {words : List String} (h : callbackAliases callback given = .ok words) : words ≠ [] := by
  unfold callbackAliases at h
  split at h
  case h_1 => exact Alias.ne_nil_of_read h
  case h_2 => exact Alias.ne_nil_of_read h
  case h_3 => cases h

/-- A command that is made from a callback has an alias. -/
theorem Command.aliases_ne_nil_of_ofCallback {id : Nat} {callback : Option Callback} {o : Options}
    {c : Command} (h : (ofCallback id callback o).on s = (.ok c, t)) : c.aliases ≠ [] := by
  cases callback with
  | none => cases h
  | some callback =>
    simp only [ofCallback, Act.on_bind_eq_ok, Act.on_ofExcept, Act.on_pure, Prod.mk.injEq,
      Except.ok.injEq] at h
    obtain ⟨aliases, _, ⟨haliases, -⟩, _, _, -, _, _, -, rfl, -⟩ := h
    exact ne_nil_of_callbackAliases haliases

/-- So does a class of commands. -/
theorem CommandClass.aliases_ne_nil_of_define {base c : CommandClass} {name : String}
    {a : Attributes} (h : (define base name a).on s = (.ok c, t)) : c.aliases ≠ [] := by
  obtain ⟨aliases, _, haliases, h⟩ := Act.on_bind_eq_ok.mp h
  obtain ⟨usage, _, -, h⟩ := Act.on_bind_eq_ok.mp h
  obtain ⟨chain, _, -, h⟩ := Act.on_bind_eq_ok.mp h
  cases h
  have hgiven := congrArg Prod.fst haliases
  dsimp only [Act.on_ofExcept] at hgiven
  split at hgiven
  case h_1 => exact Alias.ne_nil_of_read hgiven
  case h_2 =>
    cases hgiven
    exact List.cons_ne_nil _ _

/-- And so do the instances of the class, unless its constructor takes the aliases away. -/
theorem CommandClass.aliases_ne_nil_of_instantiate {class_ : CommandClass} {id : Nat} {c : Command}
    (haliases : class_.aliases ≠ [])
    (hinit : ∀ i made, i.aliases ≠ [] → class_.init i = .ok made → made.aliases ≠ [])
    (h : class_.instantiate id = .ok c) : c.aliases ≠ [] := by
  rw [instantiate] at h
  split at h
  case h_1 => cases h
  case h_2 =>
    simp only [Bind.bind, Except.bind] at h
    split at h
    case h_1 => cases h
    case h_2 made hmade =>
      cases h
      exact hinit _ made haliases hmade

end Made

/-! ### Texts that start with an alias -/

variable {σ : Type} [Journal σ] {word other s : String} {cs rest : List Char}

lemma Leads.length_le (h : Leads word cs rest) : word.length ≤ cs.length := by
  rw [h.eq_append, List.length_append, String.length_toList]
  exact Nat.le_add_right _ _

lemma Leads.startsSolid (h : Leads word cs rest) (hcs : Trimmed cs) : StartsSolid word.toList := by
  intro c hc
  apply hcs.head
  rw [h.eq_append, List.head?_append, hc, Option.some_or]

lemma toList_behind (word s : String) :
    (word ++ " " ++ s).toList = word.toList ++ ' ' :: s.toList := by
  rw [String.toList_append, String.toList_append, List.append_assoc]
  rfl

lemma exists_length_le (words : List String) : ∃ n, ∀ word ∈ words, word.length ≤ n := by
  induction words with
  | nil => exact ⟨0, List.forall_mem_nil _⟩
  | cons word words ih =>
    obtain ⟨n, hn⟩ := ih
    refine ⟨max word.length n, List.forall_mem_cons.mpr ⟨Nat.le_max_left _ _, fun w hw => ?_⟩⟩
    exact Nat.le_trans (hn w hw) (Nat.le_max_right _ _)

/-- In front of a word that is at least as long as another alias, there is no room for that alias to
end. -/
lemma not_leads_of_isWord (hs : IsWord s.toList) (hlong : other.length ≤ s.length)
    (hlonger : word.length < other.length) :
    ¬ Leads other (word.toList ++ ' ' :: s.toList) rest := by
  rintro ⟨heq, hblank⟩
  rw [← String.length_toList, ← String.length_toList] at hlong hlonger
  rcases List.append_eq_append_iff.mp heq with ⟨tail, hother, htail⟩ | ⟨tail, hword, -⟩
  case inr =>
    rw [hword, List.length_append] at hlonger
    omega
  cases tail with
  | nil => simp [hother] at hlonger
  | cons c tail =>
    have htail : s.toList = tail ++ rest := (List.cons.inj htail).2
    cases rest with
    | nil =>
      rw [hother, htail, List.append_nil, List.length_append, List.length_cons] at hlong
      omega
    | cons d rest =>
      have hd : isSolid d := hs.2 d (htail ▸ List.mem_append_right _ List.mem_cons_self)
      rw [isSolid_eq_true, hblank d rfl] at hd
      cases hd

namespace Registry

variable {r : Registry}

/-- Commands with aliases give a registry an alias. -/
lemma aliases_after_ne_nil {converters : Option Converters} {cls : MessageClass} {s₀ : σ}
    {calls : List Call}
    (h : ∀ c ∈ accepted (start converters cls, s₀) calls, c.aliases ≠ [])
    (hne : accepted (start converters cls, s₀) calls ≠ []) :
    (after (start converters cls, s₀) calls).1.aliases ≠ [] := by
  obtain ⟨c, hc⟩ := List.exists_mem_of_ne_nil _ hne
  obtain ⟨word, hword⟩ := List.exists_mem_of_ne_nil _ (h c hc)
  exact List.ne_nil_of_mem ((mem_aliases_after_iff converters cls s₀ calls).mpr ⟨c, hc, hword⟩)

namespace InStep

variable {commands : List Command} (h : r.InStep commands) (hmem : word ∈ r.aliases)
include h hmem

/-- In a registry with an alias, what is found is the longest one. -/
lemma match?_iff {text found parameters : String} : r.match? text = some (found, parameters) ↔
    ∃ rest, r.IsLongest found (trim text.toList) rest ∧
      parameters = String.ofList (trimStart rest) :=
  h.match?_eq_some_iff fun _ => List.ne_nil_of_mem hmem

/-- An alias is found in itself just if it has no blanks at its ends. -/
lemma match?_self_iff : r.match? word = some (word, "") ↔ Trimmed word.toList := by
  rw [h.match?_iff hmem]
  constructor
  · rintro ⟨rest, hlongest, -⟩
    have heq := hlongest.leads.eq_append
    have hrest : rest = [] := by
      have hlength := length_trim_le word.toList
      rw [heq, List.length_append] at hlength
      exact List.length_eq_zero_iff.mp (by omega)
    rw [hrest, List.append_nil] at heq
    exact heq ▸ trimmed_trim word.toList
  · intro htrimmed
    refine ⟨[], ⟨hmem, ⟨?_, nofun⟩, ?_⟩, rfl⟩
    · rw [htrimmed.trim_eq, List.append_nil]
    · intro other _ rest hleads
      rw [htrimmed.trim_eq] at hleads
      exact hleads.length_le

/-- An alias is found in front of parameters just if it does not start with a blank. -/
lemma match?_parameters_iff (hne : word.toList ≠ []) (hs : Trimmed s.toList) (hsne : s ≠ "")
    (hlonger : ∀ other ∈ r.aliases, word.length < other.length → ∀ rest,
      ¬ Leads other (trim (word ++ " " ++ s).toList) rest) :
    r.match? (word ++ " " ++ s) = some (word, s) ↔ StartsSolid word.toList := by
  rw [h.match?_iff hmem]
  constructor
  · rintro ⟨rest, hlongest, -⟩
    exact hlongest.leads.startsSolid (trimmed_trim _)
  · intro hsolid
    have hsnil : s.toList ≠ [] := mt String.toList_eq_nil_iff.mp hsne
    have htrim : trim (word ++ " " ++ s).toList = word.toList ++ ' ' :: s.toList := by
      rw [toList_behind, (hsolid.trimmed_append hne hs hsnil).trim_eq]
    refine ⟨' ' :: s.toList, ⟨hmem, ⟨htrim, head_space⟩, ?_⟩, ?_⟩
    · intro other hother rest hleads
      exact Nat.le_of_not_lt fun hlt => hlonger other hother hlt rest hleads
    · have hstart : trimStart (' ' :: s.toList) = s.toList :=
        (trimStart_append isBlank_of_mem_space).trans (StartsSolid.trimStart_eq hs.head)
      rw [hstart, String.ofList_toList]

/-- An alias is found in some text just if it does not start with a blank. -/
lemma exists_match?_iff (hne : word.toList ≠ []) :
    (∃ text parameters, r.match? text = some (word, parameters)) ↔ StartsSolid word.toList := by
  constructor
  · rintro ⟨text, parameters, hmatch⟩
    obtain ⟨rest, hlongest, -⟩ := (h.match?_iff hmem).mp hmatch
    exact hlongest.leads.startsSolid (trimmed_trim _)
  · intro hsolid
    obtain ⟨n, hn⟩ := exists_length_le r.aliases
    have hs : IsWord (String.ofList (List.replicate (n + 1) 'x')).toList := by
      rw [String.toList_ofList]
      refine ⟨List.cons_ne_nil 'x' _, fun c hc => ?_⟩
      obtain rfl := List.eq_of_mem_replicate hc
      decide
    have hsne := mt String.toList_eq_nil_iff.mpr hs.1
    refine ⟨_, _, (h.match?_parameters_iff hmem hne hs.trimmed hsne ?_).mpr hsolid⟩
    intro other hother hlonger rest
    rw [toList_behind, (hsolid.trimmed_append hne hs.trimmed hs.1).trim_eq]
    refine not_leads_of_isWord hs ?_ hlonger
    simpa using Nat.le_succ_of_le (hn other hother)

end InStep

/-- An alias that has passed the check is found in itself just if it has no blanks at its ends, and
in front of parameters, where no longer alias is found, just if it does not start with a blank. An
alias that starts with a blank is found in no text, and every other one is found in some text. -/
theorem match?_checked_iff (converters : Option Converters) (cls : MessageClass) (s₀ : σ)
    (calls : List Call) {owner word : String} {v : Value} {words : List String}
    (hread : Alias.read owner v = .ok words) (hword : word ∈ words)
    (hmem : word ∈ (after (start converters cls, s₀) calls).1.aliases) :
    let r := (after (start converters cls, s₀) calls).1
    (r.match? word = some (word, "") ↔ Trimmed word.toList) ∧
    (∀ s : String, Trimmed s.toList → s ≠ "" →
      (∀ other ∈ r.aliases, word.length < other.length → ∀ rest,
        ¬ Leads other (trim (word ++ " " ++ s).toList) rest) →
      (r.match? (word ++ " " ++ s) = some (word, s) ↔ StartsSolid word.toList)) ∧
    ((∃ text parameters, r.match? text = some (word, parameters)) ↔ StartsSolid word.toList) := by
  intro r
  have hstep := inStep_after converters cls s₀ calls
  have hne : word.toList ≠ [] := Alias.ne_nil_of_isValid (Alias.isValid_of_read hread hword)
  exact ⟨hstep.match?_self_iff hmem,
    fun s hs hsne hlonger => hstep.match?_parameters_iff hmem hne hs hsne hlonger,
    hstep.exists_match?_iff hmem hne⟩

/-- A command whose alias is the start of the alias of another command. -/
def go : Command :=
  { coin with id := 2, callback := "go", label := "go", aliases := ["go"] }

/-- A command whose alias has a blank in it. -/
def goHome : Command :=
  { go with id := 3, callback := "goHome", label := "goHome", aliases := ["go home"] }

theorem match?_checked_go : Alias.read "go" (.text "go") = .ok ["go"] ∧
    let r := (after (start none .object, Demo.State.start) [.add (some go), .add (some goHome)]).1
    r.match? "go" = some ("go", "") ∧ r.match? "go away" = some ("go", "away") := by
  have hread : Alias.read "go" (.text "go") = .ok ["go"] := rfl
  refine ⟨hread, ?_⟩
  intro r
  have haliases : r.aliases = ["go", "go home"] := rfl
  have hmem : "go" ∈ r.aliases := by simp [haliases]
  obtain ⟨hself, hparameters, -⟩ := match?_checked_iff none .object Demo.State.start
    [.add (some go), .add (some goHome)] hread List.mem_cons_self hmem
  refine ⟨hself.mpr (by decide), (hparameters "away" (by decide) (by decide) ?_).mpr ?_⟩
  · intro other hother hlonger rest hleads
    rw [haliases] at hother
    rcases List.mem_pair.mp hother with rfl | rfl
    · exact absurd hlonger (Nat.lt_irrefl _)
    · have hnone : Matcher.after? "go home" (trim "go away".toList) = none := by decide
      have hsome := Matcher.after?_eq_some_iff.mpr hleads
      cases hnone.symm.trans hsome
  · decide

/-- A command whose alias starts with a blank. -/
def indented : Command :=
  { coin with id := 4, callback := "ping", label := "ping", aliases := [" ping"] }

/-- The alias passes the check and is registered, and no text runs the command, the alias itself not
either. -/
theorem match?_indented : Alias.read "ping" (.text " ping") = .ok [" ping"] ∧
    let r := (after (start none .object, Demo.State.start) [.add (some indented)]).1
    " ping" ∈ r.aliases ∧ r.match? " ping" = none ∧ ∀ text, r.match? text = none := by
  have hnone : ∀ text,
      (after (start none .object, Demo.State.start) [.add (some indented)]).1.match? text =
        none := by
    intro text
    have hstep := inStep_after none .object Demo.State.start [.add (some indented)]
    refine (hstep.match?_eq_none_iff fun _ => by decide).mpr fun word hword rest hleads => ?_
    obtain rfl : word = " ping" := List.mem_singleton.mp hword
    have hsolid := hleads.startsSolid (trimmed_trim _)
    exact absurd hsolid (by decide)
  exact ⟨rfl, List.mem_singleton_self _, hnone " ping", hnone⟩

end Registry

end ChatCommands
