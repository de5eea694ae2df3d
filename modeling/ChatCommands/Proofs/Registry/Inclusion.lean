import ChatCommands.Proofs.Plugin.Numbered

/-!
# Registering what is found in modules

All commands of the modules are found before the first one is registered, and then they are
registered one after another. So nothing changes if the search fails; but if one of the commands is
refused, those that were registered before it stay.

Main statements: `Registers.on_addMissing_append`, `exists_ends`, `Ends.on_addFound`,
`Tabulates.registers`, `discover_isWhole_iff`.
-/

namespace ChatCommands.Registry

variable {σ : Type} [Journal σ] {r r' : Registry} {c : Command} {cs before : List Command}
  {search outcome : Except Error (List Command)} {e : Error}

/-! ### Commands one after another -/

/-- Commands are registered one after another, but for those that a registry has by then. -/
inductive Registers : Registry → List Command → Registry → Prop
  | nil (r : Registry) : Registers r [] r
  | known {r r' : Registry} {c : Command} {cs : List Command} (hc : r.contains c = true)
      (h : Registers r cs r') : Registers r (c :: cs) r'
  | new {r r' : Registry} {c : Command} {cs : List Command} (hc : r.contains c = false)
      (haccepts : r.Accepts c) (h : Registers (r.extended c) cs r') : Registers r (c :: cs) r'

lemma on_addMissing_cons (c : Command) (cs : List Command) (r : Registry) (s : σ) :
    (addMissing (c :: cs)).on (r, s) =
      if r.contains c then (addMissing cs).on (r, s)
      else (add (some c) >>= fun _ => addMissing cs).on (r, s) := by
  rw [addMissing, Act.on_bind, Act.on_get]
  cases hc : r.contains c <;> simp [hc]

namespace Registers

/-- Once commands have been registered, the turn is on those behind them. -/
lemma on_addMissing_append (h : Registers r before r') (after : List Command) (s : σ) :
    ∃ t, Noted s t ∧
      (addMissing (before ++ after)).on (r, s) = (addMissing after).on (r', t) := by
  induction h generalizing s with
  | nil r => exact ⟨s, .refl s, rfl⟩
  | known hc h ih =>
    rw [List.cons_append, on_addMissing_cons, if_pos hc]
    exact ih s
  | new hc haccepts h ih =>
    obtain ⟨t, hnoted, hadd⟩ := haccepts.on_add s
    obtain ⟨u, hnoted', hrest⟩ := ih t
    rw [List.cons_append, on_addMissing_cons, if_neg (Bool.eq_false_iff.mp hc), Act.on_bind, hadd]
    exact ⟨u, hnoted.trans hnoted', hrest⟩

lemma on_addMissing (h : Registers r cs r') (s : σ) :
    ∃ t, Noted s t ∧ (addMissing cs).on (r, s) = (.ok (), r', t) := by
  obtain ⟨t, hnoted, hadd⟩ := h.on_addMissing_append [] s
  rw [List.append_nil] at hadd
  exact ⟨t, hnoted, hadd⟩

/-- The first command that is refused ends it all, and those before it stay. -/
lemma on_addMissing_refused (h : Registers r before r') (hc : r'.contains c = false)
    (hrefuses : r'.Refuses (some c) e) (after : List Command) (s : σ) :
    ∃ t, Noted s t ∧ (addMissing (before ++ c :: after)).on (r, s) = (.error e, r', t) := by
  obtain ⟨t, hnoted, hbefore⟩ := h.on_addMissing_append (c :: after) s
  obtain ⟨u, hnoted', hadd⟩ := hrefuses.on_add t
  refine ⟨u, hnoted.trans hnoted', ?_⟩
  rw [hbefore, on_addMissing_cons, if_neg (Bool.eq_false_iff.mp hc), Act.on_bind, hadd]

/-- Registering what is registered already changes nothing. -/
lemma eq_self (h : Registers r cs r') (hmatcher : r.matcher = .ofAliases r.aliases)
    (hold : ∀ c ∈ cs, ∀ word ∈ c.aliases, r.get? word = some c) : r' = r := by
  induction h with
  | nil r => rfl
  | known hc h ih => exact ih hmatcher fun d hd => hold d (List.mem_cons_of_mem _ hd)
  | @new r r' c cs hc haccepts h ih =>
    have hsame : r.commands.setAll c.aliases c = r.commands :=
      Table.setAll_eq_self (hold c List.mem_cons_self)
    have hself : r.extended c = r := by
      rw [Registry.extended, hsame, publish, ← aliases, ← hmatcher]
    rw [hself] at ih
    exact ih hmatcher fun d hd => hold d (List.mem_cons_of_mem _ hd)

end Registers

/-- Several commands are registered up to the first one that is refused, if there is one. -/
lemma exists_registers (r : Registry) (cs : List Command) : ∃ before after r',
    cs = before ++ after ∧ Registers r before r' ∧
      ∀ c ∈ after.head?, r'.contains c = false ∧ ∃ e, r'.Refuses (some c) e := by
  induction cs generalizing r with
  | nil => exact ⟨[], [], r, rfl, .nil r, nofun⟩
  | cons c cs ih =>
    cases hc : r.contains c with
    | true =>
      obtain ⟨before, after, r', rfl, h, hafter⟩ := ih r
      exact ⟨c :: before, after, r', rfl, .known hc h, hafter⟩
    | false =>
      rcases r.accepts_or_refuses (some c) with ⟨d, hd, haccepts⟩ | ⟨e, hrefuses⟩
      · obtain rfl := Option.some.inj hd
        obtain ⟨before, after, r', rfl, h, hafter⟩ := ih (r.extended c)
        exact ⟨c :: before, after, r', rfl, .new hc haccepts h, hafter⟩
      · refine ⟨[], c :: cs, r, rfl, .nil r, fun d hd => ?_⟩
        cases hd
        exact ⟨hc, e, hrefuses⟩

/-! ### Found commands -/

/-- How registering what a search finds ends, after which commands were registered, and with which
registry: the search fails, or one of the commands is refused, or all of them are registered. -/
inductive Ends (r : Registry) : Except Error (List Command) → List Command →
    Except Error (List Command) → Registry → Prop
  | notFound (e : Error) : Ends r (.error e) [] (.error e) r
  | refused {before : List Command} {c : Command} {r' : Registry} {e : Error}
      (hbefore : Registers r before r') (hc : r'.contains c = false)
      (hrefuses : r'.Refuses (some c) e) (after : List Command) :
      Ends r (.ok (before ++ c :: after)) before (.error e) r'
  | registered {found : List Command} {r' : Registry} (h : Registers r found r') :
      Ends r (.ok found) found (.ok found) r'

lemma exists_ends (r : Registry) (search : Except Error (List Command)) :
    ∃ done outcome r', Ends r search done outcome r' := by
  cases search with
  | error e => exact ⟨[], .error e, r, .notFound e⟩
  | ok found =>
    obtain ⟨before, after, r', rfl, h, hafter⟩ := r.exists_registers found
    cases after with
    | nil =>
      rw [List.append_nil]
      exact ⟨before, .ok before, r', .registered h⟩
    | cons c after =>
      obtain ⟨hc, e, hrefuses⟩ := hafter c rfl
      exact ⟨before, .error e, r', .refused h hc hrefuses after⟩

/-- What is returned is all or nothing: commands that are returned are found by all of their aliases
and the others as before, and with an error nothing has changed. -/
def IsWhole (r r' : Registry) : Except Error (List Command) → Prop
  | .ok found => (∀ c ∈ found, ∀ word ∈ c.aliases, r'.get? word = some c) ∧
      ∀ word c, r.get? word = some c → r'.get? word = some c
  | .error _ => r'.aliases = r.aliases ∧ (∀ word, r'.get? word = r.get? word) ∧
      r'.size = r.size ∧ ∀ text, r'.match? text = r.match? text

/-- With an error, nothing has changed just if nothing was registered that was new, and nothing at
all in a registry that was as at the start: there the first command, even if it has no aliases, puts
another matcher in the place of the one that finds nothing. -/
lemma Registers.isWhole_error_iff {commands done more : List Command} (h : Registers r done r')
    (hstep : r.InStep commands) (hstep' : r'.InStep more) (hmore : done ⊆ more)
    (hdone : ∀ c ∈ done, ∀ word ∈ c.aliases, r'.get? word = some c) :
    IsWhole r r' (.error e) ↔
      (commands = [] → done = []) ∧ ∀ c ∈ done, ∀ word ∈ c.aliases, r.get? word = some c := by
  constructor
  · rintro ⟨haliases, hsame, -, hmatch⟩
    refine ⟨fun hnil => ?_, fun c hc word hword => ?_⟩
    · by_contra hne
      obtain ⟨hempty, hnever⟩ := hstep.started hnil
      have hmore : more ≠ [] := fun hnil => hne (List.subset_nil.mp (hnil ▸ hmore))
      have hblank : r.match? "" = some ("", "") :=
        (hmatch "").symm.trans (hstep'.match?_of_aliases_eq_nil hmore (haliases.trans hempty) "")
      rw [match?, hnever] at hblank
      cases hblank
    · rw [← hsame]
      exact hdone c hc word hword
  · rintro ⟨hnone, hregistered⟩
    have heq : r' = r := by
      by_cases hnil : commands = []
      · rw [hnone hnil] at h
        cases h
        rfl
      · exact h.eq_self (hstep.published hnil) hregistered
    rw [heq]
    exact ⟨rfl, fun _ => rfl, rfl, fun _ => rfl⟩

namespace Ends

variable {done known : List Command} (h : Ends r search done outcome r')
include h

lemma registers : Registers r done r' := by
  cases h with
  | notFound => exact .nil r
  | refused hbefore => exact hbefore
  | registered h => exact h

/-- Only commands that were found are registered. -/
lemma subset_of_found (hfound : ∀ found, search = .ok found → found ⊆ known) : done ⊆ known := by
  cases h with
  | notFound => exact List.nil_subset _
  | refused => exact fun c hc => hfound _ rfl (List.mem_append_left _ hc)
  | registered => exact hfound _ rfl

/-- Registering what was found does to the host no more than to tell its journal. -/
lemma on_addFound {find : Act σ (List Command)} {s : σ} (hsearch : search = (find.on s).1)
    (source : Value) : ∃ t, Noted (find.on s).2 t ∧
      (addFound find source).on (r, s) = (outcome, r', t) := by
  rw [addFound, Act.on_bind, Act.on_beside, ← hsearch]
  cases h with
  | notFound => exact ⟨_, .refl _, rfl⟩
  | refused hbefore hc hrefuses after =>
    obtain ⟨t, hnoted, hadd⟩ := hbefore.on_addMissing_refused hc hrefuses after (find.on s).2
    dsimp only
    rw [Act.on_bind, hadd]
    exact ⟨t, hnoted, rfl⟩
  | registered h =>
    obtain ⟨t, hnoted, hadd⟩ := h.on_addMissing (find.on s).2
    dsimp only
    rw [Act.on_bind, hadd]
    exact ⟨_, hnoted.trans (.note _ t), rfl⟩

/-- It is all or nothing just if there is no error, or nothing was registered before it that was
new, and nothing at all in a registry that was as at the start. -/
lemma isWhole_iff {commands more : List Command} (hstep : r.InStep commands)
    (hstep' : r'.InStep more) (hmore : done ⊆ more)
    (hdone : ∀ c ∈ done, ∀ word ∈ c.aliases, r'.get? word = some c)
    (hold : ∀ word c, r.get? word = some c → r'.get? word = some c) :
    IsWhole r r' outcome ↔ ∀ e, outcome = .error e →
      (commands = [] → done = []) ∧ ∀ c ∈ done, ∀ word ∈ c.aliases, r.get? word = some c := by
  have herror := fun e => h.registers.isWhole_error_iff hstep hstep' hmore hdone (e := e)
  cases outcome with
  | ok found =>
    cases h
    refine ⟨fun _ _ herror => ?_, fun _ => ⟨hdone, hold⟩⟩
    cases herror
  | error e =>
    rw [herror]
    constructor
    · rintro hunchanged _ -
      exact hunchanged
    · exact fun hunchanged => hunchanged e rfl

end Ends

/-! ### The table afterwards -/

namespace Tabulates

variable {commands : List Command} (h : r.Tabulates commands)
include h

lemma get?_mono {more : List Command} (h' : r'.Tabulates more) (hsub : commands ⊆ more)
    {word : String} (hget : r.get? word = some c) : r'.get? word = some c := by
  obtain ⟨hc, hword⟩ := (h word c).mp hget
  exact (h' word c).mpr ⟨hsub hc, hword⟩

/-- A registry finds a command that it contains by all aliases of the command. -/
lemma mem_of_contains (hnodup : r.aliases.Nodup) (hsame : Distinguished (c :: commands))
    (hc : r.contains c = true) : c ∈ commands := by
  obtain ⟨d, hd, heq⟩ := List.any_eq_true.mp hc
  have hmem := ((h.mem_values_iff hnodup).mp hd).1
  exact hsame d (List.mem_cons_of_mem _ hmem) c List.mem_cons_self heq ▸ hmem

/-- After several commands were registered, the table has them and what it had. -/
lemma registers (hnodup : r.aliases.Nodup) (hstep : r.InStep commands)
    (hregisters : Registers r cs r') (hsame : Distinguished (commands ++ cs)) :
    ∃ added ⊆ cs, r'.aliases.Nodup ∧ r'.Tabulates (commands ++ added) ∧
      r'.InStep (commands ++ added) ∧ cs ⊆ commands ++ added := by
  induction hregisters generalizing commands with
  | nil r =>
    refine ⟨[], List.Subset.refl _, hnodup, ?_, ?_, List.nil_subset _⟩
    · simpa using h
    · simpa using hstep
  | @known r r' c cs hc hregisters ih =>
    have hmem : c ∈ commands := h.mem_of_contains hnodup (hsame.mono (by simp)) hc
    obtain ⟨added, hsub, hnodup', h', hstep', hadded⟩ := ih h hnodup hstep (hsame.mono (by simp))
    refine ⟨added, List.subset_cons_of_subset c hsub, hnodup', h', hstep', ?_⟩
    exact List.cons_subset.mpr ⟨List.mem_append_left _ hmem, hadded⟩
  | @new r r' c cs hc haccepts hregisters ih =>
    have hsame' : Distinguished (commands ++ [c] ++ cs) := by simpa using hsame
    obtain ⟨added, hsub, hnodup', h', hstep', hadded⟩ :=
      ih (h.extended (hsame'.mono (List.subset_append_left _ _)) haccepts)
        (Table.nodup_keys_setAll hnodup c.aliases c) (.extended r commands c) hsame'
    rw [List.append_assoc, List.singleton_append] at h' hstep' hadded
    refine ⟨c :: added, List.cons_subset_cons c hsub, hnodup', h', hstep', ?_⟩
    exact List.cons_subset.mpr ⟨by simp, hadded⟩

end Tabulates

/-- Registering the commands of modules ends in one of three ways, and whichever it is, the commands
that have been registered by then are found by all of their aliases, and what was found before still
is. So it is all or nothing just if it returns, or all that was registered before the error had been
there already, or nothing was registered before it. What was presupposed of the registry and the
modules holds again afterwards. -/
theorem discover_isWhole_iff [Glob.CharNames] {commands known : List Command}
    {w : Plugin.Workspace} {tree : List (Plugin.Module σ)} (hnodup : r.aliases.Nodup)
    (htable : r.Tabulates commands) (hstep : r.InStep commands) (hknown : commands ⊆ known)
    (hw : w.Knows known) (htree : Plugin.Makes tree known) (source : Value) (s : σ) :
    let search := ((Plugin.commands tree source).on (w, s)).1
    let outcome := ((discover tree source).on (r, w, s)).1
    let r' := ((discover tree source).on (r, w, s)).2.1
    let w' := ((discover tree source).on (r, w, s)).2.2.1
    ∃ done, Ends r search done outcome r' ∧
      (∀ c ∈ done, ∀ word ∈ c.aliases, r'.get? word = some c) ∧
      (∀ word c, r.get? word = some c → r'.get? word = some c) ∧
      (IsWhole r r' outcome ↔ ∀ e, outcome = .error e →
        (commands = [] → done = []) ∧ ∀ c ∈ done, ∀ word ∈ c.aliases, r.get? word = some c) ∧
      ∃ added known', added ⊆ done ∧ r'.aliases.Nodup ∧ r'.Tabulates (commands ++ added) ∧
        r'.InStep (commands ++ added) ∧ known ⊆ known' ∧ commands ++ added ⊆ known' ∧
        w'.Knows known' := by
  intro search
  obtain ⟨known', hsub, hw', hfound⟩ :=
    Plugin.keeps_commands htree source known w s (List.Subset.refl _) hw
  obtain ⟨done, outcome, r', hends⟩ := r.exists_ends search
  obtain ⟨t, hnoted, hdiscover⟩ := hends.on_addFound (s := (w, s)) rfl source
  rw [discover, hdiscover]
  rw [← hnoted.fst_eq] at hw'
  -- the search leaves all commands known, old and new ones, so that they are told apart
  have hcommands : commands ⊆ known' := List.Subset.trans hknown hsub
  have hdone : done ⊆ known' := hends.subset_of_found hfound
  obtain ⟨added, hadded, hnodup', htable', hstep', hmem⟩ :=
    htable.registers hnodup hstep hends.registers
      (hw'.distinguished.mono (List.append_subset.mpr ⟨hcommands, hdone⟩))
  have hget : ∀ c ∈ done, ∀ word ∈ c.aliases, r'.get? word = some c :=
    fun c hc word hword => (htable' word c).mpr ⟨hmem hc, hword⟩
  have hold : ∀ word c, r.get? word = some c → r'.get? word = some c :=
    fun word c => htable.get?_mono htable' (List.subset_append_left _ _)
  have hknown' := List.append_subset.mpr ⟨hcommands, List.Subset.trans hadded hdone⟩
  exact ⟨done, hends, hget, hold, hends.isWhole_iff hstep hstep' hmem hget hold,
    added, known', hadded, hnodup', htable', hstep', hsub, hknown', hw'⟩

/-- A registry with one command. -/
def withCoin : Registry := (start none .object).extended coin

/-- A command like the other one, with an alias of its own. -/
def likeCoin (word : String) (number : Nat) : Command :=
  { coin with id := number, label := word, aliases := [word] }

/-- A module with a command that is new and one that has an alias of the other command. -/
def games : Plugin.Module Demo.State where
  name := "games"
  isPackage := false
  failure := none
  body := [.define "draw" fun number => return .command (likeCoin "draw" number),
    .define "flip" fun number => return .command (likeCoin "flip" number)]

/-- The module after it was loaded. -/
def gamesLoaded : Plugin.Workspace where
  loaded := ⟨[("games", ⟨[("draw", .command (likeCoin "draw" 1)),
    ("flip", .command (likeCoin "flip" 2))]⟩)]⟩
  nextCommand := 3

lemma on_commands_games [Glob.CharNames] :
    (Plugin.commands [games] (.text "games")).on (⟨.empty, 1⟩, Demo.State.start) =
      (.ok [likeCoin "draw" 1, likeCoin "flip" 2], gamesLoaded, Demo.State.start) := by
  have hexpand : (Plugin.expand [games] (.text "games")).on (⟨.empty, 1⟩, Demo.State.start) =
      (.ok ["games"], ⟨.empty, 1⟩, Demo.State.start) := rfl
  have hload : (Plugin.load [games] "games").on (⟨.empty, 1⟩, Demo.State.start) =
      (.ok (), gamesLoaded, Demo.State.start) := rfl
  have hfound : (Plugin.commandsOf "games").on (gamesLoaded, Demo.State.start) =
      (.ok [likeCoin "draw" 1, likeCoin "flip" 2], gamesLoaded, Demo.State.start) := by
    rw [Plugin.commandsOf, Act.on_bind, Act.on_get]
    dsimp only
    rw [List.mergeSort_of_pairwise]
    · rfl
    · decide
  simp [Plugin.commands, hexpand, hload, hfound]

/-- What registering the commands of the module ends with, and what it leaves. -/
def included : Except Error (List Command) × Registry × Plugin.Workspace × Demo.State :=
  letI := Glob.CharNames.unknown
  (discover [games] (.text "games")).on (withCoin, ⟨.empty, 1⟩, Demo.State.start)

/-- The command that was registered before is still found. -/
theorem discover_isWhole_iff_games : withCoin.aliases.Nodup ∧ withCoin.Tabulates [coin] ∧
    withCoin.InStep [coin] ∧ (⟨.empty, 1⟩ : Plugin.Workspace).Knows [coin] ∧
    Plugin.Makes [games] [coin] ∧ included.2.1.get? "flip" = some coin := by
  let _ : Glob.CharNames := .unknown
  have hsame : Distinguished [coin] := by
    intro c hc d hd _
    rw [List.mem_singleton.mp hc, List.mem_singleton.mp hd]
  have hempty : (start none .object).Tabulates [] := by
    intro word c
    simp [start, get?]
  have haccepts : (start none .object).Accepts coin := by
    refine ⟨fun source husage => ?_, fun word _ other hother => ?_⟩
    · cases husage
    · cases hother
  have htable : withCoin.Tabulates [coin] := hempty.extended hsame haccepts
  have hstep : withCoin.InStep [coin] := .extended _ [] coin
  have hw : (⟨.empty, 1⟩ : Plugin.Workspace).Knows [coin] := by
    refine ⟨fun module names hget => ?_, by decide, hsame⟩
    cases hget
  have htree : Plugin.Makes [games] [coin] := by
    intro m hm name make hmake n s c hc
    obtain rfl := List.mem_singleton.mp hm
    rcases List.mem_pair.mp hmake with h | h <;> cases h <;> cases hc <;> exact Or.inl rfl
  have hnodup : withCoin.aliases.Nodup := by decide
  obtain ⟨-, -, -, hold, -⟩ := discover_isWhole_iff hnodup htable hstep (List.Subset.refl _) hw
    htree (.text "games") Demo.State.start
  exact ⟨hnodup, htable, hstep, hw, htree, hold "flip" coin rfl⟩

/-- The command that was found first stays registered when the second one is refused. -/
theorem discover_not_isWhole :
    included.1 = .error (duplicateAlias coin (likeCoin "flip" 2) "flip") ∧
      withCoin.aliases = ["coin", "flip"] ∧ included.2.1.aliases = ["coin", "flip", "draw"] ∧
      ¬IsWhole withCoin included.2.1 included.1 := by
  let _ : Glob.CharNames := .unknown
  have hdraw : withCoin.Accepts (likeCoin "draw" 1) := by
    refine ⟨nofun, fun word hword other hother => ?_⟩
    rw [List.mem_singleton.mp hword] at hother
    cases hother
  have hflip : (withCoin.extended (likeCoin "draw" 1)).Refuses (some (likeCoin "flip" 2))
      (duplicateAlias coin (likeCoin "flip" 2) "flip") :=
    .taken nofun (List.nil_append _).symm (List.forall_mem_nil _) rfl rfl
  have hsearch := congrArg Prod.fst on_commands_games
  obtain ⟨t, -, hincluded⟩ := (Ends.refused (.new rfl hdraw (.nil _)) rfl hflip []).on_addFound
    hsearch.symm (.text "games")
  rw [included, discover, hincluded]
  refine ⟨rfl, rfl, rfl, fun hwhole => ?_⟩
  have hsame : (withCoin.extended (likeCoin "draw" 1)).aliases = withCoin.aliases := hwhole.1
  exact absurd hsame (by decide)

end ChatCommands.Registry
