import ChatCommands.Plugin
import ChatCommands.Proofs.Registry.Registration
import Mathlib.Data.List.ReduceOption

/-!
# Numbers of commands in modules

A command that a module makes gets a number of its own. So however modules are loaded and whatever
they take from each other, the commands that are found in them are told apart by their numbers, also
from those that there were before.

Main statements: `keeps_load`, `keeps_expand`, `keeps_commands`.
-/

namespace ChatCommands.Plugin

open Registry (Distinguished)

/-- The commands that a member of a module is. -/
def Member.commands : Member → List Command
  | .command c => [c]
  | .commandClass _ _ => []
  | .other => []

/-- Known commands have numbers that were given out, each its own, and the names of the loaded
modules are bound to no other commands. -/
structure Workspace.Knows (w : Workspace) (known : List Command) : Prop where
  bound : ∀ module names, w.loaded.get? module = some names →
    ∀ m ∈ names.values, m.commands ⊆ known
  below : ∀ c ∈ known, c.id < w.nextCommand
  distinguished : Distinguished known

/-- A command that a module makes has the number that is given to it, or it was known before. -/
def Makes {σ : Type} (tree : List (Module σ)) (known : List Command) : Prop :=
  ∀ m ∈ tree, ∀ name make, Statement.define name make ∈ m.body →
    ∀ n s c, ((make n).on s).1 = .ok (.command c) → c.id = n ∨ c ∈ known

variable {σ α β : Type} {known given more : List Command} {w : Workspace} {s : σ}

/-! ### Changes of a workspace -/

namespace Workspace.Knows

variable (h : w.Knows known)
include h

/-- A number that is given out belongs to no command yet. -/
lemma number : { w with nextCommand := w.nextCommand + 1 }.Knows known :=
  ⟨h.bound, fun c hc => Nat.lt_succ_of_lt (h.below c hc), h.distinguished⟩

/-- A command gets the number that is given out. -/
lemma number_command {c : Command} (hid : c.id = w.nextCommand) :
    { w with nextCommand := w.nextCommand + 1 }.Knows (known ++ [c]) where
  bound module names hget m hm :=
    List.Subset.trans (h.bound module names hget m hm) (List.subset_append_left _ _)
  below := by
    intro d hd
    rcases List.mem_append.mp hd with hd | hd
    · exact Nat.lt_succ_of_lt (h.below d hd)
    · rw [List.mem_singleton.mp hd, hid]
      exact Nat.lt_succ_self _
  distinguished := by
    have hnew : ∀ d ∈ known, ¬(d == c) = true := by
      intro d hd heq
      have hlt := h.below d hd
      rw [show d.id = c.id from beq_iff_eq.mp heq, hid] at hlt
      exact Nat.lt_irrefl _ hlt
    intro d hd d' hd' heq
    rcases List.mem_append.mp hd with hd | hd <;> rcases List.mem_append.mp hd' with hd' | hd'
    · exact h.distinguished d hd d' hd' heq
    · exact absurd (List.mem_singleton.mp hd' ▸ heq) (hnew d hd)
    · rw [Registry.beq_symm] at heq
      exact absurd (List.mem_singleton.mp hd ▸ heq) (hnew d' hd')
    · rw [List.mem_singleton.mp hd, List.mem_singleton.mp hd']

/-- A new member of a module that is a command has the number that is given out, or was known. -/
lemma number_member {m : Member} (hm : ∀ c, m = .command c → c.id = w.nextCommand ∨ c ∈ known) :
    ∃ known', known ⊆ known' ∧ { w with nextCommand := w.nextCommand + 1 }.Knows known' ∧
      m.commands ⊆ known' := by
  cases m with
  | command c =>
    rcases hm c rfl with hid | hc
    · exact ⟨_, List.subset_append_left _ _, h.number_command hid, List.subset_append_right _ _⟩
    · exact ⟨known, List.Subset.refl _, h.number, by simpa [Member.commands] using hc⟩
  | commandClass | other => exact ⟨known, List.Subset.refl _, h.number, List.nil_subset _⟩

/-- The names of one module change. -/
lemma set_names {module : String} {names : Table String Member}
    (hnames : ∀ m ∈ names.values, m.commands ⊆ known) :
    { w with loaded := w.loaded.set module names }.Knows known where
  bound other others hget m hm := by
    rcases Table.get?_set_eq_some_iff.mp hget with ⟨-, rfl⟩ | ⟨-, hget⟩
    · exact hnames m hm
    · exact h.bound other others hget m hm
  below := h.below
  distinguished := h.distinguished

lemma erase (module : String) : { w with loaded := w.loaded.erase module }.Knows known where
  bound other names hget m hm := by
    rw [Table.get?_erase] at hget
    split at hget
    case isTrue => cases hget
    case isFalse => exact h.bound other names hget m hm
  below := h.below
  distinguished := h.distinguished

end Workspace.Knows

/-! ### Acts on a workspace -/

/-- An outcome leaves a workspace that knows what it did and maybe more, with the commands of the
value among it. -/
def Leads (known : List Command) (outcome : Except Error α × Workspace × σ)
    (commands : α → List Command) : Prop :=
  ∃ known', known ⊆ known' ∧ outcome.2.1.Knows known' ∧
    ∀ x, outcome.1 = .ok x → commands x ⊆ known'

/-- An act that works with some commands keeps all commands apart: it leads on from every workspace
that knows those. -/
def Keeps (given : List Command) (a : Act (Workspace × σ) α) (commands : α → List Command) : Prop :=
  ∀ known w s, given ⊆ known → w.Knows known → Leads known (a.on (w, s)) commands

/-- The commands of values that are none. -/
abbrev noCommands : α → List Command := fun _ => []

lemma Leads.ok {x : α} {commands : α → List Command} (h : w.Knows known)
    (hx : commands x ⊆ known) : Leads known (.ok x, w, s) commands := by
  refine ⟨known, List.Subset.refl _, h, fun y hy => ?_⟩
  cases hy
  exact hx

lemma Leads.error {e : Error} {commands : α → List Command} (h : w.Knows known) :
    Leads known (.error e, w, s) commands :=
  ⟨known, List.Subset.refl _, h, nofun⟩

lemma Leads.mono {known' : List Command} {outcome : Except Error α × Workspace × σ}
    {commands : α → List Command} (h : Leads known' outcome commands) (hsub : known ⊆ known') :
    Leads known outcome commands := by
  obtain ⟨known'', hsub', hw, hx⟩ := h
  exact ⟨known'', List.Subset.trans hsub hsub', hw, hx⟩

namespace Keeps

variable {a : Act (Workspace × σ) α} {f : α → Act (Workspace × σ) β} {x : α} {e : Error}
  {commands : α → List Command} {others : β → List Command}

lemma mono (h : Keeps given a commands) (hsub : given ⊆ more) : Keeps more a commands :=
  fun known w s hknown => h known w s (List.Subset.trans hsub hknown)

lemma pure (hx : commands x ⊆ given) : Keeps given (Pure.pure x : Act (Workspace × σ) α) commands :=
  fun _ _ _ hknown hw => .ok hw (List.Subset.trans hx hknown)

lemma fail : Keeps given (Act.fail e : Act (Workspace × σ) α) commands :=
  fun _ _ _ _ hw => .error hw

lemma fail_bind : Keeps given ((Act.fail e : Act (Workspace × σ) α) >>= f) others :=
  fun _ _ _ _ hw => .error hw

lemma forget (h : Keeps given a commands) : Keeps given a noCommands := by
  intro known w s hknown hw
  obtain ⟨known', hsub, hw', -⟩ := h known w s hknown hw
  exact ⟨known', hsub, hw', fun _ _ => List.nil_subset _⟩

lemma ofExcept {r : Except Error α} :
    Keeps given (Act.ofExcept r : Act (Workspace × σ) α) noCommands := by
  intro known w s _ hw
  rw [Act.on_ofExcept]
  cases r with
  | ok x => exact .ok hw (List.nil_subset _)
  | error e => exact .error hw

lemma bind (ha : Keeps given a commands) (hf : ∀ x, Keeps (given ++ commands x) (f x) others) :
    Keeps given (a >>= f) others := by
  intro known w s hknown hw
  obtain ⟨known₁, hsub₁, hw₁, hx⟩ := ha known w s hknown hw
  rw [Act.on_bind]
  rcases hout : a.on (w, s) with ⟨_ | x, w₁, s₁⟩ <;> rw [hout] at hw₁ hx
  · exact ⟨known₁, hsub₁, hw₁, nofun⟩
  · have hgiven := List.append_subset.mpr ⟨List.Subset.trans hknown hsub₁, hx x rfl⟩
    obtain ⟨known₂, hsub₂, hw₂, hy⟩ := hf x known₁ w₁ s₁ hgiven hw₁
    exact ⟨known₂, List.Subset.trans hsub₁ hsub₂, hw₂, hy⟩

/-- Values of the first act that are no commands add nothing to what has to be known. -/
lemma next (ha : Keeps given a noCommands) (hf : ∀ x, Keeps given (f x) others) :
    Keeps given (a >>= f) others :=
  ha.bind fun x => (hf x).mono (List.subset_append_left _ _)

lemma attempt (ha : Keeps given a noCommands) : Keeps given a.attempt noCommands := by
  intro known w s hknown hw
  obtain ⟨known', hsub, hw', -⟩ := ha known w s hknown hw
  exact ⟨known', hsub, hw', fun _ _ => List.nil_subset _⟩

lemma mapM {l : List α} (others : β → List Command) (h : ∀ x ∈ l, Keeps given (f x) others) :
    Keeps given (l.mapM f) (·.flatMap others) := by
  induction l with
  | nil => exact pure (List.nil_subset _)
  | cons x l ih =>
    obtain ⟨hx, hl⟩ := List.forall_mem_cons.mp h
    rw [List.mapM_cons]
    refine hx.bind fun y => ((ih hl).mono (List.subset_append_left _ _)).bind fun ys => pure ?_
    rw [List.flatMap_cons, List.append_assoc]
    exact List.subset_append_right _ _

lemma forM {l : List α} {f : α → Act (Workspace × σ) Unit}
    (h : ∀ x ∈ l, Keeps given (f x) noCommands) : Keeps given (l.forM f) noCommands := by
  induction l with
  | nil => exact pure (List.nil_subset _)
  | cons x l ih =>
    obtain ⟨hx, hl⟩ := List.forall_mem_cons.mp h
    exact hx.next fun _ => ih hl

end Keeps

lemma on_newNumber (w : Workspace) (s : σ) : (newNumber : Act (Workspace × σ) Nat).on (w, s) =
    (.ok w.nextCommand, { w with nextCommand := w.nextCommand + 1 }, s) := rfl

/-! ### Loading -/

section Loading

variable {tree : List (Module σ)} {load : String → Act (Workspace × σ) Unit}

lemma keeps_bindName {m : Member} (hm : m.commands ⊆ given) (module name : String) :
    Keeps given (bindName module name m : Act (Workspace × σ) Unit) noCommands := by
  intro known w s hknown hw
  rw [bindName, Act.on_modify]
  dsimp only
  split
  case h_2 => exact .ok hw (List.nil_subset _)
  case h_1 names hnames =>
    refine .ok (hw.set_names fun m' hm' => ?_) (List.nil_subset _)
    rcases Table.mem_values_of_set hm' with rfl | hm'
    · exact List.Subset.trans hm hknown
    · exact hw.bound module names hnames m' hm'

lemma keeps_unload (module : String) :
    Keeps given (unload module : Act (Workspace × σ) Unit) noCommands :=
  fun _ _ _ _ hw => .ok (hw.erase module) (List.nil_subset _)

lemma keeps_lookUp (module name : String) :
    Keeps given (lookUp module name : Act (Workspace × σ) Member) Member.commands := by
  intro known w s hknown hw
  rw [lookUp, Act.on_bind, Act.on_get]
  cases hget : (w.loaded.get? module).bind (·.get? name) with
  | none =>
    simp only [hget]
    exact .error hw
  | some m =>
    obtain ⟨names, hnames, hm⟩ := Option.bind_eq_some_iff.mp hget
    simp only [hget]
    exact .ok hw (hw.bound module names hnames m (Table.mem_values_of_get? hm))

lemma mem_of_find? {m : Module σ} {name : String} (h : find? tree name = some m) : m ∈ tree := by
  have hfound : tree.find? (·.name = name) = some m := by
    rw [find?] at h
    split at h
    · split at h
      · cases h
      · exact h
    · exact h
  exact List.mem_of_find?_eq_some hfound

section Tree

variable (htree : Makes tree given) (hload : ∀ name, Keeps given (load name) noCommands)
include htree hload

lemma keeps_run {m : Module σ} (hm : m ∈ tree) {statement : Statement σ}
    (hstatement : statement ∈ m.body) (module : String) :
    Keeps given (run load module statement) noCommands := by
  cases statement with
  | take name source member =>
    refine (hload source).next fun _ => (keeps_lookUp source member).bind fun m' => ?_
    exact keeps_bindName (List.subset_append_right _ _) module name
  | define name make =>
    intro known w s hknown hw
    rw [run, Act.on_bind, on_newNumber]
    dsimp only
    rw [Act.on_bind, Act.on_beside]
    rcases hmake : (make w.nextCommand).on s with ⟨e | member, t⟩
    case error => exact .error hw.number
    obtain ⟨known', hsub, hw', hmember⟩ := hw.number_member (m := member) fun c hc =>
      (htree m hm name make hstatement _ s c (by rw [hmake, hc])).imp_right fun h => hknown h
    exact (keeps_bindName hmember module name known' _ t (List.Subset.refl _) hw').mono hsub

lemma keeps_loadOne (name : String) : Keeps given (loadOne tree load name) noCommands := by
  intro known w s hknown hw
  rw [loadOne, Act.on_bind, Act.on_get]
  dsimp only
  split
  case isTrue => exact .ok hw (List.nil_subset _)
  case isFalse =>
  split
  case h_2 => exact .error hw
  case h_1 m hfind =>
  -- the body runs in a module without names, which is taken out again if that fails
  have hm := mem_of_find? hfind
  have hempty : { w with loaded := w.loaded.set name .empty }.Knows known := hw.set_names nofun
  rw [Act.on_bind, Act.on_get]
  dsimp only
  rw [Act.on_bind, Act.on_set]
  refine Keeps.next (.attempt ?_) (fun outcome => ?_) known _ s hknown hempty
  · have hbody := Keeps.forM fun statement h => keeps_run htree hload hm h name
    split
    · exact Keeps.fail.next fun _ => hbody
    · exact hbody
  · split
    · split
      · exact keeps_bindName (List.nil_subset _) _ _
      · exact .pure (List.nil_subset _)
    · exact (keeps_unload name).next fun _ => .fail

end Tree

end Loading

lemma keeps_loadWithin {tree : List (Module σ)} (htree : Makes tree given) (fuel : Nat)
    (name : String) : Keeps given (loadWithin tree fuel name) noCommands := by
  induction fuel generalizing name with
  | zero => exact .fail
  | succ fuel ih => exact .forM fun part _ => keeps_loadOne htree ih part

/-- Loading a module makes commands with numbers of their own only. -/
lemma keeps_load {tree : List (Module σ)} (htree : Makes tree given) (name : String) :
    Keeps given (load tree name) noCommands := keeps_loadWithin htree _ name

/-! ### Looking for modules -/

section Expansion

variable {entries : List Glob.Entry} {load : String → Act (Workspace × σ) Unit}
  (hload : ∀ name, Keeps given (load name) noCommands)
include hload

lemma keeps_walk (fuel : Nat) (package : String) :
    Keeps given (Glob.walk entries load fuel package) noCommands := by
  induction fuel generalizing package with
  | zero => exact .pure (List.nil_subset _)
  | succ fuel ih =>
    rw [Glob.walk]
    refine (Keeps.mapM noCommands fun e _ => ?_).forget.next fun found =>
      .pure (List.nil_subset _)
    split
    case isFalse => exact .pure (List.nil_subset _)
    refine (hload e.name).attempt.next fun outcome => ?_
    split
    · exact (ih e.name).next fun _ => .pure (List.nil_subset _)
    · exact .pure (List.nil_subset _)
    · exact .fail

lemma keeps_expand [Glob.CharNames] (source : Value) :
    Keeps given (Glob.expand entries load source) noCommands := by
  unfold Glob.expand
  split
  case h_2 => exact .fail
  dsimp only
  split
  · exact .fail_bind
  split
  · exact .pure (List.nil_subset _)
  split
  · exact .fail_bind
  refine (hload _).attempt.next fun outcome => ?_
  split
  · exact .pure (List.nil_subset _)
  · exact .fail
  refine Keeps.ofExcept.next fun pieces => ?_
  split
  · exact (keeps_walk hload _ _).next fun _ => .pure (List.nil_subset _)
  · exact .pure (List.nil_subset _)

end Expansion

/-! ### Commands in modules -/

section Commands

variable {tree : List (Module σ)}

lemma id_of_instantiate {c : CommandClass} {n : Nat} {d : Command} (h : c.instantiate n = .ok d) :
    d.id = n := by
  rw [CommandClass.instantiate] at h
  split at h
  case h_1 => cases h
  case h_2 =>
    -- whatever the constructor makes of the instance, the number stays
    simp only [bind, Except.bind] at h
    split at h <;> cases h
    rfl

lemma keeps_commandOf {m : Member} (hm : m.commands ⊆ given) (module : String) :
    Keeps given (commandOf module m : Act (Workspace × σ) (Option Command)) Option.toList := by
  cases m with
  | other => exact .pure (List.nil_subset _)
  | command c => exact .pure hm
  | commandClass c home =>
    rw [commandOf]
    split
    case isFalse => exact .pure (List.nil_subset _)
    intro known w s hknown hw
    rw [Act.on_bind, on_newNumber]
    dsimp only
    rw [Act.on_bind, Act.on_ofExcept]
    cases hmade : c.instantiate w.nextCommand with
    | error e => exact .error hw.number
    | ok d =>
      have hw' := hw.number_command (id_of_instantiate hmade)
      have hleads : Leads (known ++ [d]) (.ok (some d), _, s) Option.toList :=
        .ok hw' (List.subset_append_right _ _)
      exact hleads.mono (List.subset_append_left _ _)

lemma keeps_commandsOf (module : String) :
    Keeps given (commandsOf module : Act (Workspace × σ) (List Command)) id := by
  intro known w s hknown hw
  have hnames : ∀ m ∈ ((w.loaded.get? module).getD .empty).values, m.commands ⊆ known := by
    cases hget : w.loaded.get? module with
    | none => exact nofun
    | some names => exact hw.bound module names hget
  rw [commandsOf, Act.on_bind, Act.on_get]
  dsimp only
  refine Keeps.bind (Keeps.mapM Option.toList fun e he => keeps_commandOf (hnames e.2 ?_) module)
    (fun found => .pure fun c hc => ?_) known w s (List.Subset.refl _) hw
  · exact List.mem_map_of_mem (List.mem_mergeSort.mp he)
  · refine List.mem_append_right _ (List.mem_flatMap.mpr ⟨some c, ?_, List.mem_singleton_self c⟩)
    exact List.reduceOption_mem_iff.mp hc

lemma keeps_commands [Glob.CharNames] (htree : Makes tree given) (source : Value) :
    Keeps given (commands tree source) id := by
  unfold commands
  split
  case h_2 => exact .fail
  refine (keeps_expand (keeps_load htree) _).next fun modules => ?_
  refine (Keeps.mapM id fun module _ => ?_).bind fun found => .pure ?_
  · refine (keeps_load htree module).attempt.next fun outcome => ?_
    split
    · exact keeps_commandsOf module
    · exact .fail
    · exact .fail
  · rw [List.flatMap_id]
    exact List.subset_append_right _ _

end Commands

end ChatCommands.Plugin
