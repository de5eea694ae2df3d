import ChatCommands.Pattern.Cache
import ChatCommands.Proofs.Table
import ChatCommands.Usage.Parser
import Mathlib.Data.List.Range

/-!
# What a cache keeps

A cache has an entry for each tree that was compiled and is still held, and for no other. So a tree
has one pattern for as long as it is held, two trees never share a pattern, and a pattern that
someone keeps does not depend on what becomes of its tree.

Main statements: `Coherent.perform`, `Coherent.size_eq`, `cached_after`.
-/

namespace ChatCommands.Pattern.Cache

/-! ### What a host does with a cache -/

/-- What a host does with a cache. Trees are named by their numbers. -/
inductive Step
  | parse (source : String)
  /-- Puts a usage together without reading one. -/
  | build (usage : Usage)
  | compile (tree : Nat)
  /-- Hands over something that is no tree. -/
  | compileOther
  | drop (tree : Nat)

/-- A cache, the trees made so far, the numbers of those that are held no more, and what was handed
over to be compiled with what that came to. -/
structure Session where
  cache : Cache
  trees : List Tree
  dropped : List Nat
  answers : List (Option Tree × Except Error Compiled)

namespace Session

/-- Nothing was done yet. -/
def start : Session := ⟨.empty, [], [], []⟩

/-- The trees that are still held. -/
def live (s : Session) : List Tree := s.trees.filter fun t => t.id ∉ s.dropped

/-- Whether a tree was handed over to be compiled. -/
def hasCompiled (s : Session) (t : Tree) : Bool := s.answers.any fun a => a.1.any (·.id == t.id)

/-- Hands something over to be compiled. -/
def compile (s : Session) (t? : Option Tree) : Session :=
  let (answer, cache) := s.cache.compileAny t?
  { s with cache, answers := s.answers ++ [(t?, answer)] }

/-- Makes a tree of a usage. -/
def grow (s : Session) (u : Usage) : Session :=
  let (t, cache) := s.cache.newTree u
  { s with cache, trees := s.trees ++ [t] }

/-- What a step does; nothing, where the source cannot be read or the tree is held no more. -/
def perform (s : Session) : Step → Session
  | .parse source =>
    match Usage.parse source with
    | .ok u => s.grow u
    | .error _ => s
  | .build u => s.grow u
  | .compile id =>
    match s.live.find? (·.id = id) with
    | some t => s.compile (some t)
    | none => s
  | .compileOther => s.compile none
  | .drop id =>
    match s.live.find? (·.id = id) with
    | some t => { s with cache := s.cache.drop t, dropped := t.id :: s.dropped }
    | none => s

/-- Several steps, one after another. -/
def after (s : Session) : List Step → Session
  | [] => s
  | step :: steps => (s.perform step).after steps

variable {s : Session} {t t' : Tree} {c c' : Compiled}

lemma mem_live_iff : t ∈ s.live ↔ t ∈ s.trees ∧ t.id ∉ s.dropped := by
  rw [live, List.mem_filter, decide_eq_true_eq]

/-! ### What the cache knows -/

/-- Trees have numbers of their own. The cache has the patterns that were answered for the trees
that are held, patterns have numbers by which they can be told apart just as their trees, and
whatever is no tree was refused. -/
structure Coherent (s : Session) : Prop where
  ids_eq : s.trees.map Tree.id = List.range s.cache.nextTree
  nodup_keys : s.cache.entries.keys.Nodup
  entry_iff : ∀ id c, s.cache.entries.get? id = some c ↔
    ∃ t ∈ s.live, t.id = id ∧ (some t, .ok c) ∈ s.answers
  answered : ∀ t answer, (some t, answer) ∈ s.answers → t ∈ s.trees ∧
    ∃ c, answer = .ok c ∧ c.id < s.cache.nextPattern ∧ c.pattern = .ofUsage t.usage
  refused : ∀ answer, (none, answer) ∈ s.answers → answer = .error (.misuse .notAUsage)
  same_iff : ∀ t c t' c', (some t, .ok c) ∈ s.answers → (some t', .ok c') ∈ s.answers →
    (c'.id = c.id ↔ t'.id = t.id) ∧ (t'.id = t.id → c' = c)

lemma coherent_start : start.Coherent where
  ids_eq := rfl
  nodup_keys := List.nodup_nil
  entry_iff _ _ := by simp [start, live, Cache.empty]
  answered _ _ h := absurd h List.not_mem_nil
  refused _ h := absurd h List.not_mem_nil
  same_iff _ _ _ _ h := absurd h List.not_mem_nil

namespace Coherent

lemma id_lt (h : s.Coherent) (ht : t ∈ s.trees) : t.id < s.cache.nextTree := by
  have hmem : t.id ∈ s.trees.map Tree.id := List.mem_map_of_mem ht
  rwa [h.ids_eq, List.mem_range] at hmem

lemma eq_of_id (h : s.Coherent) (ht : t ∈ s.trees) (ht' : t' ∈ s.trees) (hid : t.id = t'.id) :
    t = t' := by
  have hnodup : (s.trees.map Tree.id).Nodup := h.ids_eq ▸ List.nodup_range
  exact List.inj_on_of_nodup_map hnodup ht ht' hid

/-- A tree that is held has an entry just if it was answered for. -/
lemma get?_iff (h : s.Coherent) (ht : t ∈ s.live) :
    s.cache.entries.get? t.id = some c ↔ (some t, .ok c) ∈ s.answers := by
  rw [h.entry_iff]
  constructor
  · rintro ⟨t', ht', hid, hanswer⟩
    rwa [← h.eq_of_id (mem_live_iff.mp ht').1 (mem_live_iff.mp ht).1 hid]
  · exact fun hanswer => ⟨t, ht, rfl, hanswer⟩

/-- A tree that is made is held, and was not compiled yet. -/
lemma grow (h : s.Coherent) (u : Usage) : (s.grow u).Coherent where
  ids_eq := by
    simp only [Session.grow, Cache.newTree, List.map_append, h.ids_eq]
    exact List.range_succ.symm
  nodup_keys := h.nodup_keys
  entry_iff id c := by
    refine (h.entry_iff id c).trans ⟨?_, ?_⟩
    · rintro ⟨t, ht, hid, hanswer⟩
      obtain ⟨htree, hlive⟩ := mem_live_iff.mp ht
      exact ⟨t, mem_live_iff.mpr ⟨List.mem_append_left _ htree, hlive⟩, hid, hanswer⟩
    · rintro ⟨t, ht, hid, hanswer⟩
      exact ⟨t, mem_live_iff.mpr ⟨(h.answered t _ hanswer).1, (mem_live_iff.mp ht).2⟩, hid, hanswer⟩
  answered t answer hanswer :=
    ⟨List.mem_append_left _ (h.answered t answer hanswer).1, (h.answered t answer hanswer).2⟩
  refused := h.refused
  same_iff := h.same_iff

/-- What is known of the answers is known also of answers that were given before. -/
lemma of_mem_iff (h : s.Coherent) {answers : List (Option Tree × Except Error Compiled)}
    (hmem : ∀ a, a ∈ answers ↔ a ∈ s.answers) : Coherent { s with answers } where
  ids_eq := h.ids_eq
  nodup_keys := h.nodup_keys
  entry_iff id c := by
    simp only [hmem]
    exact h.entry_iff id c
  answered t answer hanswer := h.answered t answer ((hmem _).mp hanswer)
  refused answer hanswer := h.refused answer ((hmem _).mp hanswer)
  same_iff t c t' c' hc hc' := h.same_iff t c t' c' ((hmem _).mp hc) ((hmem _).mp hc')

lemma compile_of_get? (h : s.Coherent) (ht : t ∈ s.live)
    (hget : s.cache.entries.get? t.id = some c) :
    s.cache.compile t = (c, s.cache) ∧ (s.compile (some t)).Coherent := by
  have hcompile : s.cache.compile t = (c, s.cache) := by rw [Cache.compile, hget]
  refine ⟨hcompile, ?_⟩
  have hsession : s.compile (some t) = { s with answers := s.answers ++ [(some t, .ok c)] } := by
    simp only [Session.compile, compileAny, hcompile]
  rw [hsession]
  refine h.of_mem_iff fun a => ?_
  have hanswer := (h.get?_iff ht).mp hget
  constructor
  · intro ha
    rcases List.mem_append.mp ha with ha | ha
    · exact ha
    · rwa [List.mem_singleton.mp ha]
  · exact List.mem_append_left _

/-- A tree without an entry gets a pattern that no other tree has. -/
lemma compile_of_none (h : s.Coherent) (ht : t ∈ s.live)
    (hget : s.cache.entries.get? t.id = none) : (s.compile (some t)).Coherent := by
  have hsession : s.compile (some t) = { s with
      cache := { s.cache with
        nextPattern := s.cache.nextPattern + 1
        entries := s.cache.entries.set t.id ⟨s.cache.nextPattern, .ofUsage t.usage⟩ }
      answers := s.answers ++ [(some t, .ok ⟨s.cache.nextPattern, .ofUsage t.usage⟩)] } := by
    simp only [Session.compile, compileAny, Cache.compile, hget]
  have htree := (mem_live_iff.mp ht).1
  -- The tree was not answered for, since then it would have an entry.
  have hfirst : ∀ t' c', (some t', .ok c') ∈ s.answers → t'.id ≠ t.id := by
    intro t' c' hanswer hid
    obtain rfl := h.eq_of_id (h.answered t' _ hanswer).1 htree hid
    rw [(h.get?_iff ht).mpr hanswer] at hget
    cases hget
  have hlt : ∀ t' c', (some t', .ok c') ∈ s.answers → c'.id < s.cache.nextPattern := by
    intro t' c' hanswer
    obtain ⟨-, c, hc, hlt, -⟩ := h.answered t' _ hanswer
    obtain rfl := Except.ok.inj hc
    exact hlt
  have hmem : ∀ t' c', (some t', .ok c') ∈ (s.compile (some t)).answers ↔
      (some t', .ok c') ∈ s.answers ∨
        t' = t ∧ c' = ⟨s.cache.nextPattern, .ofUsage t.usage⟩ := by
    intro t' c'
    simp [hsession]
  rw [hsession] at hmem ⊢
  refine ⟨h.ids_eq, Table.nodup_keys_set h.nodup_keys _ _, fun id c => ?_, fun t' answer ha => ?_,
    fun answer ha => ?_, fun t₁ c₁ t₂ c₂ h₁ h₂ => ?_⟩
  · rw [Table.get?_set_eq_some_iff, h.entry_iff]
    simp only [hmem]
    constructor
    · rintro (⟨rfl, rfl⟩ | ⟨-, t', ht', hid, hanswer⟩)
      · exact ⟨t, ht, rfl, Or.inr ⟨rfl, rfl⟩⟩
      · exact ⟨t', ht', hid, Or.inl hanswer⟩
    · rintro ⟨t', ht', rfl, hanswer | ⟨rfl, rfl⟩⟩
      · exact Or.inr ⟨hfirst t' c hanswer, t', ht', rfl, hanswer⟩
      · exact Or.inl ⟨rfl, rfl⟩
  · rcases List.mem_append.mp ha with ha | ha
    · obtain ⟨ht', c', rfl, hlt, hpattern⟩ := h.answered t' answer ha
      exact ⟨ht', c', rfl, Nat.lt_succ_of_lt hlt, hpattern⟩
    · obtain ⟨rfl, rfl⟩ : t' = t ∧ answer = _ := by simpa using ha
      exact ⟨htree, _, rfl, Nat.lt_succ_self _, rfl⟩
  · rcases List.mem_append.mp ha with ha | ha
    · exact h.refused answer ha
    · simp at ha
  · rw [hmem] at h₁ h₂
    rcases h₁ with h₁ | ⟨rfl, rfl⟩ <;> rcases h₂ with h₂ | ⟨rfl, rfl⟩
    · exact h.same_iff t₁ c₁ t₂ c₂ h₁ h₂
    · have hne := hfirst t₁ c₁ h₁
      have hlt := hlt t₁ c₁ h₁
      exact ⟨iff_of_false (Nat.ne_of_gt hlt) (Ne.symm hne), fun hid => absurd hid.symm hne⟩
    · have hne := hfirst t₂ c₂ h₂
      have hlt := hlt t₂ c₂ h₂
      exact ⟨iff_of_false (Nat.ne_of_lt hlt) hne, fun hid => absurd hid hne⟩
    · exact ⟨iff_of_true rfl rfl, fun _ => rfl⟩

/-- What is no tree is refused. -/
lemma compile_other (h : s.Coherent) : (s.compile none).Coherent := by
  have hmem : ∀ t answer, (some t, answer) ∈ (s.compile none).answers ↔
      (some t, answer) ∈ s.answers := by
    intro t answer
    simp [Session.compile, compileAny]
  refine ⟨h.ids_eq, h.nodup_keys, fun id c => ?_, fun t answer ha => ?_, fun answer ha => ?_,
    fun t c t' c' hc hc' => ?_⟩
  · simp only [hmem]
    exact h.entry_iff id c
  · exact h.answered t answer ((hmem _ _).mp ha)
  · rcases List.mem_append.mp ha with ha | ha
    · exact h.refused answer ha
    · simpa [compileAny] using ha
  · exact h.same_iff t c t' c' ((hmem _ _).mp hc) ((hmem _ _).mp hc')

/-- The entry of a tree goes with it, and all others stay. -/
lemma drop (h : s.Coherent) (t : Tree) :
    Coherent { s with cache := s.cache.drop t, dropped := t.id :: s.dropped } where
  ids_eq := h.ids_eq
  nodup_keys := Table.nodup_keys_erase h.nodup_keys t.id
  entry_iff id c := by
    show (s.cache.entries.erase t.id).get? id = some c ↔ _
    rw [Table.get?_erase]
    have hlive : ∀ t', t' ∈ live { s with
        cache := s.cache.drop t, dropped := t.id :: s.dropped } ↔ t' ∈ s.live ∧ t'.id ≠ t.id := by
      intro t'
      simp only [mem_live_iff, List.mem_cons, not_or]
      exact ⟨fun ⟨h, hne, hlive⟩ => ⟨⟨h, hlive⟩, hne⟩, fun ⟨⟨h, hlive⟩, hne⟩ => ⟨h, hne, hlive⟩⟩
    simp only [hlive]
    by_cases hid : id = t.id
    · subst hid
      rw [beq_self_eq_true, if_pos rfl]
      refine iff_of_false nofun ?_
      rintro ⟨t', ⟨-, hne⟩, heq, -⟩
      exact hne heq
    · rw [if_neg (by simpa using hid), h.entry_iff]
      constructor
      · rintro ⟨t', ht', rfl, hanswer⟩
        exact ⟨t', ⟨ht', hid⟩, rfl, hanswer⟩
      · rintro ⟨t', ⟨ht', -⟩, heq, hanswer⟩
        exact ⟨t', ht', heq, hanswer⟩
  answered := h.answered
  refused := h.refused
  same_iff := h.same_iff

lemma perform (h : s.Coherent) (step : Step) : (s.perform step).Coherent := by
  cases step with
  | parse source =>
    rw [Session.perform]
    split
    case h_1 u hu => exact h.grow u
    case h_2 => exact h
  | build u => exact h.grow u
  | compile id =>
    rw [Session.perform]
    split
    case h_1 t ht =>
      have hlive := List.mem_of_find?_eq_some ht
      cases hget : s.cache.entries.get? t.id with
      | some c => exact (h.compile_of_get? hlive hget).2
      | none => exact h.compile_of_none hlive hget
    case h_2 => exact h
  | compileOther => exact h.compile_other
  | drop id =>
    rw [Session.perform]
    split
    case h_1 t ht => exact h.drop t
    case h_2 => exact h

lemma after (h : s.Coherent) (steps : List Step) : (s.after steps).Coherent := by
  induction steps generalizing s with
  | nil => exact h
  | cons step steps ih => exact ih (h.perform step)

/-! ### Entries -/

lemma find?_live (h : s.Coherent) (ht : t ∈ s.live) : s.live.find? (·.id = t.id) = some t := by
  cases hfind : s.live.find? (·.id = t.id) with
  | none =>
    have hnone := List.find?_eq_none.mp hfind t ht
    simp at hnone
  | some t' =>
    have hid : t'.id = t.id := by simpa using List.find?_some hfind
    have ht' := List.mem_of_find?_eq_some hfind
    rw [h.eq_of_id (mem_live_iff.mp ht').1 (mem_live_iff.mp ht).1 hid]

/-- A tree that is held can be compiled. -/
lemma answers_compile (h : s.Coherent) (ht : t ∈ s.live) :
    (s.perform (.compile t.id)).answers =
      s.answers ++ [(some t, .ok (s.cache.compile t).1)] := by
  rw [Session.perform, h.find?_live ht]
  rfl

lemma hasCompiled_iff (h : s.Coherent) (ht : t ∈ s.trees) :
    s.hasCompiled t = true ↔ ∃ c, (some t, .ok c) ∈ s.answers := by
  rw [hasCompiled, List.any_eq_true]
  constructor
  · rintro ⟨⟨t?, answer⟩, ha, hid⟩
    obtain ⟨t', rfl, hid⟩ := (Option.any_eq_true _ _).mp hid
    obtain ⟨ht', c, rfl, -⟩ := h.answered t' answer ha
    obtain rfl := h.eq_of_id ht' ht (beq_iff_eq.mp hid)
    exact ⟨c, ha⟩
  · rintro ⟨c, ha⟩
    exact ⟨_, ha, by simp⟩

/-- There are as many entries as trees that are held and were compiled. -/
lemma size_eq (h : s.Coherent) : s.cache.size = s.live.countP s.hasCompiled := by
  have hids : (s.trees.map Tree.id).Nodup := h.ids_eq ▸ List.nodup_range
  have hsub : (s.live.filter s.hasCompiled).Sublist s.trees :=
    List.filter_sublist.trans List.filter_sublist
  have hperm : s.cache.entries.keys.Perm ((s.live.filter s.hasCompiled).map Tree.id) := by
    rw [List.perm_ext_iff_of_nodup h.nodup_keys (hids.sublist (hsub.map _))]
    intro id
    rw [Table.mem_keys_iff, List.mem_map]
    simp only [h.entry_iff, List.mem_filter]
    constructor
    · rintro ⟨c, t, ht, hid, hanswer⟩
      exact ⟨t, ⟨ht, (h.hasCompiled_iff (mem_live_iff.mp ht).1).mpr ⟨c, hanswer⟩⟩, hid⟩
    · rintro ⟨t, ⟨ht, hcompiled⟩, hid⟩
      obtain ⟨c, hanswer⟩ := (h.hasCompiled_iff (mem_live_iff.mp ht).1).mp hcompiled
      exact ⟨c, t, ht, hid, hanswer⟩
  have hlength := hperm.length_eq
  rw [List.length_map, ← List.countP_eq_length_filter] at hlength
  rw [← hlength, size, Table.size, Table.keys, List.length_map]

end Coherent

/-! ### Answers -/

lemma perform_answers (s : Session) (step : Step) : ∃ more, (s.perform step).answers =
    s.answers ++ more := by
  cases step with
  | parse source =>
    rw [perform]
    split <;> exact ⟨[], (List.append_nil _).symm⟩
  | build u => exact ⟨[], (List.append_nil _).symm⟩
  | compile id =>
    rw [perform]
    split
    case h_1 => exact ⟨_, rfl⟩
    case h_2 => exact ⟨[], (List.append_nil _).symm⟩
  | compileOther => exact ⟨_, rfl⟩
  | drop id =>
    rw [perform]
    split <;> exact ⟨[], (List.append_nil _).symm⟩

/-- An answer stays what it is. -/
lemma answers_subset_after (s : Session) (steps : List Step) :
    s.answers ⊆ (s.after steps).answers := by
  induction steps generalizing s with
  | nil => exact List.Subset.refl _
  | cons step steps ih =>
    obtain ⟨more, hmore⟩ := s.perform_answers step
    refine List.Subset.trans ?_ (ih (s.perform step))
    rw [hmore]
    exact List.subset_append_left _ _

end Session

open Session

/-- After any steps, a tree that is held can be compiled. Patterns are the same just if their trees
are, so a tree that is compiled again gives the pattern of the first time for as long as it is held,
and another tree gives another one. The cache has as many entries as there are trees that are held
and were compiled. A pattern is that of the usage for good, whatever becomes of the tree, and what
is no tree is refused and changes nothing. -/
theorem cached_after (steps : List Step) :
    let s := start.after steps
    (∀ t ∈ s.live, ∃ c, (s.perform (.compile t.id)).answers = s.answers ++ [(some t, .ok c)]) ∧
    (∀ t c t' c', (some t, .ok c) ∈ s.answers → (some t', .ok c') ∈ s.answers →
      (c'.id = c.id ↔ t'.id = t.id) ∧ (t'.id = t.id → c' = c)) ∧
    (∀ t ∈ s.live, ∀ c, (some t, .ok c) ∈ s.answers →
      s.cache.compileAny (some t) = (.ok c, s.cache)) ∧
    s.cache.size = s.live.countP s.hasCompiled ∧
    (∀ t answer, (some t, answer) ∈ s.answers →
      ∃ c, answer = .ok c ∧ c.pattern = .ofUsage t.usage ∧
        ∀ more, (some t, .ok c) ∈ (s.after more).answers) ∧
    (∀ answer, (none, answer) ∈ s.answers → answer = .error (.misuse .notAUsage)) ∧
    s.cache.compileAny none = (.error (.misuse .notAUsage), s.cache) := by
  intro s
  have h : s.Coherent := coherent_start.after steps
  refine ⟨fun t ht => ⟨_, h.answers_compile ht⟩, h.same_iff, fun t ht c hanswer => ?_, h.size_eq,
    fun t answer hanswer => ?_, h.refused, rfl⟩
  · have hget := (h.get?_iff ht).mpr hanswer
    rw [compileAny, (h.compile_of_get? ht hget).1]
  · obtain ⟨-, c, rfl, -, hpattern⟩ := h.answered t answer hanswer
    exact ⟨c, rfl, hpattern, fun more => s.answers_subset_after more hanswer⟩

/-- Two trees of one usage are compiled apart, and the first is given up. -/
example : (start.after [.parse "<a>", .parse "<a>", .compile 0, .compile 1, .compile 0, .drop 0,
    .compile 0]).cache.size = 1 := by cbv

end ChatCommands.Pattern.Cache
