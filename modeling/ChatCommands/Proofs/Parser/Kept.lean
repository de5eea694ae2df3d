import ChatCommands.Demo
import ChatCommands.Proofs.Parser.Calls

/-!
# What a parser keeps

A parser keeps the trees of usages, the patterns of trees and the converters of types. A usage has
one tree for good. Nothing else shows what has been kept: each parse comes to what it comes to for a
new parser with the same registrations.

A parser that has kept a tree or a pattern notes less than a new one, so this takes converters of
the host that do not look at the notes.

Main statements: `Coherent.registered_after`, `Keeps.after`, `Coherent.parse_congr`, `parse_after`.
-/

namespace ChatCommands.Parser

variable {κ σ : Type} {p q : Parser} {s t : σ}

/-! ### What is registered -/

/-- A new parser; one with registrations is typed. -/
def fresh : Option (List Registration) → Parser
  | none => untyped
  | some entries => typed ⟨entries, .empty⟩

/-- What a call to a parser is for its converters, if it is a registration. -/
def Call.registration? : Call κ σ → Option Converters.Call
  | .register r => some (.register r)
  | .tree _ | .parse _ _ _ => none

/-- The registrations after several calls: those of the requests that were met come in behind the
others. -/
def knownAfter (known : Option (List Registration)) (calls : List (Call κ σ)) :
    Option (List Registration) :=
  known.map fun entries => entries ++
    ((⟨entries, .empty⟩ : Converters).accepted (calls.filterMap Call.registration?)).flatMap
      Converters.Request.registrations

/-- A registration does nothing to an untyped parser, and to the converters of a typed one what it
does to converters. -/
lemma register_cases (p : Parser) (request : Converters.Request) :
    p.converters = none ∧ p.register request = .ok p ∨
    ∃ cs, p.converters = some cs ∧ p.register request =
      (cs.register request).map fun ds => { p with converters := some ds } := by
  rw [register]
  cases hconverters : p.converters with
  | none => exact Or.inl ⟨rfl, rfl⟩
  | some cs => exact Or.inr ⟨cs, rfl, rfl⟩

lemma trees_of_register {request : Converters.Request} (h : p.register request = .ok q) :
    q.trees = p.trees := by
  rcases p.register_cases request with ⟨-, hregister⟩ | ⟨cs, -, hregister⟩
  · obtain rfl : p = q := by simpa [hregister] using h
    rfl
  · obtain ⟨ds, -, rfl⟩ := Usage.map_eq_ok.mp (hregister.symm.trans h)
    rfl

lemma registered_fresh (known : Option (List Registration)) : (fresh known).registered = known := by
  cases known <;> rfl

lemma coherent_fresh (known : Option (List Registration)) : (fresh known).Coherent := by
  cases known with
  | none => exact coherent_untyped
  | some entries => exact coherent_typed (Converters.sound_of_remembered_empty rfl)

section

variable {known : Option (List Registration)} {entries : List Registration}

@[simp] lemma knownAfter_none (calls : List (Call κ σ)) : knownAfter none calls = none := rfl

@[simp] lemma knownAfter_nil : knownAfter known ([] : List (Call κ σ)) = known := by
  cases known <;> simp [knownAfter, Converters.accepted]

lemma knownAfter_register_ok {request : Converters.Request} {cs : Converters}
    (h : (⟨entries, .empty⟩ : Converters).register request = .ok cs) (calls : List (Call κ σ)) :
    knownAfter (some entries) (.register request :: calls) =
      knownAfter (some cs.entries) calls := by
  obtain ⟨-, -, rfl⟩ := Converters.register_eq_ok_iff.mp h
  simp [knownAfter, Call.registration?, Converters.accepted, h]

lemma knownAfter_register_error {request : Converters.Request} {e : Error}
    (h : (⟨entries, .empty⟩ : Converters).register request = .error e) (calls : List (Call κ σ)) :
    knownAfter (some entries) (.register request :: calls) = knownAfter (some entries) calls := by
  simp [knownAfter, Call.registration?, Converters.accepted, h]

end

/-! ### Trees that are kept -/

/-- An act leaves the tree of a usage as it is. -/
def Keeps {α : Type} (source : String) (tree : Tree) (a : Act (Parser × σ) α) : Prop :=
  ∀ p s, p.trees.get? source = some tree → (a.on (p, s)).2.1.trees.get? source = some tree

namespace Keeps

variable {source : String} {kept : Tree}

section

variable {α β : Type} {a : Act (Parser × σ) α} {f : α → Act (Parser × σ) β}

lemma of_trees_eq (h : ∀ p s, (a.on (p, s)).2.1.trees = p.trees) : Keeps source kept a := by
  intro p s hp
  rw [h]
  exact hp

lemma bind (ha : Keeps source kept a) (hf : ∀ x, Keeps source kept (f x)) :
    Keeps source kept (a >>= f) := by
  intro p s hp
  have hq := ha p s hp
  rw [Act.on_bind]
  rcases hrun : a.on (p, s) with ⟨_ | x, q, t⟩
  · rw [hrun] at hq
    exact hq
  · rw [hrun] at hq
    exact hf x q t hq

end

lemma typedPair (host : Converter.HostConversion κ σ) (context : Context κ) (usage : Value)
    (c : Pattern.Capture) : Keeps source kept (Parser.typedPair host context usage c) := by
  rw [Parser.typedPair]
  split
  · exact of_trees_eq fun _ _ => rfl
  refine bind (of_trees_eq fun _ _ => rfl) fun converter => ?_
  refine bind (of_trees_eq fun _ _ => rfl) fun outcome => ?_
  split <;> exact of_trees_eq fun _ _ => rfl

lemma typedPairs (host : Converter.HostConversion κ σ) (context : Context κ) (usage : Value)
    (captures : List Pattern.Capture) :
    Keeps source kept (Parser.typedPairs host context usage captures) := by
  induction captures with
  | nil => exact of_trees_eq fun _ _ => rfl
  | cons c captures ih =>
    refine (typedPair host context usage c).bind fun pair => ih.bind fun pairs => ?_
    exact of_trees_eq fun _ _ => rfl

variable [Journal σ]

/-- A usage that is read anew is one that was not kept. -/
lemma tree (usage : Value) : Keeps source kept (Parser.tree (σ := σ) usage) := by
  intro p s hp
  cases usage with
  | text source' =>
    cases hget : p.trees.get? source' with
    | some t' => simpa [Parser.tree, Value.isKey, hget] using hp
    | none =>
      cases hparse : Usage.parse source' with
      | error e =>
        simpa [Parser.tree, Value.isKey, hget, tree.read, Usage.load, Usage.ofValue, hparse]
          using hp
      | ok u =>
        have hne : source ≠ u.source := by
          rintro rfl
          rw [source_of_parse hparse, hget] at hp
          cases hp
        simpa [Parser.tree, Value.isKey, hget, tree.read, Usage.load, Usage.ofValue, hparse,
          Journal.note, hne] using hp
  | _ => simpa [Parser.tree, Value.isKey, tree.read, Usage.load, Usage.ofValue] using hp

lemma pattern (t : Tree) : Keeps source kept (Parser.pattern (σ := σ) t) := by
  apply of_trees_eq
  intro p s
  simp only [Parser.pattern, Act.on_bind, Act.on_get, Act.on_set]
  split <;> rfl

lemma parse (host : Converter.HostConversion κ σ) (context : Context κ) (usage : Value) :
    Keeps source kept (Parser.parse host context usage) := by
  unfold Parser.parse
  split
  case h_1 =>
    dsimp only
    split <;> exact of_trees_eq fun _ _ => rfl
  case h_2 =>
    refine (tree usage).bind fun t => (pattern t).bind fun pattern => ?_
    split
    case h_1 => exact of_trees_eq fun _ _ => rfl
    case h_2 captures _ =>
      refine bind (of_trees_eq fun _ _ => rfl) fun ⟨parser, _⟩ => ?_
      dsimp only
      split
      · refine (typedPairs host context usage captures).bind fun _ => ?_
        exact of_trees_eq fun _ _ => rfl
      · exact of_trees_eq fun _ _ => rfl

/-- A tree that is kept stays with its usage. -/
lemma perform (call : Call κ σ) (hp : p.trees.get? source = some kept) (s : σ) :
    (Parser.perform (p, s) call).1.trees.get? source = some kept := by
  cases call with
  | tree usage => exact tree usage p s hp
  | parse host context usage => exact parse host context usage p s hp
  | register request =>
    rw [Parser.perform]
    cases hregister : p.register request with
    | error e => exact hp
    | ok q => rwa [← trees_of_register hregister] at hp

lemma after (calls : List (Call κ σ)) (hp : p.trees.get? source = some kept) (s : σ) :
    (Parser.after (p, s) calls).1.trees.get? source = some kept := by
  induction calls generalizing p s with
  | nil => exact hp
  | cons call calls ih => exact ih (perform call hp s) _

end Keeps

/-! ### Registrations after several calls -/

variable [Journal σ]

/-- What counts of several calls is what the first one registers and what the others do then. -/
lemma Coherent.knownAfter_cons (h : p.Coherent) (s : σ) (call : Call κ σ)
    (calls : List (Call κ σ)) :
    knownAfter p.registered (call :: calls) =
      knownAfter (Parser.perform (p, s) call).1.registered calls := by
  cases call with
  | tree usage =>
    obtain ⟨r, q, u, htree, -, -, -, hconverters, -⟩ := h.on_tree usage s
    rw [Parser.perform, htree, registered, registered, hconverters]
    rfl
  | parse host context usage =>
    rw [Parser.perform, (h.parse host context usage s).2]
    rfl
  | register request =>
    rw [Parser.perform]
    rcases p.register_cases request with ⟨hnone, hregister⟩ | ⟨cs, hcs, hregister⟩
    · simp [hregister, registered, hnone]
    -- Only the entries decide whether a request is met, not what is remembered.
    have hentries : (⟨cs.entries, .empty⟩ : Converters).register request = cs.register request :=
      rfl
    rw [hregister, registered, hcs, Option.map_some]
    cases hrequest : cs.register request with
    | error e =>
      rw [knownAfter_register_error (hentries.trans hrequest)]
      simp [Except.map, registered, hcs]
    | ok ds =>
      rw [knownAfter_register_ok (hentries.trans hrequest)]
      simp [Except.map, registered]

lemma Coherent.registered_after (h : p.Coherent) (s : σ) (calls : List (Call κ σ)) :
    (Parser.after (p, s) calls).1.registered = knownAfter p.registered calls := by
  induction calls generalizing p s with
  | nil => rw [Parser.after, knownAfter_nil]
  | cons call calls ih =>
    rw [Parser.after, h.knownAfter_cons s]
    exact ih (h.perform s call).1 _

/-! ### Converters that do not look at the notes -/

/-- On states of the host that count as the same, those of its converters that are registered come
to the same. States do not differ by notes alone. -/
structure Indifferent (host : Converter.HostConversion κ σ) (known : List Registration)
    (same : σ → σ → Prop) : Prop where
  refl : ∀ s, same s s
  symm : ∀ {s t}, same s t → same t s
  note : ∀ {s t} (n : Note), same s t → same (Journal.note n s) t
  convert : ∀ {s t name shown} (text type : String) (context : Context κ),
    .host name shown ∈ known.map Registration.converter → same s t →
    ((host name text type context).on s).1 = ((host name text type context).on t).1 ∧
      same ((host name text type context).on s).2 ((host name text type context).on t).2

namespace Indifferent

variable {host : Converter.HostConversion κ σ} {same : σ → σ → Prop}
  {known : List Registration} {context : Context κ} {usage : Value} {c : Pattern.Capture}
  {captures : List Pattern.Capture} {pairs : List (String × Value)} {e : Error} {s' : σ}
  {r : Except Error (String × Value)} (h : Indifferent host known same)
include h

lemma noted_left {u : σ} (hu : Noted s u) (hst : same s t) : same u t := by
  obtain ⟨notes, rfl⟩ := hu
  induction notes generalizing s with
  | nil => exact hst
  | cons n notes ih => exact ih (h.note n hst)

lemma of_noted {u v : σ} (hu : Noted s u) (hv : Noted s v) : same u v := by
  have hsv : same s v := h.symm (h.noted_left hv (h.refl s))
  exact h.noted_left hu hsv

/-- Converters that are built in have no part in the state of the host. -/
lemma convert_eq {converter : Converter} (hmem : converter ∈ known.map Registration.converter)
    (text type : String) (context : Context κ) (hst : same s t) :
    ((converter.convert host text type context).on s).1 =
        ((converter.convert host text type context).on t).1 ∧
      same ((converter.convert host text type context).on s).2
        ((converter.convert host text type context).on t).2 := by
  cases converter with
  | host name shown => exact h.convert text type context hmem hst
  | number | decimal | string => exact ⟨rfl, hst⟩

lemma yields (hc : Yields host known context usage c s r s') (hst : same s t) :
    ∃ t', Yields host known context usage c t r t' ∧ same s' t' := by
  cases hc with
  | literal hliteral => exact ⟨t, .literal hliteral, hst⟩
  | unresolved hnot hsplits hchoose => exact ⟨t, .unresolved hnot hsplits hchoose, hst⟩
  | @resolved name type _ _ _ _ hnot hsplits hchoose hconvert hturns =>
    obtain ⟨e, hsingle, rfl⟩ := Converters.choose_eq_ok_iff.mp hchoose
    have he : e ∈ known := (Converters.mem_candidates.mp (hsingle ▸ List.mem_singleton_self e)).1
    obtain ⟨houtcome, hsame⟩ :=
      h.convert_eq (List.mem_map_of_mem he) c.text type context hst
    rcases hconvert' : (e.converter.convert host c.text type context).on t with ⟨outcome', t'⟩
    rw [hconvert, hconvert'] at houtcome hsame
    obtain rfl := houtcome
    exact ⟨t', .resolved hnot hsplits hchoose hconvert' hturns, hsame⟩

lemma yieldsAll (hall : YieldsAll host known context usage captures s pairs s') (hst : same s t) :
    ∃ t', YieldsAll host known context usage captures t pairs t' ∧ same s' t' := by
  induction hall generalizing t with
  | nil => exact ⟨t, .nil, hst⟩
  | cons hhead _ ih =>
    obtain ⟨t', hhead', hst'⟩ := h.yields hhead hst
    obtain ⟨t'', htail', hst''⟩ := ih hst'
    exact ⟨t'', .cons hhead' htail', hst''⟩

lemma fails (hfails : Fails host known context usage captures s e s') (hst : same s t) :
    ∃ t', Fails host known context usage captures t e t' := by
  obtain ⟨before, c, after, pairs, u, hcaptures, hbefore, hc⟩ := hfails
  obtain ⟨v, hbefore', huv⟩ := h.yieldsAll hbefore hst
  obtain ⟨t', hc', -⟩ := h.yields hc huv
  exact ⟨t', before, c, after, pairs, v, hcaptures, hbefore', hc'⟩

end Indifferent

/-! ### Parsers with the same registrations -/

section

variable {host : Converter.HostConversion κ σ} {same : σ → σ → Prop}

lemma Coherent.collected_congr (hp : p.Coherent) (hq : q.Coherent)
    (hk : p.registered = q.registered)
    (hhost : ∀ known, p.registered = some known → Indifferent host known same) (context : Context κ)
    (usage : Value) (captures : List Pattern.Capture) {u v : σ} (hu : Noted s u) (hv : Noted s v) :
    ((collected host context usage captures).on (p, u)).1 =
      ((collected host context usage captures).on (q, v)).1 := by
  cases hknown : p.registered with
  | none =>
    rw [on_collected_of_untyped hknown, on_collected_of_untyped (hk.symm.trans hknown)]
  | some known =>
    have hhost : Indifferent host known same := hhost known hknown
    have hsame := hhost.of_noted hu hv
    obtain ⟨r, p', u', hrun, hall, hfails, -⟩ :=
      hp.on_collected hknown host context usage captures u
    obtain ⟨r', q', v', hrun', hall', hfails', -⟩ :=
      hq.on_collected (hk.symm.trans hknown) host context usage captures v
    rw [hrun, hrun']
    show r = r'
    cases r with
    | ok parameters =>
      obtain ⟨pairs, hpairs, hparameters⟩ := (hall parameters u').mpr ⟨rfl, rfl⟩
      obtain ⟨v'', hpairs', -⟩ := hhost.yieldsAll hpairs hsame
      exact ((hall' parameters v'').mp ⟨pairs, hpairs', hparameters⟩).1.symm
    | error e =>
      obtain ⟨v'', hfails''⟩ := hhost.fails ((hfails e u').mpr ⟨rfl, rfl⟩) hsame
      exact ((hfails' e v'').mp hfails'').1.symm

/-- Parsers with the same registrations come to the same in the same state of the host. -/
lemma Coherent.parse_congr (hp : p.Coherent) (hq : q.Coherent) (hk : p.registered = q.registered)
    (hhost : ∀ known, p.registered = some known → Indifferent host known same)
    (context : Context κ) (usage : Value) (s : σ) :
    ((Parser.parse host context usage).on (p, s)).1 =
      ((Parser.parse host context usage).on (q, s)).1 := by
  obtain ⟨p', u, hp', hpc, hu, herror, hok⟩ := hp.on_parse host context usage s
  obtain ⟨q', v, hq', hqc, hv, herror', hok'⟩ := hq.on_parse host context usage s
  cases hcaptures : capturesOf context usage with
  | error e => rw [herror e hcaptures, herror' e hcaptures]
  | ok captures =>
    have hkp : p'.registered = p.registered := by rw [registered, hpc, registered]
    have hkq : q'.registered = q.registered := by rw [registered, hqc, registered]
    rw [hok captures hcaptures, hok' captures hcaptures]
    have hsame : p'.registered = q'.registered := hkp.trans (hk.trans hkq.symm)
    exact hp'.collected_congr hq' hsame (hkp ▸ hhost) context usage captures hu hv

end

/-! ### Calls of a parser that has been called -/

/-- A tree that a parser gives is kept. -/
lemma Coherent.exists_tree (h : p.Coherent) {source : String} {u : Usage}
    (hu : Usage.parse source = .ok u) (s : σ) :
    ∃ t q v, (tree (.text source)).on (p, s) = (.ok t, q, v) ∧ t.usage = u ∧
      q.trees.get? source = some t ∧ q.Coherent := by
  obtain ⟨r, q, v, htree, husage, hkept, hq, -⟩ := h.on_tree (.text source) s
  have husage : r.map Tree.usage = .ok u := husage.trans hu
  obtain ⟨t, rfl, rfl⟩ := Usage.map_eq_ok.mp husage
  refine ⟨t, q, v, htree, rfl, ?_, hq⟩
  rw [← source_of_parse hu]
  exact hkept t rfl

/-- A usage has one tree, whatever is called in between, and another usage has another one. -/
lemma Coherent.exists_trees (h : p.Coherent) {source source' : String} {u u' : Usage}
    (hu : Usage.parse source = .ok u) (hu' : Usage.parse source' = .ok u')
    (between : List (Call κ σ)) (s : σ) :
    let first := (tree (.text source)).on (p, s)
    let second := (tree (.text source')).on (Parser.after first.2 between)
    ∃ t t', first.1 = .ok t ∧ t.usage = u ∧ second.1 = .ok t' ∧ t'.usage = u' ∧
      (source' = source → t' = t) ∧ (source' ≠ source → t'.id ≠ t.id) := by
  obtain ⟨t, q, v, hfirst, ht, hkept, hq⟩ := h.exists_tree hu s
  rw [hfirst]
  obtain ⟨t', q', v', hsecond, ht', hkept', hq'⟩ :=
    (hq.after v between).1.exists_tree hu' (Parser.after (q, v) between).2
  have hstays : q'.trees.get? source = some t := by
    have hlater := Keeps.after between hkept v
    have hstays := Keeps.tree (.text source') _ (Parser.after (q, v) between).2 hlater
    rwa [hsecond] at hstays
  intro first second
  have hsecond : second.1 = .ok t' := congrArg Prod.fst hsecond
  refine ⟨t, t', rfl, ht, hsecond, ht', ?_, ?_⟩
  · rintro rfl
    exact Option.some.inj (hkept'.symm.trans hstays)
  · intro hne hid
    exact hne (hq'.id_injective hkept' hstays hid)

/-- After any calls, a parse comes to what it comes to for a new parser with what was registered by
then, unless converters of the host look at the notes. A usage that can be read has a tree, the same
one each time, and another usage has another one. -/
theorem parse_after (known₀ : Option (List Registration)) (earlier : List (Call κ σ)) (s₀ : σ) :
    let start := after (fresh known₀, s₀) earlier
    let known := knownAfter known₀ earlier
    start.1.registered = known ∧
    (∀ (host : Converter.HostConversion κ σ) (same : σ → σ → Prop),
      (∀ entries, known = some entries → Indifferent host entries same) → ∀ context usage,
        ((parse host context usage).on start).1 =
          ((parse host context usage).on (fresh known, start.2)).1) ∧
    (∀ usage, ((tree usage).on start).1.map Tree.usage = usageOf usage) ∧
    ∀ (source source' : String) (u u' : Usage) (between : List (Call κ σ)),
      Usage.parse source = .ok u → Usage.parse source' = .ok u' →
        let first := (tree (.text source)).on start
        let second := (tree (.text source')).on (after first.2 between)
        ∃ t t', first.1 = .ok t ∧ t.usage = u ∧ second.1 = .ok t' ∧ t'.usage = u' ∧
          (source' = source → t' = t) ∧ (source' ≠ source → t'.id ≠ t.id) := by
  intro start known
  have hnew : (fresh known₀).Coherent := coherent_fresh known₀
  have hstart : start.1.Coherent := (hnew.after s₀ earlier).1
  have hknown : start.1.registered = known := by
    rw [hnew.registered_after s₀ earlier, registered_fresh]
  refine ⟨hknown, fun host same hhost context usage => ?_, fun usage => ?_,
    fun source source' u u' between hu hu' => hstart.exists_trees hu hu' between start.2⟩
  · have hfresh : start.1.registered = (fresh known).registered := by
      rw [hknown, registered_fresh]
    exact hstart.parse_congr (coherent_fresh known) hfresh (hknown ▸ hhost) context usage start.2
  · obtain ⟨r, q, v, htree, husage, -⟩ := hstart.on_tree usage start.2
    rw [htree]
    exact husage

/-- A journal that keeps nothing leaves converters free to do what they like. -/
lemma indifferent_of_note_eq (h : ∀ (n : Note) (s : σ), Journal.note n s = s)
    (host : Converter.HostConversion κ σ) (known : List Registration) :
    Indifferent host known Eq where
  refl _ := rfl
  symm := Eq.symm
  note n hst := (h n _).trans hst
  convert _ _ _ _ hst := hst ▸ ⟨rfl, rfl⟩

/-- A converter that prints each text that it is called for. -/
def echo : Converter.HostConversion Command Demo.State := fun _ text _ _ => do
  Demo.print text
  return .text text

/-- A request for this converter. -/
def echoRequest : Converters.Request where
  converter := some (.host "echo" "<echo>")
  types := [.text "user"]

/-- A context with one parameter. -/
def oneUser : Context Command where
  message := .text "!greet bob"
  content := "!greet bob"
  parameterString := some "bob"

/-- A usage that cannot be read, a parse without a converter, a request, the same one again, which
is refused, and a parse that calls the converter. -/
def mixedCalls : List (Call Command Demo.State) := [
  .tree (.text "<u:user"), .parse echo oneUser (.text "<u:user>"), .register echoRequest,
  .register echoRequest, .parse echo oneUser (.text "<u:user>")]

theorem parse_after_mixedCalls :
    let start := after (fresh (some []), Demo.State.start) mixedCalls
    let entries := [⟨"user", .object, .host "echo" "<echo>", false⟩]
    start.1.registered = some entries ∧ Indifferent echo entries Eq ∧
      ((parse echo oneUser (.text "<u:user>")).on start).1 =
        ((parse echo oneUser (.text "<u:user>")).on (fresh (some entries), start.2)).1 := by
  intro start entries
  have hhost : ∀ entries, Indifferent echo entries Eq :=
    indifferent_of_note_eq (fun _ _ => rfl) echo
  have hknown : knownAfter (some []) mixedCalls = some entries := rfl
  obtain ⟨hregistered, hparse, -⟩ := parse_after (some []) mixedCalls Demo.State.start
  rw [hknown] at hregistered hparse
  exact ⟨hregistered, hhost entries, hparse echo Eq (fun entries _ => hhost entries) oneUser _⟩

end ChatCommands.Parser
