import ChatCommands.Demo
import ChatCommands.Proofs.Converters.Check
import ChatCommands.Proofs.Parser.Calls
import ChatCommands.Registry

/-!
# Commands with converters

A registry with converters accepts a command only if its usage passes the check for the registry's
class of messages. When such a command is parsed for a message of that class, every placeholder has
its converter. For a message of a class below, where standing below is transitive, a converter is
never missing, but there may be several.

Main statement: `parse_configured`.
-/

namespace ChatCommands

open Converters (choose candidates ambiguousConverter Follows)
open ChatCommands.Parser (capturesOf Yields YieldsAll Turns)

variable {κ σ : Type}

/-! ### Accepted commands -/

namespace Registry

variable [Journal σ] {r r' : Registry} {command : Command} {converters : Converters} {s s' : σ}

/-- The usage of a command that was accepted can be read, and passes the check of the registry. -/
lemma check_of_add (h : (add (some command)).on (r, s) = (.ok (), r', s')) {source : String}
    (hsource : command.usage = some source) :
    ∃ u, Usage.parse source = .ok u ∧ r.check u = .ok () := by
  cases hparse : Usage.parse source with
  | error e =>
    simp [add, Usage.loadIfAny, Usage.load, Usage.ofValue, Value.ofText?, hsource, hparse] at h
  | ok u =>
    refine ⟨u, rfl, ?_⟩
    cases hcheck : r.check u with
    | ok => rfl
    | error e =>
      simp [add, Usage.loadIfAny, Usage.load, Usage.ofValue, Value.ofText?, hsource, hparse,
        hcheck] at h

/-- For each placeholder that a command of the registry captures there is one converter for the
class of the registry. -/
lemma exists_choose_of_add (h : (add (some command)).on (r, s) = (.ok (), r', s'))
    (hconverters : r.converters = some converters) {context : Context κ}
    {captures : List Pattern.Capture} {c : Pattern.Capture}
    (hcaptures : capturesOf context (.ofText? command.usage) = .ok captures) (hc : c ∈ captures)
    (hliteral : c.slot.isLiteral = false) :
    ∃ usage converter, choose converters.entries (Converter.splitType c.slot.name).2
      r.messageClass usage = .ok converter := by
  cases hsource : command.usage with
  | none =>
    rw [hsource] at hcaptures
    obtain rfl : captures = [] := by
      simp only [Value.ofText?, Option.elim, capturesOf] at hcaptures
      split at hcaptures <;> cases hcaptures
      rfl
    cases hc
  | some source =>
    obtain ⟨u, hparse, hcheck⟩ := check_of_add h hsource
    have hmatch : (Pattern.ofUsage u).captures? (context.parameterString.getD "") =
        some captures := by
      rw [hsource, Value.ofText?, Option.elim, Parser.capturesOf_text hparse] at hcaptures
      split at hcaptures <;> cases hcaptures
      assumption
    have hpassed : converters.check u r.messageClass = .ok () := by
      simpa [check, hconverters] using hcheck
    obtain ⟨converter, hconverter⟩ := Converters.check_eq_ok_iff.mp hpassed _
      (Converters.splitType_mem_typesOf (Usage.parse_eq_ok_iff.mp hparse) hmatch hc hliteral)
    exact ⟨_, converter, hconverter⟩

/-- If such a placeholder has no converter for a class below, it has several, and one of them is not
for the class of the registry. -/
lemma several_of_add (h : (add (some command)).on (r, s) = (.ok (), r', s'))
    (hconverters : r.converters = some converters) {context : Context κ}
    {captures : List Pattern.Capture} {c : Pattern.Capture}
    (hcaptures : capturesOf context (.ofText? command.usage) = .ok captures) (hc : c ∈ captures)
    (hliteral : c.slot.isLiteral = false) {cls : MessageClass}
    (hfollows : Follows converters.entries cls r.messageClass) {usage : Value} {e : Error}
    (hchoose : choose converters.entries (Converter.splitType c.slot.name).2 cls usage =
      .error e) :
    2 ≤ (candidates converters.entries (Converter.splitType c.slot.name).2 cls).length ∧
      ∃ e ∈ candidates converters.entries (Converter.splitType c.slot.name).2 cls,
        r.messageClass.isBelow e.messageClass = false := by
  obtain ⟨usage', hchecked⟩ := exists_choose_of_add h hconverters hcaptures hc hliteral
  rcases hfollows.exists_choose_or_several hchecked usage with
    ⟨converter, hconverter⟩ | hseveral
  · cases hchoose.symm.trans hconverter
  · exact ⟨hseveral, hfollows.exists_beside_of_several hchecked hseveral⟩

end Registry

/-! ### Faults of configuration -/

lemma FaultKind.isBelow_converterConfiguration {k : FaultKind}
    (h : k.isBelow .parameterParse = true) : k.isBelow .converterConfiguration = false := by
  cases k <;> revert h <;> decide

namespace Parser

variable {host : Converter.HostConversion κ σ} {known : List Registration} {context : Context κ}
  {usage : Value} {converter : Converter} {name text : String} {outcome : Except Error Value}
  {c : Pattern.Capture} {s t : σ} {f : Fault}

/-- No converter makes a fault of configuration of its own. -/
lemma Turns.isBelow_converterConfiguration
    (h : Turns converter name text outcome (.error (.fault f))) :
    f.kind.isBelow .converterConfiguration = false := by
  cases h with
  | refused hf | remade hf => exact FaultKind.isBelow_converterConfiguration hf
  | crashed => rfl

/-- A fault of configuration comes from a placeholder that has no converter or several. -/
lemma Yields.of_converterConfiguration
    (h : Yields host known context usage c s (.error (.fault f)) t)
    (hf : f.kind.isBelow .converterConfiguration = true) :
    c.slot.isLiteral = false ∧ choose known (Converter.splitType c.slot.name).2
      context.message.messageClass usage = .error (.fault f) := by
  cases h with
  | unresolved hliteral hsplits hchoose =>
    rw [Converter.splitType_eq_iff.mpr hsplits]
    exact ⟨hliteral, hchoose⟩
  | resolved _ _ _ _ hturns => simp [hturns.isBelow_converterConfiguration] at hf

/-- A usage that can be read leads to no fault of configuration before it is matched. -/
lemma isBelow_of_capturesOf {source : Option String}
    (hread : ∀ text, source = some text → ∃ u, Usage.parse text = .ok u)
    (h : capturesOf context (.ofText? source) = .error (.fault f)) :
    f.kind.isBelow .converterConfiguration = false := by
  cases source with
  | none =>
    simp only [Value.ofText?, Option.elim, capturesOf] at h
    split at h <;> cases h
    rfl
  | some text =>
    obtain ⟨u, hparse⟩ := hread text rfl
    rw [Value.ofText?, Option.elim, capturesOf_text hparse] at h
    split at h <;> cases h
    rfl

/-- A parse of a usage that can be read ends with a fault of configuration only where the captures
before come to values and the next one has no converter or several. -/
lemma Coherent.of_converterConfiguration [Journal σ] {p : Parser} (h : p.Coherent)
    (hk : p.registered = some known) {source : Option String}
    (hread : ∀ text, source = some text → ∃ u, Usage.parse text = .ok u)
    (host : Converter.HostConversion κ σ) (context : Context κ) (s : σ) :
    ∃ u, Noted s u ∧
      ∀ f, ((Parser.parse host context (.ofText? source)).on (p, s)).1 = .error (.fault f) ∧
          f.kind.isBelow .converterConfiguration = true ↔
        ∃ before c after pairs v,
          capturesOf context (.ofText? source) = .ok (before ++ c :: after) ∧
          YieldsAll host known context (.ofText? source) before u pairs v ∧
          c.slot.isLiteral = false ∧
          choose known (Converter.splitType c.slot.name).2 context.message.messageClass
            (.ofText? source) = .error (.fault f) := by
  obtain ⟨u, hnoted, herror, hok⟩ := h.parse_of_typed hk host context (.ofText? source) s
  refine ⟨u, hnoted, fun f => ⟨?_, ?_⟩⟩
  · rintro ⟨hanswer, hf⟩
    cases hcaptures : capturesOf context (.ofText? source) with
    | error e =>
      obtain rfl := Except.error.inj ((herror e hcaptures).1.symm.trans hanswer)
      simp [isBelow_of_capturesOf hread hcaptures] at hf
    | ok captures =>
      obtain ⟨before, c, after, pairs, v, rfl, hall, hc⟩ :=
        ((hok captures hcaptures).2 _ _).mp ⟨hanswer, rfl⟩
      exact ⟨before, c, after, pairs, v, rfl, hall, hc.of_converterConfiguration hf⟩
  · rintro ⟨before, c, after, pairs, v, hcaptures, hall, hliteral, hchoose⟩
    have hc : Yields host known context (.ofText? source) c v (.error (.fault f)) v :=
      .unresolved hliteral (Converter.splits_splitType _) hchoose
    have hfails := ((hok _ hcaptures).2 (.fault f) v).mpr
      ⟨before, c, after, pairs, v, rfl, hall, hc⟩
    exact ⟨hfails.1, Converters.isBelow_of_choose hchoose⟩

end Parser

/-! ### Parsing for messages of the checked class and below -/

namespace Registry

variable [Journal σ] {r r' : Registry} {command : Command} {converters : Converters} {s s' : σ}

/-- A command is accepted by a registry with converters, and parsed by a parser that has the same
ones. For a message of just the registry's class, every placeholder has its converter. For a message
of a class below, where standing below is transitive, a converter is never missing. Several are
found there just if the captures before come to values and the next one is of a type for which
several registrations count; then one of these is for a class that does not stand above the class of
the registry. Without such registrations every placeholder has its converter. -/
theorem parse_configured (hadd : (add (some command)).on (r, s) = (.ok (), r', s'))
    (hconverters : r.converters = some converters) (entries : List Registration)
    (earlier : List (Parser.Call κ σ)) (s₀ : σ)
    (hregistered : (Parser.after (.typed ⟨entries, .empty⟩, s₀) earlier).1.registered =
      some converters.entries)
    (host : Converter.HostConversion κ σ) (context : Context κ) :
    let start := Parser.after (.typed ⟨entries, .empty⟩, s₀) earlier
    let usage := Value.ofText? command.usage
    let cls := context.message.messageClass
    let answer := ((Parser.parse host context usage).on start).1
    (cls = r.messageClass →
      ∀ f, answer = .error (.fault f) → f.kind.isBelow .converterConfiguration = false) ∧
    (Follows converters.entries cls r.messageClass → ∃ u, Noted start.2 u ∧
      ((∃ f, answer = .error (.fault f) ∧ f.kind.isBelow .converterConfiguration = true) ↔
        ∃ before c after pairs v name type, capturesOf context usage = .ok (before ++ c :: after) ∧
          YieldsAll host converters.entries context usage before u pairs v ∧
          c.slot.isLiteral = false ∧ Converter.Splits c.slot.name name type ∧
          2 ≤ (candidates converters.entries type cls).length) ∧
      (∀ f, answer = .error (.fault f) → f.kind.isBelow .converterConfiguration = true →
        ∃ type, f = ambiguousConverter type usage ∧
          ∃ e ∈ candidates converters.entries type cls,
            r.messageClass.isBelow e.messageClass = false) ∧
      ((∀ e ∈ converters.entries, cls.isBelow e.messageClass = true →
          r.messageClass.isBelow e.messageClass = true) →
        ∀ f, answer = .error (.fault f) → f.kind.isBelow .converterConfiguration = false)) := by
  intro start usage cls answer
  have hsound : (⟨entries, .empty⟩ : Converters).Sound :=
    Converters.sound_of_remembered_empty rfl
  obtain ⟨hstart, -⟩ := (Parser.coherent_typed hsound).after s₀ earlier
  have hread : ∀ text, command.usage = some text → ∃ u, Usage.parse text = .ok u := by
    intro text htext
    obtain ⟨u, hparse, -⟩ := check_of_add hadd htext
    exact ⟨u, hparse⟩
  obtain ⟨u, hnoted, hiff⟩ :=
    hstart.of_converterConfiguration hregistered hread host context start.2
  refine ⟨fun hcls f hanswer => ?_, fun hfollows => ?_⟩
  · by_contra hf
    obtain ⟨before, c, after, -, -, hcaptures, -, hliteral, hchoose⟩ :=
      (hiff f).mp ⟨hanswer, by simpa using hf⟩
    obtain ⟨usage', converter, hchecked⟩ :=
      exists_choose_of_add hadd hconverters hcaptures (by simp) hliteral
    rw [← hcls] at hchecked
    cases hchoose.symm.trans (Converters.choose_usage hchecked)
  have hfault : ∀ f, answer = .error (.fault f) → f.kind.isBelow .converterConfiguration = true →
      ∃ type, f = ambiguousConverter type usage ∧
        ∃ e ∈ candidates converters.entries type cls,
          r.messageClass.isBelow e.messageClass = false := by
    intro f hanswer hf
    obtain ⟨before, c, after, -, -, hcaptures, -, hliteral, hchoose⟩ := (hiff f).mp ⟨hanswer, hf⟩
    obtain ⟨hseveral, hbeside⟩ :=
      several_of_add hadd hconverters hcaptures (by simp) hliteral hfollows hchoose
    rw [Converters.choose_of_several hseveral] at hchoose
    exact ⟨_, (Error.fault.inj (Except.error.inj hchoose)).symm, hbeside⟩
  refine ⟨u, hnoted, ⟨?_, ?_⟩, hfault, ?_⟩
  · rintro ⟨f, hanswer, hf⟩
    obtain ⟨before, c, after, pairs, v, hcaptures, hall, hliteral, hchoose⟩ :=
      (hiff f).mp ⟨hanswer, hf⟩
    obtain ⟨hseveral, -⟩ :=
      several_of_add hadd hconverters hcaptures (by simp) hliteral hfollows hchoose
    exact ⟨before, c, after, pairs, v, _, _, hcaptures, hall, hliteral,
      Converter.splits_splitType _, hseveral⟩
  · rintro ⟨before, c, after, pairs, v, name, type, hcaptures, hall, hliteral, hsplits, hseveral⟩
    refine ⟨ambiguousConverter type usage, (hiff _).mpr
      ⟨before, c, after, pairs, v, hcaptures, hall, hliteral, ?_⟩⟩
    rw [Converter.splitType_eq_iff.mpr hsplits]
    exact Converters.choose_of_several hseveral
  · intro habove f hanswer
    by_contra hf
    obtain ⟨type, -, e, he, hnot⟩ := hfault f hanswer (by simpa using hf)
    obtain ⟨hmem, hserves, -⟩ := Converters.mem_candidates.mp he
    simp [habove e hmem hserves.2] at hnot

/-- Two converters of the host for one type, one for all messages and one for those that are
texts. -/
def overlapping : Converters :=
  ⟨[⟨"user", .object, .string, false⟩, ⟨"user", .plainText, .string, false⟩], .empty⟩

/-- A command with a parameter of the type of these converters. -/
def greet : Command where
  id := 0
  callback := "greet"
  label := "greet"
  aliases := ["greet"]
  description := .null
  usage := some "<u:user>"
  asynchronous := .bool false
  chain := .everyone

lemma parse_usage_greet :
    Usage.parse "<u:user>" = .ok ⟨"<u:user>", .placeholder "u:user" 0⟩ := by
  rw [Usage.parse_eq_ok_iff]
  cbv

lemma check_greet : (start (some overlapping) .object).check
    ⟨"<u:user>", .placeholder "u:user" 0⟩ = .ok () := by
  rfl

/-- A registry of the command with these converters. -/
def greeters : Registry where
  commands := .ofList [("greet", greet)]
  matcher := .ofAliases ["greet"]
  converters := some overlapping
  messageClass := .object

lemma add_greet : (add (some greet)).on (start (some overlapping) .object, Demo.State.start) =
    (.ok (), greeters, .start) := by
  simp [add, greet, Value.ofText?, Usage.loadIfAny, Usage.load, Usage.ofValue, parse_usage_greet,
    check_greet, Journal.note]
  rfl

/-- What the host makes of a text is the text. -/
def keepText : Converter.HostConversion Command Demo.State := fun _ text _ _ => return .text text

/-- The context of a greeting, for a message that is known by its class or by its text. -/
def greeting (message : Value) : Context Command where
  message := message
  content := "!greet bob"
  parameterString := some "bob"

/-- A message of the class of the registry finds its converter. -/
theorem parse_configured_greet :
    (add (some greet)).on (start (some overlapping) .object, Demo.State.start) =
      (.ok (), greeters, .start) ∧
    ∀ f, ((Parser.parse keepText (greeting (.ofClass .object)) (.ofText? greet.usage)).on
        (.typed overlapping, .start)).1 = .error (.fault f) →
      f.kind.isBelow .converterConfiguration = false := by
  obtain ⟨h, -⟩ := parse_configured add_greet rfl overlapping.entries [] .start rfl
    keepText (greeting (.ofClass .object))
  exact ⟨add_greet, h rfl⟩

/-- A message that is a text is one of the class of the registry, but finds several converters. -/
theorem parse_greet_ambiguous :
    (add (some greet)).on (start (some overlapping) .object, Demo.State.start) =
      (.ok (), greeters, .start) ∧
    (greeting (.text "!greet bob")).message.messageClass.isBelow .object = true ∧
    ((Parser.parse keepText (greeting (.text "!greet bob")) (.ofText? greet.usage)).on
        (.typed overlapping, .start)).1 =
      .error (.fault (ambiguousConverter "user" (.text "<u:user>"))) := by
  refine ⟨add_greet, rfl, ?_⟩
  have hmatch : (Pattern.ofUsage ⟨"<u:user>", .placeholder "u:user" 0⟩).captures? "bob" =
      some [⟨.numbered "u:user" false 0, "bob"⟩] := by decide +kernel
  have hcaptures : capturesOf (greeting (.text "!greet bob")) (.ofText? greet.usage) =
      .ok [⟨.numbered "u:user" false 0, "bob"⟩] := by
    show capturesOf _ (.text "<u:user>") = _
    rw [Parser.capturesOf_text parse_usage_greet]
    simp [greeting, hmatch]
  have hread : ∀ text, greet.usage = some text → ∃ u, Usage.parse text = .ok u := by
    rintro text ⟨⟩
    exact ⟨_, parse_usage_greet⟩
  have hsound : overlapping.Sound := Converters.sound_of_remembered_empty rfl
  obtain ⟨u, -, hiff⟩ := (Parser.coherent_typed hsound).of_converterConfiguration rfl hread keepText
    (greeting (.text "!greet bob")) .start
  refine ((hiff _).mpr ⟨[], _, [], [], u, hcaptures, .nil, rfl, ?_⟩).1
  have hsplit : Converter.splitType "u:user" = ("u", "user") :=
    Converter.splitType_eq_iff.mpr (Or.inl ⟨by decide, by decide⟩)
  show choose _ (Converter.splitType "u:user").2 .plainText _ = _
  rw [hsplit]
  exact Converters.choose_of_several (by decide)

end Registry

end ChatCommands
