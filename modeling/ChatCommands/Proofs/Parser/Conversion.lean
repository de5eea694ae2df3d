import ChatCommands.Proofs.Parser.Captures

/-!
# Conversion of captures

A typed parser captures what an untyped one captures, and goes through the captures from left to
right. A literal stands for its text. The text of a placeholder is converted by the converter of its
type, and the first placeholder that has no converter or that its converter does not convert decides
the error.

Main statements: `splitType_eq_iff`, `Coherent.on_typedPair`, `Coherent.on_typedPairs`.
-/

namespace ChatCommands

/-! ### Types of placeholders -/

namespace Converter

/-- The name of a placeholder is what stands before its last colon, and its type what stands after
it. A placeholder without a colon has the type of texts. -/
def Splits (full name type : String) : Prop :=
  full = name ++ ":" ++ type ∧ ':' ∉ type.toList ∨
    ':' ∉ full.toList ∧ name = full ∧ type = defaultType

variable {cs head tail : List Char} {full name type : String}

lemma splitLastColon?_eq_none_iff : splitLastColon? cs = none ↔ ':' ∉ cs := by
  induction cs with
  | nil => simp [splitLastColon?]
  | cons c cs ih =>
    rw [splitLastColon?]
    cases hcs : splitLastColon? cs with
    | none =>
      have hnot : ':' ∉ cs := ih.mp hcs
      by_cases hc : c = ':'
      · simp [hc]
      · simp [hc, hnot, eq_comm]
    | some parts =>
      have hmem : ':' ∈ cs := by
        by_contra hnot
        rw [ih.mpr hnot] at hcs
        cases hcs
      simp [hmem]

lemma splitLastColon?_append (head : List Char) (h : ':' ∉ tail) :
    splitLastColon? (head ++ ':' :: tail) = some (head, tail) := by
  induction head with
  | nil => simp [splitLastColon?, splitLastColon?_eq_none_iff.mpr h]
  | cons c head ih => simp [splitLastColon?, ih]

lemma of_splitLastColon?_eq_some (h : splitLastColon? cs = some (head, tail)) :
    cs = head ++ ':' :: tail ∧ ':' ∉ tail := by
  fun_induction splitLastColon? cs generalizing head with
  | case1 => cases h
  | case2 c cs head' tail' hcs ih =>
    cases h
    obtain ⟨rfl, hnot⟩ := ih hcs
    exact ⟨rfl, hnot⟩
  | case3 cs hcs ih =>
    cases h
    exact ⟨rfl, splitLastColon?_eq_none_iff.mp hcs⟩
  | case4 c cs hcs hc ih => cases h

lemma splitType_eq_iff : splitType full = (name, type) ↔ Splits full name type := by
  rw [splitType]
  cases hfull : splitLastColon? full.toList with
  | none =>
    have hnot := splitLastColon?_eq_none_iff.mp hfull
    constructor
    · rintro ⟨⟩
      exact Or.inr ⟨hnot, rfl, rfl⟩
    · rintro (⟨rfl, -⟩ | ⟨-, rfl, rfl⟩)
      · simp at hnot
      · rfl
  | some parts =>
    obtain ⟨head, tail⟩ := parts
    obtain ⟨heq, htail⟩ := of_splitLastColon?_eq_some hfull
    constructor
    · intro h
      obtain ⟨rfl, rfl⟩ := Prod.mk.inj h
      refine Or.inl ⟨?_, by simpa using htail⟩
      apply String.toList_injective
      simp [heq]
    · rintro (⟨rfl, htype⟩ | ⟨hnot, -⟩)
      · have hsplit := splitLastColon?_append name.toList htype
        rw [String.toList_append, String.toList_append, List.append_assoc] at hfull
        obtain ⟨rfl, rfl⟩ := Prod.mk.inj (Option.some.inj (hfull.symm.trans hsplit))
        simp
      · rw [heq] at hnot
        simp at hnot

lemma splits_splitType (full : String) : Splits full (splitType full).1 (splitType full).2 :=
  splitType_eq_iff.mp rfl

end Converter

/-! ### What a capture comes to -/

/-- The class of a fault keeps the message and the options that its constructor is given, as all
classes of the library do. -/
def Fault.Keeps (f : Fault) : Prop :=
  ∀ message options, f.construct message options = .ok (message, options)

/-- A fault of the library keeps what it is given, and so does one of a class without a constructor
of its own. -/
lemma Fault.keeps_of_derived_eq_none {f : Fault} (h : f.derived = none) : f.Keeps := by
  intro message options
  rw [construct, h]

namespace Parser

variable {κ σ : Type}

/-- The options of a fault of a converter with the parameter that it is for. -/
def aboutParameter (f : Fault) (name text : String) : Table String Value :=
  (f.options.set "parameter_name" (.text name)).set "parameter_value" (.text text)

/-- What the outcome of a converter is for the placeholder that it was called for. -/
inductive Turns (converter : Converter) (name text : String) :
    Except Error Value → Except Error (String × Value) → Prop
  | converted {v : Value} (hv : v ≠ .null) : Turns converter name text (.ok v) (.ok (name, v))
  /-- Nothing is no value of a parameter. -/
  | nothing : Turns converter name text (.ok .null)
      (.error (.misuse (.convertedToNothing converter.shown name)))
  /-- A failure to parse stays what it is, and names the parameter and its text now. -/
  | refused {f : Fault} (hf : f.kind.isBelow .parameterParse = true) (hkeeps : f.Keeps) :
      Turns converter name text (.error (.fault f))
        (.error (.fault {
          kind := f.kind
          message := f.message
          options := aboutParameter f name text
          cause := some (Error.fault f).cls
          derived := f.derived }))
  /-- If the class of the failure has a constructor that does not keep what it is given, it says and
  names what this makes of it. -/
  | remade {f : Fault} {message : Option String} {options : Table String Value}
      (hf : f.kind.isBelow .parameterParse = true) (hkeeps : ¬ f.Keeps)
      (hmade : f.construct f.message (aboutParameter f name text) = .ok (message, options)) :
      Turns converter name text (.error (.fault f))
        (.error (.fault {
          kind := f.kind
          message := message
          options := options
          cause := some (Error.fault f).cls
          derived := f.derived }))
  /-- If that constructor fails, its error counts. -/
  | unmade {f : Fault} {cls : String} {message : Option String}
      (hf : f.kind.isBelow .parameterParse = true)
      (hmade : f.construct f.message (aboutParameter f name text) = .error (cls, message)) :
      Turns converter name text (.error (.fault f)) (.error (.foreign cls message))
  /-- Any other error leads to a failure to parse. -/
  | crashed {e : Error} (he : ∀ f, e = .fault f → f.kind.isBelow .parameterParse = false) :
      Turns converter name text (.error e)
        (.error (.fault {
          kind := .parameterParse
          message := some ("Exception during conversion of value '" ++ text ++
            "' for parameter '" ++ name ++ "'")
          options := ⟨[("code", .code .conversionFailed), ("parameter_name", .text name),
            ("parameter_value", .text text)]⟩
          cause := some e.cls }))

section

variable (host : Converter.HostConversion κ σ) (known : List Registration) (context : Context κ)
  (usage : Value)

/-- What a capture comes to on a state of the host, and the state that is left. -/
inductive Yields (c : Pattern.Capture) (s : σ) : Except Error (String × Value) → σ → Prop
  | literal (hliteral : c.slot.isLiteral = true) : Yields c s (.ok (c.slot.name, .text c.text)) s
  | unresolved {name type : String} {e : Error} (hliteral : c.slot.isLiteral = false)
      (hsplits : Converter.Splits c.slot.name name type)
      (hchoose : Converters.choose known type context.message.messageClass usage = .error e) :
      Yields c s (.error e) s
  | resolved {name type : String} {converter : Converter} {outcome : Except Error Value}
      {r : Except Error (String × Value)} {t : σ} (hliteral : c.slot.isLiteral = false)
      (hsplits : Converter.Splits c.slot.name name type)
      (hchoose : Converters.choose known type context.message.messageClass usage = .ok converter)
      (hconvert : (converter.convert host c.text type context).on s = (outcome, t))
      (hturns : Turns converter name c.text outcome r) : Yields c s r t

/-- Captures come to values one after another. -/
inductive YieldsAll : List Pattern.Capture → σ → List (String × Value) → σ → Prop
  | nil {s : σ} : YieldsAll [] s [] s
  | cons {c : Pattern.Capture} {cs : List Pattern.Capture} {pair : String × Value}
      {pairs : List (String × Value)} {s t u : σ}
      (head : Yields host known context usage c s (.ok pair) t) (tail : YieldsAll cs t pairs u) :
      YieldsAll (c :: cs) s (pair :: pairs) u

/-- Of captures, the first ones come to values and the next one comes to an error. -/
def Fails (captures : List Pattern.Capture) (s : σ) (e : Error) (u : σ) : Prop :=
  ∃ before c after pairs t, captures = before ++ c :: after ∧
    YieldsAll host known context usage before s pairs t ∧
      Yields host known context usage c t (.error e) u

end

variable {host : Converter.HostConversion κ σ} {known : List Registration} {context : Context κ}
  {usage : Value} {converter : Converter} {name text : String} {outcome : Except Error Value}
  {r r' : Except Error (String × Value)} {c : Pattern.Capture} {cs : List Pattern.Capture}
  {p : Parser} {s t t' u : σ} {e : Error}

/-! ### What a converter's outcome comes to -/

section

variable {f : Fault} {message : Option String} {options : Table String Value} {cls : String}

lemma merge_parameter (f : Fault) (name text : String) :
    f.options.merge (.ofList [("parameter_name", .text name), ("parameter_value", .text text)]) =
      aboutParameter f name text := by
  simp [aboutParameter, Table.merge, Table.ofList, Table.set, Table.setIn, Table.empty]

lemma conversionFailure_of_ok (hf : f.kind.isBelow .parameterParse = true)
    (hmade : f.construct f.message (aboutParameter f name text) = .ok (message, options)) :
    conversionFailure name text (.fault f) = .fault {
      kind := f.kind
      message := message
      options := options
      cause := some (Error.fault f).cls
      derived := f.derived } := by
  simp [conversionFailure, Error.parameterFault?, hf, Fault.replace, merge_parameter, hmade]

lemma conversionFailure_of_error (hf : f.kind.isBelow .parameterParse = true)
    (hmade : f.construct f.message (aboutParameter f name text) = .error (cls, message)) :
    conversionFailure name text (.fault f) = .foreign cls message := by
  simp [conversionFailure, Error.parameterFault?, hf, Fault.replace, merge_parameter, hmade]

lemma conversionFailure_of_other (he : ∀ f, e = .fault f → f.kind.isBelow .parameterParse = false) :
    conversionFailure name text e = .fault {
      kind := .parameterParse
      message := some ("Exception during conversion of value '" ++ text ++
        "' for parameter '" ++ name ++ "'")
      options := ⟨[("code", .code .conversionFailed), ("parameter_name", .text name),
        ("parameter_value", .text text)]⟩
      cause := some e.cls } := by
  cases e <;>
    simp_all [conversionFailure, Error.parameterFault?, Table.merge, Table.ofList, Table.set,
      Table.setIn, Table.empty]

end

/-- The fault of a converter that failed says what failed, for which parameter. -/
lemma turns_conversionFailure (converter : Converter) (name text : String) (e : Error) :
    Turns converter name text (.error e) (.error (conversionFailure name text e)) := by
  by_cases hf : ∃ f, e = .fault f ∧ f.kind.isBelow .parameterParse = true
  · obtain ⟨f, rfl, hf⟩ := hf
    by_cases hkeeps : f.Keeps
    · rw [conversionFailure_of_ok hf (hkeeps _ _)]
      exact .refused hf hkeeps
    · rcases hmade : f.construct f.message (aboutParameter f name text) with
        ⟨cls, message⟩ | ⟨message, options⟩
      · rw [conversionFailure_of_error hf hmade]
        exact .unmade hf hmade
      · rw [conversionFailure_of_ok hf hmade]
        exact .remade hf hkeeps hmade
  · have hother : ∀ f, e = .fault f → f.kind.isBelow .parameterParse = false := by
      intro f he
      by_contra hnot
      exact hf ⟨f, he, by simpa using hnot⟩
    rw [conversionFailure_of_other hother]
    exact .crashed hother

/-- No other fault comes of a failure. -/
lemma Turns.eq_conversionFailure (h : Turns converter name text (.error e) r) :
    r = .error (conversionFailure name text e) := by
  cases h with
  | refused hf hkeeps => rw [conversionFailure_of_ok hf (hkeeps _ _)]
  | remade hf _ hmade => rw [conversionFailure_of_ok hf hmade]
  | unmade hf hmade => rw [conversionFailure_of_error hf hmade]
  | crashed he => rw [conversionFailure_of_other he]

lemma Turns.unique (h : Turns converter name text outcome r)
    (h' : Turns converter name text outcome r') : r = r' := by
  cases outcome with
  | error e => rw [h.eq_conversionFailure, h'.eq_conversionFailure]
  | ok v =>
    cases h with
    | converted hv =>
      cases h' with
      | converted => rfl
      | nothing => exact absurd rfl hv
    | nothing =>
      cases h' with
      | converted hv => exact absurd rfl hv
      | nothing => rfl

lemma Yields.unique (h : Yields host known context usage c s r t)
    (h' : Yields host known context usage c s r' t') : r = r' ∧ t = t' := by
  have hname : ∀ {name type name' type' : String}, Converter.Splits c.slot.name name type →
      Converter.Splits c.slot.name name' type' → name = name' ∧ type = type' := by
    intro name type name' type' hs hs'
    rw [← Converter.splitType_eq_iff] at hs hs'
    exact Prod.mk.inj (hs.symm.trans hs')
  cases h with
  | literal hliteral =>
    cases h' with
    | literal => exact ⟨rfl, rfl⟩
    | unresolved hnot | resolved hnot => simp [hliteral] at hnot
  | unresolved hnot hsplits hchoose =>
    cases h' with
    | literal hliteral => simp [hliteral] at hnot
    | unresolved _ hsplits' hchoose' =>
      obtain ⟨rfl, rfl⟩ := hname hsplits hsplits'
      obtain rfl := Except.error.inj (hchoose.symm.trans hchoose')
      exact ⟨rfl, rfl⟩
    | resolved _ hsplits' hchoose' =>
      obtain ⟨rfl, rfl⟩ := hname hsplits hsplits'
      cases hchoose.symm.trans hchoose'
  | resolved hnot hsplits hchoose hconvert hturns =>
    cases h' with
    | literal hliteral => simp [hliteral] at hnot
    | unresolved _ hsplits' hchoose' =>
      obtain ⟨rfl, rfl⟩ := hname hsplits hsplits'
      cases hchoose.symm.trans hchoose'
    | resolved _ hsplits' hchoose' hconvert' hturns' =>
      obtain ⟨rfl, rfl⟩ := hname hsplits hsplits'
      obtain rfl := Except.ok.inj (hchoose.symm.trans hchoose')
      obtain ⟨rfl, rfl⟩ := Prod.mk.inj (hconvert.symm.trans hconvert')
      exact ⟨hturns.unique hturns', rfl⟩

/-! ### What a typed parser does -/

lemma Coherent.on_resolve (h : p.Coherent) (hk : p.registered = some known) (type : String)
    (message usage : Value) (s : σ) :
    ∃ q, (resolve type message usage).on (p, s) =
        (Converters.choose known type message.messageClass usage, q, s) ∧
      q.Coherent ∧ q.registered = some known := by
  obtain ⟨cs, hcs, rfl⟩ := Option.map_eq_some_iff.mp hk
  have hsound := h.sound hcs
  refine ⟨{ p with converters := some (cs.resolve type message usage).2 }, ?_,
    h.withConverters (hsound.resolve type message usage), ?_⟩
  · rw [← hsound.resolve_eq]
    simp [resolve, hcs]
  · simp [registered]

/-- A typed parser makes of a capture what it comes to among the registrations. -/
lemma Coherent.on_typedPair (h : p.Coherent) (hk : p.registered = some known)
    (host : Converter.HostConversion κ σ) (context : Context κ) (usage : Value)
    (c : Pattern.Capture) (s : σ) :
    ∃ r q t, (typedPair host context usage c).on (p, s) = (r, q, t) ∧
      Yields host known context usage c s r t ∧ q.Coherent ∧ q.registered = some known := by
  by_cases hliteral : c.slot.isLiteral = true
  · refine ⟨_, p, s, ?_, .literal hliteral, h, hk⟩
    simp [typedPair, hliteral]
  have hnot : c.slot.isLiteral = false := by simpa using hliteral
  rcases hsplit : Converter.splitType c.slot.name with ⟨name, type⟩
  have hsplits := Converter.splitType_eq_iff.mp hsplit
  obtain ⟨q, hresolve, hq, hkq⟩ := h.on_resolve hk type context.message usage s
  cases hchoose : Converters.choose known type context.message.messageClass usage with
  | error e =>
    refine ⟨_, q, s, ?_, .unresolved hnot hsplits hchoose, hq, hkq⟩
    simp [typedPair, hnot, hsplit, hresolve, hchoose]
  | ok converter =>
    rcases hconvert : (converter.convert host c.text type context).on s with ⟨e | v, t⟩
    · refine ⟨_, q, t, ?_, .resolved hnot hsplits hchoose hconvert
        (turns_conversionFailure converter name c.text e), hq, hkq⟩
      simp [typedPair, hnot, hsplit, hresolve, hchoose, Act.on_beside, hconvert]
    by_cases hv : v = .null
    · subst hv
      refine ⟨_, q, t, ?_, .resolved hnot hsplits hchoose hconvert .nothing, hq, hkq⟩
      simp [typedPair, hnot, hsplit, hresolve, hchoose, Act.on_beside, hconvert]
    · refine ⟨_, q, t, ?_, .resolved hnot hsplits hchoose hconvert (.converted hv), hq, hkq⟩
      simp [typedPair, hnot, hsplit, hresolve, hchoose, Act.on_beside, hconvert]

/-! ### One capture after another -/

section

variable {pair : String × Value} {pairs : List (String × Value)} {e' : Error}

lemma yieldsAll_nil_iff : YieldsAll host known context usage [] s pairs u ↔ pairs = [] ∧ s = u := by
  constructor
  · rintro ⟨⟩
    exact ⟨rfl, rfl⟩
  · rintro ⟨rfl, rfl⟩
    exact .nil

lemma not_fails_nil : ¬ Fails host known context usage [] s e u := by
  rintro ⟨before, c, after, pairs, t, heq, -⟩
  simp at heq

lemma yieldsAll_cons_iff_of_ok (hc : Yields host known context usage c s (.ok pair) t) :
    YieldsAll host known context usage (c :: cs) s pairs u ↔
      ∃ rest, YieldsAll host known context usage cs t rest u ∧ pairs = pair :: rest := by
  constructor
  · rintro (_ | ⟨hc', htail⟩)
    obtain ⟨⟨⟩, rfl⟩ := hc.unique hc'
    exact ⟨_, htail, rfl⟩
  · rintro ⟨rest, htail, rfl⟩
    exact .cons hc htail

lemma not_yieldsAll_cons_of_error (hc : Yields host known context usage c s (.error e) t) :
    ¬ YieldsAll host known context usage (c :: cs) s pairs u := by
  rintro (_ | ⟨hc', -⟩)
  cases (hc.unique hc').1

lemma fails_cons_iff_of_ok (hc : Yields host known context usage c s (.ok pair) t) :
    Fails host known context usage (c :: cs) s e u ↔ Fails host known context usage cs t e u := by
  constructor
  · rintro ⟨before, d, after, pairs, v, heq, hall, hd⟩
    cases hall with
    | nil =>
      obtain ⟨rfl, rfl⟩ := List.cons.inj heq
      cases (hc.unique hd).1
    | cons hc' htail =>
      obtain ⟨rfl, rfl⟩ := List.cons.inj heq
      obtain ⟨-, rfl⟩ := hc.unique hc'
      exact ⟨_, d, after, _, v, rfl, htail, hd⟩
  · rintro ⟨before, d, after, pairs, v, rfl, hall, hd⟩
    exact ⟨c :: before, d, after, pair :: pairs, v, rfl, .cons hc hall, hd⟩

lemma fails_cons_iff_of_error (hc : Yields host known context usage c s (.error e) t) :
    Fails host known context usage (c :: cs) s e' u ↔ e = e' ∧ t = u := by
  constructor
  · rintro ⟨before, d, after, pairs, v, heq, hall, hd⟩
    cases hall with
    | nil =>
      obtain ⟨rfl, rfl⟩ := List.cons.inj heq
      obtain ⟨he, rfl⟩ := hc.unique hd
      exact ⟨Except.error.inj he, rfl⟩
    | cons hc' htail =>
      obtain ⟨rfl, rfl⟩ := List.cons.inj heq
      cases (hc.unique hc').1
  · rintro ⟨rfl, rfl⟩
    exact ⟨[], c, cs, [], s, rfl, .nil, hc⟩

end

/-- A typed parser ends with the values that the captures come to, or with the error of the first
one that comes to an error. -/
lemma Coherent.on_typedPairs (h : p.Coherent) (hk : p.registered = some known)
    (host : Converter.HostConversion κ σ) (context : Context κ) (usage : Value)
    (cs : List Pattern.Capture) (s : σ) :
    ∃ r q t, (typedPairs host context usage cs).on (p, s) = (r, q, t) ∧
      (∀ pairs u, YieldsAll host known context usage cs s pairs u ↔ r = .ok pairs ∧ t = u) ∧
      (∀ e u, Fails host known context usage cs s e u ↔ r = .error e ∧ t = u) ∧
      q.Coherent ∧ q.registered = some known := by
  induction cs generalizing p s with
  | nil =>
    refine ⟨.ok [], p, s, rfl, fun pairs u => ?_, fun e u => ?_, h, hk⟩
    · simp [yieldsAll_nil_iff, eq_comm]
    · simp [not_fails_nil]
  | cons c cs ih =>
    obtain ⟨r, q, t, hc, hyields, hq, hkq⟩ := h.on_typedPair hk host context usage c s
    cases r with
    | error e =>
      refine ⟨.error e, q, t, ?_, fun pairs u => ?_, fun e' u => ?_, hq, hkq⟩
      · simp [typedPairs, hc]
      · simp [not_yieldsAll_cons_of_error hyields]
      · simp [fails_cons_iff_of_error hyields]
    | ok pair =>
      obtain ⟨r, q', t', hcs, hall, hfails, hq', hkq'⟩ := ih hq hkq t
      refine ⟨r.map (pair :: ·), q', t', ?_, fun pairs u => ?_, fun e' u => ?_, hq', hkq'⟩
      · simp [typedPairs, hc, hcs]
      · rw [yieldsAll_cons_iff_of_ok hyields]
        cases r <;> simp [hall, Except.map, eq_comm, and_comm]
      · rw [fails_cons_iff_of_ok hyields]
        cases r <;> simp [hfails, Except.map]

lemma on_collected_of_untyped (hk : p.registered = none) (host : Converter.HostConversion κ σ)
    (context : Context κ) (usage : Value) (captures : List Pattern.Capture) (s : σ) :
    (collected host context usage captures).on (p, s) =
      (.ok (.collect (captures.map untypedPair)), p, s) := by
  have hnone : p.converters = none := Option.map_eq_none_iff.mp hk
  simp [collected, hnone]

lemma Coherent.on_collected (h : p.Coherent) (hk : p.registered = some known)
    (host : Converter.HostConversion κ σ) (context : Context κ) (usage : Value)
    (captures : List Pattern.Capture) (s : σ) :
    ∃ r q t, (collected host context usage captures).on (p, s) = (r, q, t) ∧
      (∀ parameters u, (∃ pairs, YieldsAll host known context usage captures s pairs u ∧
        parameters = .collect pairs) ↔ r = .ok parameters ∧ t = u) ∧
      (∀ e u, Fails host known context usage captures s e u ↔ r = .error e ∧ t = u) ∧
      q.Coherent ∧ q.registered = some known := by
  obtain ⟨converters, hconverters, -⟩ := Option.map_eq_some_iff.mp hk
  obtain ⟨r, q, t, hrun, hall, hfails, hq, hkq⟩ :=
    h.on_typedPairs hk host context usage captures s
  refine ⟨r.map .collect, q, t, ?_, fun parameters u => ?_, fun e u => ?_, hq, hkq⟩
  · simp [collected, hconverters, hrun]
  · cases r <;> simp [hall, Except.map, eq_comm, and_comm]
  · cases r <;> simp [hfails, Except.map]

end Parser

end ChatCommands
