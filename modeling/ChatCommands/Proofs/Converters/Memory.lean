import ChatCommands.Proofs.Converters.Choice
import ChatCommands.Proofs.Converters.Registration

/-!
# Remembered answers

Converters remember what they chose until the next registration. A remembered answer is the one that
would be chosen anew, so that what is registered decides every answer.

Main statements: `Sound.resolve_eq`, `Sound.after`, `resolve_after`.
-/

namespace ChatCommands.Converters

variable {cs ds : Converters} {calls : List Call} {type : String} {message usage : Value}

/-- What is remembered is what would be chosen. -/
def Sound (cs : Converters) : Prop :=
  ∀ type cls c, cs.remembered.get? (type, cls) = some c →
    ∀ usage, choose cs.entries type cls usage = .ok c

lemma sound_of_remembered_empty (h : cs.remembered = .empty) : cs.Sound := by
  intro type cls c hc
  rw [h] at hc
  cases hc

/-- With or without an answer remembered, the answer is the one chosen among what is registered. -/
lemma Sound.resolve_eq (h : cs.Sound) (type : String) (message usage : Value) :
    (cs.resolve type message usage).1 = choose cs.entries type message.messageClass usage := by
  simp only [resolve]
  split
  case h_1 c hc => exact (h _ _ _ hc usage).symm
  case h_2 =>
    cases choose cs.entries type message.messageClass usage <;> rfl

/-! ### What keeps the memory sound -/

/-- Where the usage is named does not decide what is chosen. -/
lemma choose_usage {entries : List Registration} {cls : MessageClass} {c : Converter}
    {usage' : Value} (h : choose entries type cls usage = .ok c) :
    choose entries type cls usage' = .ok c :=
  choose_eq_ok_iff.mpr (choose_eq_ok_iff.mp h)

lemma Sound.resolve (h : cs.Sound) (type : String) (message usage : Value) :
    (cs.resolve type message usage).2.Sound := by
  simp only [Converters.resolve]
  split
  · exact h
  split
  case h_2 => exact h
  case h_1 c hchoose =>
    intro type' cls' c' hc' usage'
    rcases Table.get?_set_eq_some_iff.mp hc' with ⟨hkey, rfl⟩ | ⟨-, hc'⟩
    · obtain ⟨rfl, rfl⟩ := Prod.mk.inj hkey
      exact choose_usage hchoose
    · exact h _ _ _ hc' usage'

lemma sound_of_register {r : Request} (h : cs.register r = .ok ds) : ds.Sound := by
  obtain ⟨-, -, rfl⟩ := register_eq_ok_iff.mp h
  exact sound_of_remembered_empty rfl

lemma Sound.perform (h : cs.Sound) (call : Call) : (cs.perform call).Sound := by
  cases call with
  | register r =>
    rw [Converters.perform]
    split
    case h_1 ds hregister => exact sound_of_register hregister
    case h_2 => exact h
  | resolve type message usage => exact h.resolve type message usage

lemma Sound.after (h : cs.Sound) (calls : List Call) : (cs.after calls).Sound := by
  induction calls generalizing cs with
  | nil => exact h
  | cons call calls ih => exact ih (h.perform call)

/-! ### Answers after any calls -/

/-- After any calls, the answer is the one chosen among what the requests that were met have
registered. -/
lemma resolve_after_eq (entries : List Registration) (calls : List Call) (type : String)
    (message usage : Value) :
    (((⟨entries, .empty⟩ : Converters).after calls).resolve type message usage).1 =
      choose (entries ++ (accepted ⟨entries, .empty⟩ calls).flatMap Request.registrations) type
        message.messageClass usage := by
  rw [((sound_of_remembered_empty rfl).after calls).resolve_eq, entries_after]

/-- Whatever was registered and asked before, a type and a message get the one converter that counts
among all that was registered; if none counts it is missing, and if several do it is ambiguous.
Neither the order of registration nor a request that was refused makes a difference. -/
theorem resolve_after (entries : List Registration) (calls : List Call) (type : String)
    (message usage : Value) :
    let start : Converters := ⟨entries, .empty⟩
    let known := entries ++ (start.accepted calls).flatMap Request.registrations
    let counting := known.filter fun e => e.Counts known type message.messageClass
    let answer := ((start.after calls).resolve type message usage).1
    (∀ e, counting = [e] → answer = .ok e.converter) ∧
    (counting = [] → answer = .error (.fault (missingConverter type usage))) ∧
    (2 ≤ counting.length → answer = .error (.fault (ambiguousConverter type usage))) ∧
    (∀ others, (start.accepted others).Perm (start.accepted calls) →
      ((start.after others).resolve type message usage).1 = answer) ∧
    ∀ earlier r later e, calls = earlier ++ .register r :: later →
      (start.after earlier).register r = .error e →
      ((start.after (earlier ++ later)).resolve type message usage).1 = answer := by
  intro start known counting answer
  have hanswer : answer = choose known type message.messageClass usage :=
    resolve_after_eq entries calls type message usage
  have hcounting : counting = candidates known type message.messageClass :=
    candidates_eq_filter.symm
  rw [hcounting, hanswer]
  refine ⟨fun e => choose_of_single, choose_of_none, choose_of_several, fun others hperm => ?_,
    fun earlier r later e hcalls hrefused => ?_⟩
  · rw [resolve_after_eq]
    exact choose_perm ((hperm.flatMap_right _).append_left entries)
  · have hskip : start.after (earlier ++ later) = start.after calls := by
      rw [hcalls, after_append, after_append, after, perform, hrefused]
    rw [hskip, resolve_after_eq]

end ChatCommands.Converters
