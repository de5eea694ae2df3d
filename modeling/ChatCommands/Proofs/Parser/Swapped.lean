import ChatCommands.Proofs.Parser.Kept
import ChatCommands.Proofs.Pattern.Swapped

/-!
# Fixing up after a swapped choice

A usage that tries a placeholder before a literal accepts what it would with the literal first, and
fixing up its parameters comes to those of the other usage.

Main statement: `parse_swapped`.
-/

namespace ChatCommands.Parser

variable {κ σ : Type} [Journal σ]

/-- The parameters of an untyped parser are the captured texts. -/
lemma collect_untypedPair (captures : List Pattern.Capture) :
    Parameters.collect (captures.map untypedPair) =
      Parameters.textual (captures.map Pattern.Capture.entry) := by
  rw [Parameters.textual, List.map_map]
  rfl

/-- Under a usage, an untyped parser accepts what the pattern of the usage matches. -/
lemma parse_untyped {source : String} {u : Usage} (hu : Usage.parse source = .ok u)
    (calls : List (Call κ σ)) (s : σ) (host : Converter.HostConversion κ σ) (context : Context κ) :
    ((parse host context (.text source)).on (after (untyped, s) calls)).1 =
      match (Pattern.ofUsage u).captures? (context.parameterString.getD "") with
      | none => .error (wrongArguments (commandText context) u.source)
      | some captures => .ok (Parameters.textual (captures.map Pattern.Capture.entry)) := by
  obtain ⟨hcoherent, hsome⟩ := coherent_untyped.after s calls
  have hregistered : (after (untyped, s) calls).1.registered = none := by
    simpa [registered, untyped] using hsome
  rw [hcoherent.parse_of_untyped hregistered, capturesOf_text hu]
  cases (Pattern.ofUsage u).captures? (context.parameterString.getD "") with
  | none => rfl
  | some captures => exact congrArg Except.ok (collect_untypedPair captures)

/-- Take a usage with one choice between a placeholder and a literal without blanks, whose names no
other part of it has, and the usage that differs from it in trying the literal first. After any
calls, an untyped parser accepts the same texts under both, and fixing up the parameters under the
first usage comes to those under the second. Fixing up a second time changes nothing. -/
theorem parse_swapped (placeholder literal source₁ source₂ : String) (u₁ u₂ : Usage)
    (hu₁ : Usage.parse source₁ = .ok u₁) (hu₂ : Usage.parse source₂ = .ok u₂)
    (hswapped : Term.Swapped placeholder literal u₁.expression u₂.expression)
    (hone : u₁.expression.walk.countP (Term.isChoice placeholder literal) = 1)
    (hliteral : ∀ c ∈ literal.toList, Text.isSolid c) (calls₁ calls₂ : List (Call κ σ))
    (s₁ s₂ : σ) (host : Converter.HostConversion κ σ) (context : Context κ) :
    let r₁ := ((parse host context (.text source₁)).on (after (untyped, s₁) calls₁)).1
    let r₂ := ((parse host context (.text source₂)).on (after (untyped, s₂) calls₂)).1
    ((∃ p₁, r₁ = .ok p₁) ↔ ∃ p₂, r₂ = .ok p₂) ∧
    ∀ p₁ p₂, r₁ = .ok p₁ → r₂ = .ok p₂ →
      ∃ q, p₁.fixup (some placeholder) (some literal) = .ok q ∧ q.same p₂ = true ∧
        (∀ name, q.get? (some name) = p₂.get? (some name)) ∧
        q.fixup (some placeholder) (some literal) = .ok q := by
  intro r₁ r₂
  have hr₁ : r₁ = _ := parse_untyped hu₁ calls₁ s₁ host context
  have hr₂ : r₂ = _ := parse_untyped hu₂ calls₂ s₂ host context
  have hmoves := Pattern.moves_captures? hliteral hswapped (context.parameterString.getD "")
  cases hxs : (Pattern.ofUsage u₁).captures? (context.parameterString.getD "") with
  | none =>
    rw [hxs] at hr₁ hmoves
    rw [Option.map_eq_none_iff.mp hmoves] at hr₂
    simp [hr₁, hr₂]
  | some xs =>
    rw [hxs] at hr₁ hmoves
    obtain ⟨ys, hys, hentries⟩ := Option.map_eq_some_iff.mp hmoves
    rw [hys] at hr₂
    refine ⟨⟨fun _ => ⟨_, hr₂⟩, fun _ => ⟨_, hr₁⟩⟩, fun p₁ p₂ hp₁ hp₂ => ?_⟩
    obtain rfl := Except.ok.inj (hr₁.symm.trans hp₁)
    obtain rfl := Except.ok.inj (hr₂.symm.trans hp₂)
    have hcount := Pattern.countP_entries_le (Usage.parse_eq_ok_iff.mp hu₁) hswapped hxs
    rw [hone] at hcount
    obtain ⟨q, hfixup, hsame, hget⟩ := Parameters.exists_fixup_textual hcount
    have hmap : (xs.map Pattern.Capture.entry).map (Parameters.moved placeholder literal) =
        ys.map Pattern.Capture.entry := by
      rw [hentries, List.map_map]
      rfl
    rw [hmap] at hsame hget
    exact ⟨q, hfixup, hsame, hget, Parameters.fixup_fixup rfl hfixup⟩

/-- A usage that tries a placeholder before a literal. -/
def userFirst : Usage where
  source := "(<user> | 'all') [<n>]"
  expression := .sequence [.alternatives [.placeholder "user" 1, .literal "all" 10] 0,
    .optional (.placeholder "n" 18) 17] 0

/-- The same usage with the literal first. -/
def allFirst : Usage where
  source := "('all' | <user>) [<n>]"
  expression := .sequence [.alternatives [.literal "all" 1, .placeholder "user" 9] 0,
    .optional (.placeholder "n" 18) 17] 0

/-- A context whose first parameter is the text of the literal. -/
def allThree : Context Command where
  message := .text "!show all 3"
  content := "!show all 3"
  parameterString := some "all 3"

theorem parse_swapped_all :
    Usage.parse userFirst.source = .ok userFirst ∧ Usage.parse allFirst.source = .ok allFirst ∧
    Term.Swapped "user" "all" userFirst.expression allFirst.expression ∧
    userFirst.expression.walk.countP (Term.isChoice "user" "all") = 1 ∧
    (∀ c ∈ "all".toList, Text.isSolid c) ∧
    ∃ p₁ p₂ q,
      ((parse echo allThree (.text userFirst.source)).on (untyped, Demo.State.start)).1 = .ok p₁ ∧
      p₁.get? (some "user") = some (.text "all") ∧
      ((parse echo allThree (.text allFirst.source)).on
        (after (untyped, Demo.State.start) mixedCalls)).1 = .ok p₂ ∧
      p₂.get? (some "all") = some (.text "all") ∧
      p₁.fixup (some "user") (some "all") = .ok q ∧ q.same p₂ = true ∧
      q.fixup (some "user") (some "all") = .ok q := by
  have hu₁ : Usage.parse userFirst.source = .ok userFirst := by cbv
  have hu₂ : Usage.parse allFirst.source = .ok allFirst := by cbv
  have hswapped : Term.Swapped "user" "all" userFirst.expression allFirst.expression :=
    .sequence (.cons (.choice ..)
      (.cons (.optional (.placeholder (by decide) (by decide) _ _) _ _) .nil)) _ _
  have hsolid : ∀ c ∈ "all".toList, Text.isSolid c := List.all_eq_true.mp (by decide)
  have hmatch₁ : (Pattern.ofUsage userFirst).captures? (allThree.parameterString.getD "") =
      some [⟨.numbered "user" false 0, "all"⟩, ⟨.numbered "n" false 0, "3"⟩] := by decide +kernel
  have hmatch₂ : (Pattern.ofUsage allFirst).captures? (allThree.parameterString.getD "") =
      some [⟨.numbered "all" true 0, "all"⟩, ⟨.numbered "n" false 0, "3"⟩] := by decide +kernel
  have hr₁ := parse_untyped hu₁ [] Demo.State.start echo allThree
  have hr₂ := parse_untyped hu₂ mixedCalls Demo.State.start echo allThree
  rw [hmatch₁] at hr₁
  rw [hmatch₂] at hr₂
  obtain ⟨q, hfixup, hsame, -, hagain⟩ := (parse_swapped "user" "all" _ _ _ _ hu₁ hu₂ hswapped rfl
    hsolid [] mixedCalls Demo.State.start Demo.State.start echo allThree).2 _ _ hr₁ hr₂
  exact ⟨hu₁, hu₂, hswapped, rfl, hsolid, _, _, q, hr₁, rfl, hr₂, rfl, hfixup, hsame, hagain⟩

end ChatCommands.Parser
