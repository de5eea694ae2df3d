import ChatCommands.Usage.SyntaxError

/-!
# Splitting a usage into tokens

The tokens of a usage tile it: each stands at its position in its written form, and only blanks lie
between them.
-/

namespace ChatCommands.Usage

/-- The tokens of the part `cs` of a usage that starts at `position`. -/
def tokensFrom (position : Nat) (cs : List Char) : Except SyntaxError (List Token) :=
  match cs with
  | [] => .ok [⟨.finish, position⟩]
  | c :: rest =>
    if Text.isBlank c then tokensFrom (position + 1) rest
    else
      match Mark.ofChar? c with
      | some m => (tokensFrom (position + 1) rest).map (⟨.mark m, position⟩ :: ·)
      | none =>
        if c = '<' then
          let name := rest.takeWhile (· ≠ '>')
          match h : rest.dropWhile (· ≠ '>') with
          | [] => .error (.openPlaceholder position (String.ofList cs))
          | _ :: after =>
            match Lexeme.ofName? name with
            | none =>
              .error (.emptyPlaceholder position (String.ofList ('<' :: name ++ ['>'])))
            | some lexeme =>
              have : after.length < rest.length := by
                have := (List.dropWhile_sublist (l := rest) (· ≠ '>')).length_le
                rw [h] at this
                exact this
              (tokensFrom (position + name.length + 2) after).map (⟨lexeme, position⟩ :: ·)
        else if c = '\'' then
          let text := rest.takeWhile (· ≠ '\'')
          match h : rest.dropWhile (· ≠ '\'') with
          | [] => .error (.openLiteral position (String.ofList cs))
          | _ :: after =>
            if text.isEmpty then .error (.emptyLiteral position)
            else
              have : after.length < rest.length := by
                have := (List.dropWhile_sublist (l := rest) (· ≠ '\'')).length_le
                rw [h] at this
                exact this
              (tokensFrom (position + text.length + 2) after).map
                (⟨.literal (String.ofList text), position⟩ :: ·)
        else .error (.strayCharacter position c)
termination_by cs.length

/-- The tokens of a usage; the last one marks its end. -/
def tokenize (usage : String) : Except SyntaxError (List Token) := tokensFrom 0 usage.toList

end ChatCommands.Usage
