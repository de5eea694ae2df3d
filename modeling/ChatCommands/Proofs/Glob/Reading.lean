import ChatCommands.Glob.Expr
import ChatCommands.Proofs.Glob.ClassReading

/-!
# Reading the text of an expression

Pieces are read from the front of a text one by one, so that two texts that can be read on their
own are read one after another.

Main statements: `readPieces?_succ`, `read?_append`.
-/

namespace ChatCommands.Glob.Piece

variable {p : Piece} {ps qs : List Piece} {c : Char} {cs ds rest t : List Char} {fuel fuel' : Nat}

/-! ### One piece -/

/-- A class, and the star that makes it a run. -/
def classPiece (cls : CharClass) : List Char → Piece × List Char
  | '*' :: rest => (run cls, rest)
  | rest => (one cls, rest)

lemma classPiece_append {cls : CharClass} (ht : t.head? ≠ some '*') :
    classPiece cls (cs ++ t) = ((classPiece cls cs).1, (classPiece cls cs).2 ++ t) := by
  have hne : ∀ ds : List Char, ds.head? ≠ some '*' → classPiece cls ds = (one cls, ds) :=
    fun ds hds => classPiece.eq_2 cls ds fun _ h => hds (h ▸ rfl)
  match cs with
  | [] => rw [List.nil_append, hne t ht, hne [] (by simp), List.nil_append]
  | c :: cs =>
    by_cases hc : c = '*'
    · rw [hc]
      rfl
    · have hhead : ∀ ds, (c :: ds).head? ≠ some '*' := by simp [hc]
      rw [List.cons_append, hne _ (hhead _), hne _ (hhead _), List.cons_append]

lemma not_isPrefixOf (hc : c ≠ '(') : ¬segmentsText.isPrefixOf (c :: cs) = true := by
  intro h
  obtain ⟨_, h⟩ := List.isPrefixOf_iff_prefix.mp h
  exact hc (List.cons.inj h).1.symm

variable [CharNames]

/-- The piece at the front of a text, and what follows it. -/
def front? (c : Char) (cs : List Char) : Option (Piece × List Char) :=
  if segmentsText.isPrefixOf (c :: cs) then
    some (segments, (c :: cs).drop segmentsText.length)
  else
    match c, cs with
    | '[', cs => (CharClass.read? cs).map fun (cls, rest) => classPiece cls rest
    | '\\', d :: cs => if d.isAlphanum then none else some (one (.only d), cs)
    | c, cs => if "()*\\".toList.contains c then none else some (one (.only c), cs)

lemma front?_of_segments (h : segmentsText.isPrefixOf (c :: cs) = true) :
    front? c cs = some (segments, (c :: cs).drop segmentsText.length) := if_pos h

lemma front?_bracket (cs : List Char) :
    front? '[' cs = (CharClass.read? cs).map fun (cls, rest) => classPiece cls rest := by
  unfold front?
  rw [if_neg (not_isPrefixOf (by decide))]
  rfl

lemma front?_escaped (d : Char) (cs : List Char) :
    front? '\\' (d :: cs) = if d.isAlphanum then none else some (one (.only d), cs) := by
  unfold front?
  rw [if_neg (not_isPrefixOf (by decide))]
  rfl

lemma front?_of_ne (hsegments : ¬segmentsText.isPrefixOf (c :: cs) = true) (hbracket : c ≠ '[')
    (hescape : ∀ d ds, c = '\\' → cs = d :: ds → False) :
    front? c cs = if "()*\\".toList.contains c then none else some (one (.only c), cs) := by
  unfold front?
  rw [if_neg hsegments]
  split
  case h_1 => exact absurd rfl hbracket
  case h_2 => exact (hescape _ _ rfl rfl).elim
  case h_3 => rfl

lemma front?_plain (h : c ∉ ['(', ')', '*', '\\', '[']) :
    front? c cs = some (one (.only c), cs) := by
  simp only [List.mem_cons, List.not_mem_nil, or_false, not_or] at h
  obtain ⟨hopen, hclose, hstar, hescape, hbracket⟩ := h
  rw [front?_of_ne (not_isPrefixOf hopen) hbracket fun _ _ hc _ => hescape hc, if_neg]
  simp [hopen, hclose, hstar, hescape]

/-- A text is read piece by piece. -/
lemma readPieces?_succ :
    readPieces? (fuel + 1) (c :: cs) =
      (front? c cs).bind fun (p, rest) => (readPieces? fuel rest).map (p :: ·) := by
  by_cases hsegments : segmentsText.isPrefixOf (c :: cs) = true
  · rw [front?_of_segments hsegments]
    conv_lhs => unfold readPieces?
    exact if_pos hsegments
  · conv_lhs => unfold readPieces?
    dsimp only
    rw [if_neg hsegments]
    split
    case h_1 =>
      rw [front?_bracket, Option.bind_map]
      rcases CharClass.read? cs with _ | ⟨cls, rest⟩
      · rfl
      · simp only [Option.bind_eq_bind, Option.bind_some, Function.comp_apply]
        split
        case h_1 => rfl
        case h_2 hstar => rw [classPiece.eq_2 cls rest hstar]
    case h_2 =>
      rw [front?_escaped]
      split <;> rfl
    case h_3 hbracket hescape =>
      rw [front?_of_ne hsegments hbracket hescape]
      split <;> rfl

/-- The piece at the front of a text is read alike in front of more text. -/
lemma front?_append (h : front? c cs = some (p, rest)) (ht : t.head? ≠ some '*') :
    front? c (cs ++ t) = some (p, rest ++ t) := by
  by_cases hsegments : segmentsText.isPrefixOf (c :: cs) = true
  · obtain ⟨ds, hds⟩ := List.isPrefixOf_iff_prefix.mp hsegments
    have hlonger : segmentsText.isPrefixOf (c :: (cs ++ t)) = true :=
      List.isPrefixOf_iff_prefix.mpr ⟨ds ++ t, by rw [← List.append_assoc, hds]; rfl⟩
    rw [front?_of_segments hsegments, ← hds, List.drop_left] at h
    rw [front?_of_segments hlonger, ← List.cons_append, ← hds, List.append_assoc, List.drop_left]
    obtain ⟨rfl, rfl⟩ := Prod.mk.inj (Option.some.inj h)
    rfl
  by_cases hbracket : c = '['
  · subst hbracket
    rw [front?_bracket] at h ⊢
    obtain ⟨⟨cls, after⟩, hread, h⟩ := Option.map_eq_some_iff.mp h
    rw [CharClass.read?_append hread t, Option.map_some]
    dsimp only at h ⊢
    rw [classPiece_append ht, h]
  by_cases hescape : c = '\\' ∧ cs ≠ []
  · obtain ⟨rfl, hne⟩ := hescape
    obtain ⟨d, ds, rfl⟩ := List.exists_cons_of_ne_nil hne
    rw [front?_escaped] at h
    obtain ⟨hd, h⟩ := Option.ite_none_left_eq_some.mp h
    obtain ⟨rfl, rfl⟩ := Prod.mk.inj (Option.some.inj h)
    rw [List.cons_append, front?_escaped, if_neg hd]
  · have hlast : ∀ d ds, c = '\\' → cs = d :: ds → False := fun d ds hc hcs =>
      hescape ⟨hc, hcs ▸ List.cons_ne_nil d ds⟩
    rw [front?_of_ne hsegments hbracket hlast] at h
    obtain ⟨hc, h⟩ := Option.ite_none_left_eq_some.mp h
    obtain ⟨rfl, rfl⟩ := Prod.mk.inj (Option.some.inj h)
    refine front?_plain ?_
    simpa [hbracket] using hc

/-! ### A whole text -/

@[simp] lemma readPieces?_nil (fuel : Nat) : readPieces? fuel [] = some [] := by
  cases fuel <;> rfl

/-- No text that is read starts with a star: the star belongs to what is before it. -/
lemma head?_of_readPieces? (h : readPieces? fuel t = some qs) : t.head? ≠ some '*' := by
  intro hstar
  obtain ⟨ds, rfl⟩ := List.head?_eq_some_iff.mp hstar
  cases fuel with
  | zero => cases h
  | succ fuel =>
    rw [readPieces?_succ, front?_of_ne (not_isPrefixOf (by decide)) (by decide) (by simp)] at h
    cases h

lemma readPieces?_mono (h : readPieces? fuel cs = some ps) (hfuel : fuel ≤ fuel') :
    readPieces? fuel' cs = some ps := by
  induction fuel generalizing fuel' cs ps with
  | zero =>
    cases cs with
    | nil => simpa using h
    | cons c cs => cases h
  | succ fuel ih =>
    cases cs with
    | nil => simpa using h
    | cons c cs =>
      obtain ⟨n, rfl⟩ : ∃ n, fuel' = n + 1 := ⟨fuel' - 1, by omega⟩
      rw [readPieces?_succ] at h ⊢
      obtain ⟨⟨p, rest⟩, hfront, h⟩ := Option.bind_eq_some_iff.mp h
      obtain ⟨qs, hrest, rfl⟩ := Option.map_eq_some_iff.mp h
      simp [hfront, ih hrest (Nat.le_of_succ_le_succ hfuel)]

lemma readPieces?_append (h : readPieces? fuel cs = some ps) (ht : readPieces? fuel' t = some qs) :
    readPieces? (fuel + fuel') (cs ++ t) = some (ps ++ qs) := by
  induction fuel generalizing cs ps with
  | zero =>
    cases cs with
    | nil =>
      obtain rfl : [] = ps := by simpa using h
      simpa using ht
    | cons c cs => cases h
  | succ fuel ih =>
    cases cs with
    | nil =>
      obtain rfl : [] = ps := by simpa using h
      exact readPieces?_mono ht (Nat.le_add_left fuel' (fuel + 1))
    | cons c cs =>
      rw [readPieces?_succ] at h
      obtain ⟨⟨p, rest⟩, hfront, h⟩ := Option.bind_eq_some_iff.mp h
      obtain ⟨qs, hrest, rfl⟩ := Option.map_eq_some_iff.mp h
      rw [List.cons_append, Nat.succ_add, readPieces?_succ,
        front?_append hfront (head?_of_readPieces? ht)]
      simp [ih hrest]

/-- Texts that are read on their own are read one after another. -/
lemma read?_append (h : read? cs = some ps) (ht : read? t = some qs) :
    read? (cs ++ t) = some (ps ++ qs) := by
  rw [read?, List.length_append]
  exact readPieces?_append h ht

/-- A character that means nothing else is read as itself. -/
lemma read?_plain (h : c ∉ ['(', ')', '*', '\\', '[']) : read? [c] = some [one (.only c)] := by
  rw [read?, List.length_singleton, readPieces?_succ, front?_plain h]
  rfl

/-- A character behind a backslash is read as itself. -/
lemma read?_escaped (h : c.isAlphanum = false) : read? ['\\', c] = some [one (.only c)] := by
  rw [read?, List.length_cons, readPieces?_succ, front?_escaped, if_neg (ne_true_of_eq_false h)]
  rfl

end ChatCommands.Glob.Piece
