import ChatCommands.Journal
import Mathlib.Tactic.Common

/-!
# Acts

Acts are compared by what they do on every state. Where an act does nothing but tell the journal
something, the state it leaves is the one it found up to notes.

Main statements: `on_bind_eq_ok`, `on_bind_eq_error`, `beside_bind`.
-/

namespace ChatCommands

variable {σ ρ α β : Type}

namespace Act

@[ext] lemma ext {a b : Act σ α} (h : ∀ s, a.on s = b.on s) : a = b := funext h

section Bind

variable {a : Act σ α} {f : α → Act σ β} {s t : σ} {y : β} {e : Error}

/-- Of two acts that end with a value, the first one does, and so does the second on its value. -/
lemma on_bind_eq_ok : (a >>= f).on s = (.ok y, t) ↔
    ∃ x u, a.on s = (.ok x, u) ∧ (f x).on u = (.ok y, t) := by
  rw [on_bind]
  rcases a.on s with ⟨_ | x, u⟩ <;> simp

/-- Of two acts that end with an error, the first one does, or the second on the value of the
first. -/
lemma on_bind_eq_error : (a >>= f).on s = (.error e, t) ↔
    a.on s = (.error e, t) ∨ ∃ x u, a.on s = (.ok x, u) ∧ (f x).on u = (.error e, t) := by
  rw [on_bind]
  rcases a.on s with ⟨_ | x, u⟩ <;> simp

@[simp] lemma on_map (g : α → β) : (g <$> a).on s = ((a.on s).1.map g, (a.on s).2) := by
  rw [map_eq_pure_bind, on_bind]
  rcases a.on s with ⟨_ | x, u⟩ <;> rfl

end Bind

/-! ### The state of an act -/

@[simp] lemma on_get (s : σ) : (get : Act σ σ).on s = (.ok s, s) := rfl

@[simp] lemma on_set (s t : σ) : (set t : Act σ PUnit).on s = (.ok ⟨⟩, t) := rfl

@[simp] lemma on_modify (f : σ → σ) (s : σ) :
    (modify f : Act σ PUnit).on s = (.ok ⟨⟩, f s) := rfl

@[simp] lemma on_modifyGet (f : σ → α × σ) (s : σ) :
    (modifyGet f : Act σ α).on s = (.ok (f s).1, (f s).2) := rfl

@[simp] lemma on_note [Journal σ] (source : Source) (level : Level) (message : String) (s : σ) :
    (note source level message : Act σ Unit).on s =
      (.ok (), Journal.note ⟨source, level, message⟩ s) := rfl

/-! ### Acts beside another state -/

lemma on_beside (a : Act σ α) (r : ρ) (s : σ) :
    (beside a).on (r, s) = ((a.on s).1, r, (a.on s).2) := rfl

@[simp] lemma beside_pure (x : α) : beside (pure x : Act σ α) = (pure x : Act (ρ × σ) α) := rfl

@[simp] lemma beside_fail (e : Error) : beside (fail e : Act σ α) = (fail e : Act (ρ × σ) α) := rfl

@[simp] lemma beside_ofExcept (r : Except Error α) :
    beside (ofExcept r : Act σ α) = (ofExcept r : Act (ρ × σ) α) := rfl

@[simp] lemma beside_note [Journal σ] (source : Source) (level : Level) (message : String) :
    beside (note source level message : Act σ Unit) =
      (note source level message : Act (ρ × σ) Unit) := rfl

@[simp] lemma beside_bind (a : Act σ α) (f : α → Act σ β) :
    beside (ρ := ρ) (a >>= f) = beside a >>= fun x => beside (f x) := by
  ext ⟨r, s⟩ : 1
  rw [on_bind, on_beside, on_beside, on_bind]
  rcases a.on s with ⟨_ | x, t⟩ <;> rfl

@[simp] lemma beside_map (f : α → β) (a : Act σ α) :
    beside (ρ := ρ) (f <$> a) = f <$> beside a := by
  rw [map_eq_pure_bind, map_eq_pure_bind, beside_bind]
  rfl

/-! ### Acts that always end with a value -/

/-- From every state the act ends with a value, and always with the same. -/
def Gives (a : Act σ α) (x : α) : Prop := ∀ s, ∃ t, a.on s = (.ok x, t)

namespace Gives

variable {a : Act σ α} {f : α → Act σ β} {x : α} {y : β}

lemma pure (x : α) : Gives (Pure.pure x : Act σ α) x := fun s => ⟨s, rfl⟩

lemma bind (ha : a.Gives x) (hf : (f x).Gives y) : (a >>= f).Gives y := by
  intro s
  obtain ⟨t, ht⟩ := ha s
  obtain ⟨u, hu⟩ := hf t
  exact ⟨u, on_bind_eq_ok.mpr ⟨x, t, ht, hu⟩⟩

/-- Acts one after another give the list of what each gives. -/
lemma mapM {l : List α} {g : α → β} (h : ∀ x ∈ l, (f x).Gives (g x)) :
    (l.mapM f).Gives (l.map g) := by
  induction l with
  | nil => exact pure []
  | cons x l ih =>
    obtain ⟨hx, hl⟩ := List.forall_mem_cons.mp h
    rw [List.mapM_cons]
    exact hx.bind ((ih hl).bind (pure _))

end Gives

end Act

/-! ### Notes -/

/-- Nothing but notes stands between two states. -/
def Noted [Journal σ] (s t : σ) : Prop :=
  ∃ notes : List Note, t = notes.foldl (fun s n => Journal.note n s) s

namespace Noted

variable [Journal σ] {s t u : σ}

lemma refl (s : σ) : Noted s s := ⟨[], rfl⟩

lemma note (n : Note) (s : σ) : Noted s (Journal.note n s) := ⟨[n], rfl⟩

lemma trans (h : Noted s t) (h' : Noted t u) : Noted s u := by
  obtain ⟨notes, rfl⟩ := h
  obtain ⟨more, rfl⟩ := h'
  exact ⟨notes ++ more, by rw [List.foldl_append]⟩

/-- What stands beside the state that takes the notes stays. -/
lemma fst_eq {s t : ρ × σ} (h : Noted s t) : t.1 = s.1 := by
  obtain ⟨notes, rfl⟩ := h
  induction notes generalizing s with
  | nil => rfl
  | cons n notes ih => exact ih (s := Journal.note n s)

end Noted

end ChatCommands
