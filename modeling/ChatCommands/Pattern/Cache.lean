import ChatCommands.Pattern

/-!
# Cached patterns

A usage that was read, or put together without reading one, is a tree with an identity of its own,
and a tree is compiled once: compiling it again gives the pattern of the first time. Forgetting a
tree takes its pattern out of the cache; whoever holds the pattern can go on using it.
-/

namespace ChatCommands

/-- A usage as a host holds it, told apart from equal ones by its number. -/
structure Tree where
  id : Nat
  usage : Usage

namespace Pattern

/-- A compiled pattern, told apart from equal ones by its number. -/
structure Compiled where
  id : Nat
  pattern : Pattern

/-- The trees made so far are numbered, and each one that was compiled and not forgotten has its
pattern. -/
structure Cache where
  nextTree : Nat
  nextPattern : Nat
  entries : Table Nat Compiled

namespace Cache

/-- The cache that has seen no tree. -/
def empty : Cache := ⟨0, 0, .empty⟩

instance : Inhabited Cache := ⟨empty⟩

/-- Gives a usage an identity. -/
def newTree (c : Cache) (u : Usage) : Tree × Cache :=
  (⟨c.nextTree, u⟩, { c with nextTree := c.nextTree + 1 })

/-- The pattern of a tree. -/
def compile (c : Cache) (t : Tree) : Compiled × Cache :=
  match c.entries.get? t.id with
  | some compiled => (compiled, c)
  | none =>
    let compiled : Compiled := ⟨c.nextPattern, .ofUsage t.usage⟩
    (compiled,
      { c with nextPattern := c.nextPattern + 1, entries := c.entries.set t.id compiled })

/-- The pattern of a tree, where what is handed over may be something else. -/
def compileAny (c : Cache) : Option Tree → Except Error Compiled × Cache
  | some t =>
    let (compiled, c) := c.compile t
    (.ok compiled, c)
  | none => (.error (.misuse .notAUsage), c)

/-- Forgets a tree. -/
def drop (c : Cache) (t : Tree) : Cache := { c with entries := c.entries.erase t.id }

/-- The number of trees that have a pattern. -/
def size (c : Cache) : Nat := c.entries.size

end Cache

end Pattern

end ChatCommands
