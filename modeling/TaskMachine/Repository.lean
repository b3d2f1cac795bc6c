import TaskMachine.Compiled.Type

/-!
# The repository

What tasks share: compiled types by name, documents and drafts by name, and message bags,
each a first-in first-out queue. Adding a type or writing a document replaces what was
under its name; posting appends to a bag, creating it, and retrieving takes the oldest
message.

Main statements: `Repository.post`, `Repository.retrieve`, and `retrieve_post_empty`,
a message posted to an empty bag is the next one retrieved.
-/

set_option autoImplicit false

namespace TaskMachine

abbrev Shelf (α : Type) := List (Name × α)

namespace Shelf

def get? {α : Type} (s : Shelf α) (n : Name) : Option α := s.lookup n

/-- The shelf with an entry under a name, replacing what was there. -/
def put {α : Type} (s : Shelf α) (n : Name) (a : α) : Shelf α :=
  (n, a) :: s.filter (·.1 != n)

def remove {α : Type} (s : Shelf α) (n : Name) : Shelf α × Bool :=
  (s.filter (·.1 != n), (s.lookup n).isSome)

end Shelf

structure Repository where
  types : Shelf CompiledType
  documents : Shelf Value
  drafts : Shelf Value
  bags : Shelf (List Value)
  deriving Inhabited

namespace Repository

def empty : Repository := ⟨[], [], [], []⟩

def addType (r : Repository) (t : CompiledType) : Repository :=
  { r with types := r.types.put t.name t }

def type? (r : Repository) (n : Name) : Option CompiledType := r.types.get? n

def document? (r : Repository) (n : Name) : Option Value := r.documents.get? n

def writeDocument (r : Repository) (n : Name) (v : Value) : Repository :=
  { r with documents := r.documents.put n v }

def deleteDocument (r : Repository) (n : Name) : Repository × Bool :=
  let (documents, found) := r.documents.remove n
  ({ r with documents }, found)

def draft? (r : Repository) (n : Name) : Option Value := r.drafts.get? n

def writeDraft (r : Repository) (n : Name) (v : Value) : Repository :=
  { r with drafts := r.drafts.put n v }

def deleteDraft (r : Repository) (n : Name) : Repository × Bool :=
  let (drafts, found) := r.drafts.remove n
  ({ r with drafts }, found)

def bag (r : Repository) (b : Name) : List Value := (r.bags.get? b).getD []

def post (r : Repository) (b : Name) (v : Value) : Repository :=
  { r with bags := r.bags.put b (r.bag b ++ [v]) }

def retrieve (r : Repository) (b : Name) : Repository × Option Value :=
  match r.bag b with
  | [] => (r, none)
  | v :: rest => ({ r with bags := r.bags.put b rest }, some v)

def bagLength (r : Repository) (b : Name) : Nat := (r.bag b).length

theorem bag_post (r : Repository) (b : Name) (v : Value) : (r.post b v).bag b = r.bag b ++ [v] := by
  simp [post, bag, Shelf.put, Shelf.get?]

theorem retrieve_post_empty (r : Repository) (b : Name) (v : Value) (empty : r.bag b = []) :
    ((r.post b v).retrieve b).2 = some v := by
  simp [retrieve, bag_post, empty]

end Repository

end TaskMachine
