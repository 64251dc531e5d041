set_option autoImplicit false

namespace TokenFilter

structure Entry where
  path : String
  tokens : List String
deriving DecidableEq, Repr

abbrev Query := List Entry

namespace Query

def push (path : String) (tokens : List String) : Query → Query
  | [] => [⟨path, tokens⟩]
  | entry :: rest =>
    if entry.path = path then ⟨entry.path, entry.tokens ++ tokens⟩ :: rest
    else entry :: push path tokens rest

def collect (pairs : List (String × List String)) : Query :=
  pairs.foldl (fun query pair => query.push pair.1 pair.2) []

theorem push_of_mem (path : String) (tokens : List String) (query : Query)
    (h : path ∈ query.map Entry.path) :
    (query.push path tokens).map Entry.path = query.map Entry.path := by
  induction query with
  | nil => simp at h
  | cons entry rest ih =>
    by_cases same : entry.path = path
    · simp [push, same]
    · have : path ∈ rest.map Entry.path := by
        rcases List.mem_cons.1 h with h | h
        · exact absurd h.symm same
        · exact h
      simp [push, same, ih this]

theorem push_of_not_mem (path : String) (tokens : List String) (query : Query)
    (h : path ∉ query.map Entry.path) : query.push path tokens = query ++ [⟨path, tokens⟩] := by
  induction query with
  | nil => rfl
  | cons entry rest ih =>
    simp only [List.map_cons, List.mem_cons, not_or] at h
    simp [push, Ne.symm h.1, ih h.2]

end Query

end TokenFilter
