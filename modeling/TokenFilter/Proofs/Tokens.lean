import TokenFilter.Token
import TokenFilter.Proofs.Outcome

set_option autoImplicit false

namespace TokenFilter.Token

def Fits (context : Context) : Nat → Token → Prop
  | 0, .not _ => False
  | levels + 1, .not inner => inner.Fits context levels
  | _, .range _ _ => context.ranged = true
  | _, .function _ _ => context.textual = true
  | _, .literal _ => True

-- A range always has two bounds, each of which may be empty.
def IsFault : Error → Prop
  | .rangeArity _ parts => parts ≠ 2
  | .negationDepth limit => limit = negationLimit
  | _ => False

theorem read_range_ok (cs : List Char) (token : Token) (read : readRange cs = .ok token) :
    ∃ lower upper, token = .range lower upper := by
  unfold readRange at read
  split at read
  · cases read
    exact ⟨_, _, rfl⟩
  · cases read

theorem read_range_error (cs : List Char) (e : Error) (read : readRange cs = .error e) : IsFault e := by
  unfold readRange at read
  split at read
  · cases read
  · rename_i parts other
    cases read
    intro two
    obtain ⟨lower, upper, eq⟩ := List.length_eq_two.mp two
    exact other lower upper eq

theorem function_some (context : Context) (call : Option Call) (token : Token)
    (found : function? context call = some token) :
    context.textual = true ∧ ∃ fn argument, token = .function fn argument := by
  unfold function? at found
  split at found
  · rename_i textual
    obtain ⟨inner, _, named⟩ := Option.bind_eq_some_iff.mp found
    obtain ⟨fn, _, rfl⟩ := Option.map_eq_some_iff.mp named
    exact ⟨textual, fn, inner.argument, rfl⟩
  · cases found

theorem read_positive_fits (context : Context) (cs : List Char) (call : Option Call) (levels : Nat)
    (token : Token) (read : readPositive context cs call = .ok token) : token.Fits context levels := by
  unfold readPositive at read
  split at read
  · rename_i ranged
    obtain ⟨lower, upper, rfl⟩ := read_range_ok cs token read
    rw [Bool.and_eq_true] at ranged
    cases levels <;> exact ranged.1
  · split at read
    · rename_i found
      cases read
      obtain ⟨textual, fn, argument, rfl⟩ := function_some context call token found
      cases levels <;> exact textual
    · cases read
      cases levels <;> trivial

theorem read_positive_error (context : Context) (cs : List Char) (call : Option Call) (e : Error)
    (read : readPositive context cs call = .error e) : IsFault e := by
  unfold readPositive at read
  split at read
  · exact read_range_error cs e read
  · split at read <;> cases read

theorem read_within_fits (context : Context) (levels : Nat) (text : List Char) (token : Token)
    (read : readWithin context levels text = .ok token) : token.Fits context levels := by
  fun_induction readWithin context levels text generalizing token with
  | case1 text cs inner negated => cases read
  | case2 text cs plain => exact read_positive_fits context cs (call? cs) 0 token read
  | case3 levels text cs inner negated ih =>
      obtain ⟨deeper, readInner, rfl⟩ := (except_map_ok_iff _ _ _).mp read
      exact ih deeper readInner
  | case4 levels text cs plain => exact read_positive_fits context cs (call? cs) (levels + 1) token read

theorem read_within_error (context : Context) (levels : Nat) (text : List Char) (e : Error)
    (read : readWithin context levels text = .error e) : IsFault e := by
  fun_induction readWithin context levels text with
  | case1 text cs inner negated =>
      cases read
      rfl
  | case2 text cs plain => exact read_positive_error context cs (call? cs) e read
  | case3 levels text cs inner negated ih => exact ih ((except_map_error_iff _ _ _).mp read)
  | case4 levels text cs plain => exact read_positive_error context cs (call? cs) e read

theorem read_fits (context : Context) (text : String) (token : Token) (passed : read context text = .ok token) :
    token.Fits context negationLimit := read_within_fits context negationLimit text.toList token passed

theorem read_error (context : Context) (text : String) (e : Error) (failed : read context text = .error e) :
    IsFault e := read_within_error context negationLimit text.toList e failed

end TokenFilter.Token
