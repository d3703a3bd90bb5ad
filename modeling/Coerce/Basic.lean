import Mathlib

/-!
# Rust's `Result` and `HashMap`

A fallible handler returns an `Except`, whose constructors the small simp lemmas below compute
with; a panic (an `unwrap`, an `expect`, the overflow check of a debug build) is its error. A
`HashMap` is Mathlib's `AList`: its `insert` is seen through `get` as an update of a partial
function, and its `remove` takes exactly the removed value out of its values.
-/
namespace Coerce

section Except
variable {ε α β : Type}

instance decidableEqExcept [DecidableEq ε] [DecidableEq α] : DecidableEq (Except ε α)
  | .error a, .error b => decidable_of_iff (a = b) (by simp)
  | .ok a, .ok b => decidable_of_iff (a = b) (by simp)
  | .error _, .ok _ => isFalse (by simp)
  | .ok _, .error _ => isFalse (by simp)

@[simp] theorem pure_eq_ok (a : α) : (pure a : Except ε α) = .ok a := rfl
@[simp] theorem throw_eq_error (e : ε) : (throw e : Except ε α) = .error e := rfl
@[simp] theorem map_ok (f : α → β) (a : α) : (f <$> (.ok a : Except ε α)) = .ok (f a) := rfl
@[simp] theorem map_error (f : α → β) (e : ε) : (f <$> (.error e : Except ε α)) = .error e := rfl
@[simp] theorem bind_ok (a : α) (f : α → Except ε β) : (Except.ok a >>= f) = f a := rfl
@[simp] theorem bind_error (e : ε) (f : α → Except ε β) : (Except.error e >>= f) = .error e := rfl

theorem map_eq_ok {f : α → β} {x : Except ε α} {b : β} (h : f <$> x = .ok b) :
    ∃ a, x = .ok a ∧ f a = b := by
  cases x with
  | error e => simp at h
  | ok a => exact ⟨a, rfl, Except.ok.inj h⟩

theorem map_eq_error {f : α → β} {x : Except ε α} {e : ε} (h : f <$> x = .error e) :
    x = .error e := by
  cases x with
  | error e' => simpa using h
  | ok a => simp at h

end Except

section HashMap

/-- `HashMap::insert` seen through `get`: the map's lookup function updated at the key. -/
theorem lookup_insert_eq_update {α β : Type} [DecidableEq α] (m : AList fun _ : α => β) (k : α)
    (v : β) : (fun x => (m.insert k v).lookup x) = Function.update (fun x => m.lookup x) k (some v) := by
  funext x
  by_cases hx : x = k
  · subst hx; simp
  · simp [hx, AList.lookup_insert_ne]

/-- `HashMap::remove` takes exactly the removed value out of the map's values. -/
theorem values_perm_erase {α β : Type} [DecidableEq α] (m : AList fun _ : α => β) (k : α) :
    (m.entries.map Sigma.snd).Perm ((m.lookup k).toList ++ (m.erase k).entries.map Sigma.snd) := by
  by_cases hk : k ∈ m.entries.keys
  · obtain ⟨q, l₁, l₂, -, he, hk'⟩ := List.exists_of_kerase hk
    have hq : m.lookup k = some q := AList.mem_lookup_iff.mpr (by rw [he]; simp)
    rw [hq, show (m.erase k).entries = l₁ ++ l₂ from hk', he]
    simp [List.perm_middle]
  · have hq : m.lookup k = none := by
      rw [← Option.not_isSome_iff_eq_none, AList.lookup_isSome]; exact hk
    rw [hq, show (m.erase k).entries = m.entries from List.kerase_of_not_mem_keys hk]
    rfl

end HashMap

end Coerce
