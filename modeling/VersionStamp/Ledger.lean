/-
Association lists that remember where a key first came: `put` on a known key
changes the value in its place, on a new key it adds the pair at the end.

`get?_put_self` and `get?_put_other` are the two laws of an update;
`keys_put` says what it does to the order of the keys.
-/
namespace VersionStamp

/-- Pairs in the order in which their keys first came. -/
abbrev Ledger (κ β : Type) := List (κ × β)

namespace Ledger

variable {κ β : Type} [DecidableEq κ]

def get? : Ledger κ β → κ → Option β
  | [], _ => none
  | (k', v) :: m, k => if k' = k then some v else get? m k

def put : Ledger κ β → κ → β → Ledger κ β
  | [], k, v => [(k, v)]
  | (k', v') :: m, k, v => if k' = k then (k, v) :: m else (k', v') :: put m k v

def erase : Ledger κ β → κ → Ledger κ β
  | [], _ => []
  | (k', v) :: m, k => if k' = k then erase m k else (k', v) :: erase m k

def keys (m : Ledger κ β) : List κ := m.map (·.1)

/-- The later pairs win, each in the place its key already has. -/
def putAll (m : Ledger κ β) (later : List (κ × β)) : Ledger κ β :=
  later.foldl (fun m p => put m p.1 p.2) m

@[simp] theorem get?_nil (k : κ) : get? ([] : Ledger κ β) k = none := rfl

theorem get?_put_self (m : Ledger κ β) (k : κ) (v : β) : get? (put m k v) k = some v := by
  induction m with
  | nil => simp [put, get?]
  | cons p m ih =>
    obtain ⟨k', v'⟩ := p
    by_cases h : k' = k <;> simp [put, get?, h, ih]

theorem get?_put_other (m : Ledger κ β) {k k' : κ} (v : β) (hne : k' ≠ k) :
    get? (put m k v) k' = get? m k' := by
  induction m with
  | nil => simp [put, get?, Ne.symm hne]
  | cons p m ih =>
    obtain ⟨l, w⟩ := p
    by_cases h : l = k
    · subst h; simp [put, get?, Ne.symm hne]
    · by_cases h' : l = k'
      · subst h'; simp [put, get?, hne]
      · simp [put, get?, h, h', ih]

theorem get?_erase_self (m : Ledger κ β) (k : κ) : get? (erase m k) k = none := by
  induction m with
  | nil => rfl
  | cons p m ih =>
    obtain ⟨k', v'⟩ := p
    by_cases h : k' = k <;> simp [erase, get?, h, ih]

theorem get?_erase_other (m : Ledger κ β) {k k' : κ} (hne : k' ≠ k) :
    get? (erase m k) k' = get? m k' := by
  induction m with
  | nil => rfl
  | cons p m ih =>
    obtain ⟨l, w⟩ := p
    by_cases h : l = k
    · subst h; simp [erase, get?, Ne.symm hne, ih]
    · by_cases h' : l = k'
      · subst h'; simp [erase, get?, hne]
      · simp [erase, get?, h, h', ih]

theorem get?_eq_none_iff (m : Ledger κ β) (k : κ) : get? m k = none ↔ k ∉ keys m := by
  induction m with
  | nil => simp [keys]
  | cons p m ih =>
    obtain ⟨k', v'⟩ := p
    by_cases h : k' = k
    · simp [get?, keys, h]
    · simpa [get?, keys, h, Ne.symm h] using ih

/-- A known key keeps its place, a new one comes last. -/
theorem keys_put (m : Ledger κ β) (k : κ) (v : β) :
    keys (put m k v) = if k ∈ keys m then keys m else keys m ++ [k] := by
  induction m with
  | nil => simp [put, keys]
  | cons p m ih =>
    obtain ⟨k', v'⟩ := p
    by_cases h : k' = k
    · simp [put, keys, h]
    · simp only [put, h, if_false]
      simp only [keys, List.map_cons, List.mem_cons, Ne.symm h, false_or] at ih ⊢
      rw [ih]
      split <;> simp_all

end Ledger
end VersionStamp
