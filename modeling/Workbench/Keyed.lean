/-!
# Lists keyed by strings, in the order of their keys

The members of an object and the bindings of a session are lists of pairs in strictly increasing
key order, compared by code point. `Keyed.insert` keeps that order and replaces the value of a key
that is present, so a list built by `ofList` holds the last value given for each key.
-/

namespace Workbench

/-- A list of pairs of a string and a value. -/
abbrev Keyed (α : Type) : Type :=
  List (String × α)

namespace Keyed

variable {α : Type}

/-- The keys increase strictly along the list. -/
def Ordered (l : Keyed α) : Prop :=
  l.Pairwise fun a b => a.1 < b.1

/-- The list with `key` bound to `value`. -/
def insert (key : String) (value : α) : Keyed α → Keyed α
  | [] => [(key, value)]
  | (k, v) :: rest =>
    if key < k then (key, value) :: (k, v) :: rest
    else if key = k then (key, value) :: rest
    else (k, v) :: insert key value rest

/-- The value bound to a key. -/
def get? (key : String) : Keyed α → Option α
  | [] => none
  | (k, v) :: rest => if k = key then some v else get? key rest

/-- The ordered list of some pairs; of two pairs with one key the later counts. -/
def ofList (pairs : List (String × α)) : Keyed α :=
  pairs.foldl (fun l pair => insert pair.1 pair.2 l) []

/-! ### Order is kept -/

/-- A key of the extended list is the new key or an old one. -/
theorem mem_keys_insert {key : String} {value : α} {l : Keyed α} {pair : String × α}
    (h : pair ∈ insert key value l) : pair.1 = key ∨ pair ∈ l := by
  induction l with
  | nil => simp_all [insert]
  | cons head rest ih =>
    obtain ⟨k, v⟩ := head
    simp only [insert] at h
    split at h
    · rcases List.mem_cons.1 h with rfl | h
      · exact .inl rfl
      · exact .inr h
    · split at h
      · rcases List.mem_cons.1 h with rfl | h
        · exact .inl rfl
        · exact .inr (List.mem_cons_of_mem _ h)
      · rcases List.mem_cons.1 h with rfl | h
        · exact .inr List.mem_cons_self
        · exact (ih h).imp_right (List.mem_cons_of_mem _)

theorem Ordered.insert {l : Keyed α} (h : l.Ordered) (key : String) (value : α) :
    (Keyed.insert key value l).Ordered := by
  induction l with
  | nil => simp [Keyed.insert, Ordered]
  | cons head rest ih =>
    obtain ⟨k, v⟩ := head
    obtain ⟨hk, hrest⟩ := List.pairwise_cons.1 h
    simp only [Keyed.insert]
    split
    · rename_i hlt
      refine List.pairwise_cons.2 ⟨fun pair hmem => ?_, h⟩
      rcases List.mem_cons.1 hmem with rfl | hmem
      · exact hlt
      · exact String.lt_trans hlt (hk pair hmem)
    · rename_i hnlt
      split
      · rename_i heq
        subst heq
        exact List.pairwise_cons.2 ⟨hk, hrest⟩
      · rename_i hne
        refine List.pairwise_cons.2 ⟨fun pair hmem => ?_, ih hrest⟩
        rcases mem_keys_insert hmem with heq | hmem
        · rw [heq]
          rcases Decidable.em (k < key) with hlt | hge
          · exact hlt
          · exact absurd (String.le_antisymm (String.not_lt.1 hge) (String.not_lt.1 hnlt)) hne
        · exact hk pair hmem

theorem ordered_ofList (pairs : List (String × α)) : (ofList pairs).Ordered := by
  have step : ∀ (pairs : List (String × α)) (l : Keyed α), l.Ordered →
      (pairs.foldl (fun l pair => Keyed.insert pair.1 pair.2 l) l).Ordered := by
    intro pairs
    induction pairs with
    | nil => exact fun _ h => h
    | cons pair rest ih => exact fun l h => ih _ (h.insert pair.1 pair.2)
  exact step pairs [] List.Pairwise.nil

end Keyed

end Workbench
