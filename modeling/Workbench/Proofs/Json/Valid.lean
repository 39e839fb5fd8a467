import Workbench.Json.Reader
import Workbench.Proofs.Decimal.Finite

/-!
# What is read is valid

Every value that is read holds whole numbers of 64 bits, finite doubles and keys in strictly
increasing order, and opens at most as many containers as the reader has room for. The loops over
items and members keep whatever the reader of one item or member keeps (`forall_of_readItems`,
`invariant_of_readMembers`), so only numbers need an argument of their own: a double is a whole
number of 64 bits, scaled by powers of ten, and a quotient by such a power is finite.
-/

namespace Workbench

/-- A pair of the extended list is the new pair or an old one. -/
theorem Keyed.mem_insert {α : Type} {key : String} {value : α} {l : Keyed α} {pair : String × α}
    (h : pair ∈ insert key value l) : pair = (key, value) ∨ pair ∈ l := by
  induction l with
  | nil => simpa [insert] using h
  | cons head rest ih =>
    rw [insert] at h
    split at h
    · exact List.mem_cons.1 h
    · split at h
      · exact (List.mem_cons.1 h).imp_right (List.mem_cons_of_mem _)
      · rcases List.mem_cons.1 h with rfl | h
        · exact .inr List.mem_cons_self
        · exact (ih h).imp_right (List.mem_cons_of_mem _)

namespace Json

open Text (bound63 bound64)
open Decimal (isFinite isFinite_neg isFinite_div isFinite_ofNat isGreat_ofScientific)

/-! ### Valid values -/

/-- A whole number of 64 bits, signed or not, or a finite double. -/
def Number.Valid : Number → Prop
  | .whole n => -(bound63 : Int) ≤ n ∧ n < bound64
  | .double x => isFinite x = true

/-- The numbers are in range and the keys increase, everywhere in a value. -/
inductive Valid : Json → Prop
  | null : Valid .null
  | bool (b : Bool) : Valid (.bool b)
  | number {n : Number} (h : n.Valid) : Valid (.number n)
  | string (s : String) : Valid (.string s)
  | array {items : List Json} (h : ∀ x ∈ items, Valid x) : Valid (.array items)
  | object {members : List (String × Json)} (ordered : Keyed.Ordered members)
    (h : ∀ member ∈ members, Valid member.2) : Valid (.object members)

theorem itemsDepth_le_iff {items : List Json} {room : Nat} :
    itemsDepth items ≤ room ↔ ∀ x ∈ items, x.depth ≤ room := by
  induction items with
  | nil => simp [itemsDepth]
  | cons x items ih => rw [itemsDepth, Nat.max_le, ih, List.forall_mem_cons]

theorem membersDepth_le_iff {members : List (String × Json)} {room : Nat} :
    membersDepth members ≤ room ↔ ∀ member ∈ members, member.2.depth ≤ room := by
  induction members with
  | nil => simp [membersDepth]
  | cons member members ih => rw [membersDepth, Nat.max_le, ih, List.forall_mem_cons]

/-! ### Numbers -/

theorem absorb_lt {significand : Nat} (h : significand < bound64) (ds : List Nat) :
    (absorb significand ds).1 < bound64 := by
  induction ds generalizing significand with
  | nil => exact h
  | cons d ds ih =>
    rw [absorb]
    split
    · rename_i hlt
      exact ih hlt
    · exact h

theorem isFinite_of_scale? {x y : Float} {e : Int} (hx : isFinite x = true)
    (h : scale? x e = some y) : isFinite y = true := by
  fun_induction scale? x e with
  | case1 x e hle hnonneg hfinite =>
    cases h
    exact hfinite
  | case2 => cases h
  | case3 x e hle hnegative =>
    cases h
    exact isFinite_div hx (isGreat_ofScientific (by omega))
  | case4 x e hlarge hzero =>
    cases h
    exact hx
  | case5 => cases h
  | case6 x e hlarge hnonzero hnegative ih =>
    exact ih (isFinite_div hx (isGreat_ofScientific (by decide))) h

theorem valid_of_value? {t : Token} {n : Number} (h : t.value? = some n) : n.Valid := by
  have hwhole : (absorb 0 t.whole).1 < bound64 := absorb_lt (by decide) t.whole
  rw [Token.value?] at h
  generalize absorb 0 t.whole = absorbed at h hwhole
  obtain ⟨whole, left⟩ := absorbed
  simp only at h hwhole
  split at h
  · split at h
    · cases h
      refine ⟨?_, ?_⟩
      · have hbound : (0 : Int) ≤ bound63 := by decide
        omega
      · exact_mod_cast hwhole
    · split at h
      · rename_i hrange
        cases h
        refine ⟨?_, ?_⟩
        · omega
        · omega
      · cases h
        exact isFinite_neg (isFinite_ofNat hwhole)
  · obtain ⟨x, hscale, rfl⟩ := Option.map_eq_some_iff.1 h
    have hx := isFinite_of_scale? (isFinite_ofNat (absorb_lt hwhole t.fraction)) hscale
    rw [signed]
    split
    · exact isFinite_neg hx
    · exact hx

theorem valid_of_readNumber {s rest : Input} {n : Number} (h : readNumber s = .ok (n, rest)) :
    n.Valid := by
  simp only [readNumber] at h
  split at h
  · cases h
  · split at h
    · rename_i hvalue
      cases h
      exact valid_of_value? hvalue
    · cases h

/-! ### Containers -/

section Containers

variable {α σ : Type} {s rest : Input}

theorem forall_of_moreItems {item : Input → Except Fault (α × Input)} {P : α → Prop}
    (hitem : ∀ s x rest, item s = .ok (x, rest) → P x) {bound : Nat} {xs : List α}
    (h : moreItems item bound s = .ok (xs, rest)) : ∀ x ∈ xs, P x := by
  fun_induction moreItems item bound s generalizing xs rest with
  | case1 | case2 | case4 | case5 | case6 | case8 => cases h
  | case3 =>
    cases h
    simp
  | case7 bound s rest₁ _ rest₂ _ x rest₃ hx ys rest₄ hmore ih =>
    cases h
    exact List.forall_mem_cons.2 ⟨hitem _ _ _ hx, ih hmore⟩

/-- All items of an array have what every item has that is read. -/
theorem forall_of_readItems {item : Input → Except Fault (α × Input)} {P : α → Prop}
    (hitem : ∀ s x rest, item s = .ok (x, rest) → P x) {xs : List α}
    (h : readItems item s = .ok (xs, rest)) : ∀ x ∈ xs, P x := by
  rw [readItems] at h
  split at h
  · cases h
  · cases h
    simp
  · split at h
    · cases h
    · rename_i hx
      split at h
      · cases h
      · rename_i hmore
        cases h
        exact List.forall_mem_cons.2 ⟨hitem _ _ _ hx, forall_of_moreItems hitem hmore⟩

variable {member : σ → String → Input → Except Fault (σ × Input)} {I : σ → Prop} {state state' : σ}
  (hmember : ∀ state key s state' rest, I state → member state key s = .ok (state', rest) →
    I state')

include hmember in
theorem invariant_of_readMember (hstate : I state)
    (h : readMember member state s = .ok (state', rest)) : I state' := by
  rw [readMember] at h
  split at h
  · cases h
  · split at h
    · cases h
    · exact hmember _ _ _ _ _ hstate h

include hmember in
theorem invariant_of_moreMembers {bound : Nat} (hstate : I state)
    (h : moreMembers member bound state s = .ok (state', rest)) : I state' := by
  fun_induction moreMembers member bound state s with
  | case1 | case2 | case4 | case5 | case7 => cases h
  | case3 =>
    cases h
    exact hstate
  | case6 bound state s rest₁ _ rest₂ _ state₁ rest₃ hread ih =>
    exact ih (invariant_of_readMember hmember hstate hread) h

include hmember in
/-- What every member keeps that is read is kept by all members of an object. -/
theorem invariant_of_readMembers (hstate : I state)
    (h : readMembers member state s = .ok (state', rest)) : I state' := by
  rw [readMembers] at h
  split at h
  · cases h
  · cases h
    exact hstate
  · split at h
    · cases h
    · rename_i hread
      exact invariant_of_moreMembers hmember (invariant_of_readMember hmember hstate hread) h

/-- The state that a member leaves is the one it found, with a value added that was read. -/
theorem exists_of_valueMember {value : Input → Except Fault (α × Input)}
    {add : σ → String → α → σ} {key : String}
    (h : valueMember value add state key s = .ok (state', rest)) :
    ∃ s' x, value s' = .ok (x, rest) ∧ state' = add state key x := by
  rw [valueMember] at h
  split at h
  · cases h
  · split at h
    · cases h
    · rename_i hvalue
      cases h
      exact ⟨_, _, hvalue, rfl⟩

end Containers

/-! ### Values -/

theorem exists_of_map_eq_ok {ε α β : Type} {x : Except ε α} {f : α → β} {b : β}
    (h : x.map f = .ok b) : ∃ a, x = .ok a ∧ f a = b := by
  cases x with
  | error => cases h
  | ok a => exact ⟨a, rfl, Except.ok.inj h⟩

/-- The members of an object: in order, valid and not too deep. -/
structure MembersValid (room : Nat) (members : List (String × Json)) : Prop where
  ordered : Keyed.Ordered members
  valid : ∀ member ∈ members, member.2.Valid ∧ member.2.depth ≤ room

theorem MembersValid.nil (room : Nat) : MembersValid room [] :=
  ⟨List.Pairwise.nil, by simp⟩

theorem MembersValid.insert {room : Nat} {members : List (String × Json)}
    (h : MembersValid room members) (key : String) {x : Json} (hx : x.Valid ∧ x.depth ≤ room) :
    MembersValid room (Keyed.insert key x members) where
  ordered := h.ordered.insert key x
  valid := by
    intro member hmem
    rcases Keyed.mem_insert hmem with rfl | hmem
    · exact hx
    · exact h.valid member hmem

/-- What is read is a scalar, or a container whose contents were read with room for one less. -/
theorem readValue_cases {room : Nat} {s rest : Input} {v : Json}
    (h : readValue room s = .ok (v, rest)) :
    (v.Valid ∧ v.depth = 0) ∨ ∃ room' t, room = room' + 1 ∧
      ((∃ items, v = .array items ∧ readItems (readValue room') t = .ok (items, rest)) ∨
        ∃ members, v = .object members ∧
          readMembers (valueMember (readValue room') fun l key x ↦ Keyed.insert key x l) [] t =
            .ok (members, rest)) := by
  rw [readValue] at h
  split at h
  · cases h
  · cases h
  · rename_i c t _
    split at h
    · obtain ⟨_, -, heq⟩ := exists_of_map_eq_ok h
      cases heq
      exact .inl ⟨.null, rfl⟩
    split at h
    · obtain ⟨_, -, heq⟩ := exists_of_map_eq_ok h
      cases heq
      exact .inl ⟨.bool true, rfl⟩
    split at h
    · obtain ⟨_, -, heq⟩ := exists_of_map_eq_ok h
      cases heq
      exact .inl ⟨.bool false, rfl⟩
    split at h
    · obtain ⟨_, hread, heq⟩ := exists_of_map_eq_ok h
      cases heq
      exact .inl ⟨.number (valid_of_readNumber hread), rfl⟩
    split at h
    · obtain ⟨_, -, heq⟩ := exists_of_map_eq_ok h
      cases heq
      exact .inl ⟨.string _, rfl⟩
    split at h
    · cases room with
      | zero => cases h
      | succ room =>
        obtain ⟨_, hread, heq⟩ := exists_of_map_eq_ok h
        cases heq
        exact .inr ⟨room, t, rfl, .inl ⟨_, rfl, hread⟩⟩
    split at h
    · cases room with
      | zero => cases h
      | succ room =>
        obtain ⟨_, hread, heq⟩ := exists_of_map_eq_ok h
        cases heq
        exact .inr ⟨room, t, rfl, .inr ⟨_, rfl, hread⟩⟩
    · cases h

/-- Members that are read by a reader of valid values are put in order, and are as it reads them. -/
theorem membersValid_step {room : Nat}
    (hvalue : ∀ s x rest, readValue room s = .ok (x, rest) → x.Valid ∧ x.depth ≤ room)
    (state : List (String × Json)) (key : String) (s : Input) (state' : List (String × Json))
    (rest : Input) (hstate : MembersValid room state)
    (h : valueMember (readValue room) (fun l key x ↦ Keyed.insert key x l) state key s =
      .ok (state', rest)) : MembersValid room state' := by
  obtain ⟨s', x, hread, rfl⟩ := exists_of_valueMember h
  exact hstate.insert key (hvalue s' x rest hread)

/-- A value that is read is valid, and opens no more containers than there was room for. -/
theorem valid_of_readValue {room : Nat} {s rest : Input} {v : Json}
    (h : readValue room s = .ok (v, rest)) : v.Valid ∧ v.depth ≤ room := by
  induction room generalizing s v rest with
  | zero =>
    obtain ⟨hvalid, hdepth⟩ | ⟨room', -, hroom, -⟩ := readValue_cases h
    · exact ⟨hvalid, Nat.le_of_eq hdepth⟩
    · cases hroom
  | succ room ih =>
    obtain ⟨hvalid, hdepth⟩ | ⟨room', t, hroom, ⟨items, rfl, hread⟩ | ⟨members, rfl, hread⟩⟩ :=
      readValue_cases h
    · exact ⟨hvalid, hdepth ▸ Nat.zero_le _⟩
    · obtain rfl := Nat.succ.inj hroom
      have hitems := forall_of_readItems (fun _ _ _ ↦ ih) hread
      refine ⟨.array fun x hx ↦ (hitems x hx).1, Nat.succ_le_succ ?_⟩
      exact itemsDepth_le_iff.2 fun x hx ↦ (hitems x hx).2
    · obtain rfl := Nat.succ.inj hroom
      have hmembers := invariant_of_readMembers (membersValid_step fun _ _ _ ↦ ih)
        (.nil room) hread
      refine ⟨.object hmembers.ordered fun member hmem ↦ (hmembers.valid member hmem).1,
        Nat.succ_le_succ ?_⟩
      exact membersDepth_le_iff.2 fun member hmem ↦ (hmembers.valid member hmem).2

end Json

end Workbench
